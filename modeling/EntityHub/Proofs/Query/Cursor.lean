import EntityHub.Client.Query
import EntityHub.Proofs.Json.StringArray
/-!
# Continuations in cursors and bodies

A cursor carries the continuations of a page as they are (`Query.decodeCursor_encodeCursor`), and
any text that is an array of strings carries these (`Query.decodeCursor_eq_ok_iff`). The body of a
request is read as the fields of the query and, if there are any, the continuations
(`Query.ofOctets?_body`).
-/

namespace EntityHub.Query

open Json (Decoder Raw StringArray Value)

/-! ## Lists of texts -/

theorem readable_stringsToValue (l : List String) : (stringsToValue l).Readable := by
  have h : ∀ l : List String, Value.ReadableItems (l.map .string) := by
    intro l
    induction l with
    | nil => trivial
    | cons s l ih => exact ⟨trivial, ih⟩
  exact h l

/-- The trees of texts. -/
theorem toRawItems_strings (l : List String) :
    Value.toRawItems (l.map .string) = l.map fun s => Raw.string (some s) := by
  induction l with
  | nil => rfl
  | cons s l ih => simp [Value.toRawItems, Value.toRaw, ih]

theorem toRaw_stringsToValue (l : List String) :
    (stringsToValue l).toRaw = .array (l.map fun s => .string (some s)) :=
  congrArg Raw.array (toRawItems_strings l)

/-! ## Cursors -/

/-- A cursor carries the continuations it was made of. -/
theorem decodeCursor_encodeCursor (l : List String) : decodeCursor (encodeCursor l) = .ok l := by
  have h : (Decoder.list Decoder.string).ofText? (stringsToValue l).text = some l := by
    rw [Decoder.ofText?, Raw.ofText?_text (readable_stringsToValue l), toRaw_stringsToValue]
    exact Decoder.list_string_eq_some_iff.mpr rfl
  rw [decodeCursor, encodeCursor, h]

theorem encodeCursor_injective : Function.Injective encodeCursor := by
  intro l m h
  have hdecode := decodeCursor_encodeCursor l
  rw [h, decodeCursor_encodeCursor] at hdecode
  exact (Except.ok.inj hdecode).symm

/-- A cursor carries continuations if and only if its text is an array of them. -/
theorem decodeCursor_eq_ok_iff {k : Continuation} {l : List String} :
    decodeCursor k = .ok l ↔ StringArray k.value.toList l := by
  rw [← Decoder.ofText?_list_string, decodeCursor]
  split
  · next m hm => rw [hm, Except.ok.injEq, Option.some.injEq]
  · next hm => simp [hm]

/-- A cursor whose text is no array of strings is refused. -/
theorem decodeCursor_eq_error_iff {k : Continuation} {e : Error} :
    decodeCursor k = .error e ↔
      e = .ofFault .notAQueryCursor .json ∧ ∀ l, ¬StringArray k.value.toList l := by
  simp only [← Decoder.ofText?_list_string, decodeCursor]
  split
  · next m hm => simp [hm]
  · next hm => simp [hm, eq_comm]

-- Blanks and escapes do not matter. Half a surrogate pair is no text, and a comma wants an item.
example :
    (decodeCursor ⟨" [ \"k\" ,\n\"\\u00e9\\/\\ud83d\\ude00\"]"⟩).toOption = some ["k", "é/😀"] ∧
    (decodeCursor ⟨"[\"\\ud83d\"]"⟩).toOption = none ∧
    (decodeCursor ⟨"[\"k\",]"⟩).toOption = none := by
  decide +kernel

/-! ## Bodies -/

theorem readableMembers_append (l m : List (String × Value)) :
    Value.ReadableMembers (l ++ m) ↔ Value.ReadableMembers l ∧ Value.ReadableMembers m := by
  induction l with
  | nil => simp [Value.ReadableMembers]
  | cons e l ih =>
    obtain ⟨k, v⟩ := e
    simp [Value.ReadableMembers, ih, and_assoc]

theorem toRawMembers_append (l m : List (String × Value)) :
    Value.toRawMembers (l ++ m) = Value.toRawMembers l ++ Value.toRawMembers m := by
  induction l with
  | nil => rfl
  | cons e l ih =>
    obtain ⟨k, v⟩ := e
    simp [Value.toRawMembers, ih]

theorem readableMembers_fields (q : Query) : Value.ReadableMembers q.fields := by
  have hlimit : Value.ReadableMembers
      (q.limit.toList.map fun n => ("limit", Value.ofUInt64 n.toUInt64)) := by
    rcases q.limit with _ | n
    · trivial
    · exact ⟨Json.Number.readable_integer _ _, trivial⟩
  have hdatasets : Value.ReadableMembers
      (if q.datasets.isEmpty then [] else [("datasets", stringsToValue q.datasets)]) := by
    split
    · trivial
    · exact ⟨readable_stringsToValue _, trivial⟩
  simp only [fields, readableMembers_append]
  exact ⟨⟨⟨⟨⟨readable_stringsToValue _, trivial, trivial, trivial⟩, hdatasets⟩, trivial, trivial⟩,
    hlimit⟩, trivial, trivial⟩

/-- A limit is an integer that can be held. -/
theorem inRange_toNat (n : UInt32) :
    -0x8000000000000000 ≤ (n.toNat : Int) ∧ (n.toNat : Int) < 0x10000000000000000 := by
  have := n.toNat_lt
  omega

/-- The fields of a query are written under their names, datasets and limit only if there are any. -/
theorem toRawMembers_fields (q : Query) : Value.toRawMembers q.fields =
    [(some "startingEntities", .array (q.startingEntities.map fun s => .string (some s))),
      (some "predicate", .string (some q.predicate)), (some "inverse", .bool q.inverse)] ++
    (if q.datasets = [] then [] else
      [(some "datasets", .array (q.datasets.map fun s => .string (some s)))]) ++
    [(some "details", .bool q.details)] ++
    (q.limit.toList.map fun n =>
      (some "limit", .number (some (.integer n.toNat (inRange_toNat n))))) ++
    [(some "noPartialMerging", .bool q.noPartialMerging)] := by
  have hdatasets : Value.toRawMembers
      (if q.datasets.isEmpty then [] else [("datasets", stringsToValue q.datasets)]) =
      if q.datasets = [] then [] else
        [(some "datasets", .array (q.datasets.map fun s => .string (some s)))] := by
    rcases q.datasets with _ | ⟨d, l⟩
    · rfl
    · rw [if_neg (by simp), if_neg (by simp), Value.toRawMembers, toRaw_stringsToValue]
      rfl
  have hlimit : Value.toRawMembers
      (q.limit.toList.map fun n => ("limit", Value.ofUInt64 n.toUInt64)) =
      q.limit.toList.map fun n =>
        (some "limit", .number (some (.integer n.toNat (inRange_toNat n)))) := by
    rcases q.limit with _ | n <;> rfl
  rw [fields, toRawMembers_append, toRawMembers_append, toRawMembers_append, toRawMembers_append,
    hdatasets, hlimit]
  simp only [Value.toRawMembers, Value.toRaw, toRaw_stringsToValue]

/-- The body of a request is read as the fields of the query and the continuations, if any. -/
theorem ofOctets?_body (q : Query) (l : List String) :
    Raw.ofOctets? (Utf8.encode (q.body l).text) =
      some (.object (Value.toRawMembers q.fields ++ if l = [] then [] else
        [(some "continuations", .array (l.map fun s => .string (some s)))])) := by
  have hbody : (q.body l).Readable := by
    refine (readableMembers_append _ _).mpr ⟨q.readableMembers_fields, ?_⟩
    split
    · trivial
    · exact ⟨readable_stringsToValue l, trivial⟩
  rw [Raw.ofOctets?_encode_text hbody, body, Value.toRaw, toRawMembers_append]
  rcases l with _ | ⟨s, l⟩
  · rfl
  · rw [if_neg (by simp), if_neg (by simp), Value.toRawMembers, toRaw_stringsToValue]
    rfl

end EntityHub.Query
