import EntityHub.Access.Rule
import EntityHub.Proofs.Dict
import EntityHub.Proofs.Json.Levels
import EntityHub.Proofs.Json.RoundTrip
import EntityHub.Query.Page
/-!
# Wire forms are read back

Entities, query results, contexts, continuations and access rules are read back from the text that
they are written as: `Json.wire_forms_read_back`. Of the values in an entity this is shown without
doubles (`Json.Value.Integral`), and for objects whose members are those of a dictionary
(`Json.Value.Sorted`), as in every value that was read (`Json.Value.sorted_of_ofRaw?`).

A text is read in two steps. The tree of the text is the tree of the value, whatever its numbers are,
if they are read back (`Json.Raw.ofText?_text`). From that tree a decoder gets what was written, if
it may open as many levels as there are: `Json.Value.ofRaw?_toRaw` for a value, and one lemma
for each record.
-/

namespace EntityHub

namespace Json

/-! ## Values -/

namespace Value

mutual

/-- The members of every object are in ascending order of their keys, of which none stands twice. -/
def Sorted : Value → Prop
  | .null | .bool _ | .number _ | .string _ => True
  | .array items => SortedItems items
  | .object members => (members.Pairwise fun a b => a.1 < b.1) ∧ SortedMembers members

/-- The items of an array are sorted. -/
def SortedItems : List Value → Prop
  | [] => True
  | v :: l => v.Sorted ∧ SortedItems l

/-- The values of the members of an object are sorted. -/
def SortedMembers : List (String × Value) → Prop
  | [] => True
  | (_, v) :: l => v.Sorted ∧ SortedMembers l

end

mutual

/-- Every number is an integer. -/
def Integral : Value → Prop
  | .null | .bool _ | .string _ | .number (.integer _ _) => True
  | .number (.double _) => False
  | .array items => IntegralItems items
  | .object members => IntegralMembers members

/-- Every number in the items of an array is an integer. -/
def IntegralItems : List Value → Prop
  | [] => True
  | v :: l => v.Integral ∧ IntegralItems l

/-- Every number in the members of an object is an integer. -/
def IntegralMembers : List (String × Value) → Prop
  | [] => True
  | (_, v) :: l => v.Integral ∧ IntegralMembers l

end

theorem mem_toRawMembers {l : List (String × Value)} {e : String × Value} (h : e ∈ l) :
    (some e.1, e.2.toRaw) ∈ toRawMembers l := by
  induction l with
  | nil => cases h
  | cons a l ih =>
    rcases List.mem_cons.mp h with rfl | h
    · exact List.mem_cons_self
    · exact List.mem_cons_of_mem _ (ih h)

/-- The members of an object have one level less. -/
theorem within_of_mem_members {n : Nat} {l : List (String × Value)}
    (h : (object l).toRaw.Within n) : ∃ m, n = m + 1 ∧ ∀ e ∈ l, e.2.toRaw.Within m := by
  cases h with
  | object h => exact ⟨_, rfl, fun e he => h _ (mem_toRawMembers he)⟩

theorem sortedMembers_iff {l : List (String × Value)} :
    SortedMembers l ↔ ∀ e ∈ l, e.2.Sorted := by
  induction l with
  | nil => simp [SortedMembers]
  | cons e l ih => rw [SortedMembers, ih, List.forall_mem_cons]

theorem integralMembers_iff {l : List (String × Value)} :
    IntegralMembers l ↔ ∀ e ∈ l, e.2.Integral := by
  induction l with
  | nil => simp [IntegralMembers]
  | cons e l ih => rw [IntegralMembers, ih, List.forall_mem_cons]

mutual

/-- Integers are read back. -/
theorem readable_of_integral : ∀ v : Value, v.Integral → v.Readable
  | .null, _ | .bool _, _ | .string _, _ => trivial
  | .number (.integer n inRange), _ => Number.readable_integer n inRange
  | .number (.double _), h => h.elim
  | .array items, h => readableItems_of_integral items h
  | .object members, h => readableMembers_of_integral members h

theorem readableItems_of_integral : ∀ l : List Value, IntegralItems l → ReadableItems l
  | [], _ => trivial
  | v :: l, h => ⟨readable_of_integral v h.1, readableItems_of_integral l h.2⟩

theorem readableMembers_of_integral :
    ∀ l : List (String × Value), IntegralMembers l → ReadableMembers l
  | [], _ => trivial
  | (_, v) :: l, h => ⟨readable_of_integral v h.1, readableMembers_of_integral l h.2⟩

end

mutual

/-- A value that was read is sorted. -/
theorem sorted_of_ofRaw? : ∀ (levels : Nat) (r : Raw) {v : Value}, ofRaw? levels r = some v →
    v.Sorted
  | levels, .null, v, h => by
    obtain rfl := Option.some.inj h
    trivial
  | levels, .bool b, v, h => by
    obtain rfl := Option.some.inj h
    trivial
  | levels, .number x, v, h => by
    obtain ⟨x, -, rfl⟩ := Option.map_eq_some_iff.mp h
    trivial
  | levels, .string s, v, h => by
    obtain ⟨s, -, rfl⟩ := Option.map_eq_some_iff.mp h
    trivial
  | 0, .array items, v, h => by cases h
  | levels + 1, .array items, v, h => by
    obtain ⟨vs, hvs, rfl⟩ := Option.map_eq_some_iff.mp h
    exact sortedItems_of_ofRawItems? levels items hvs
  | 0, .object members, v, h => by cases h
  | levels + 1, .object members, v, h => by
    obtain ⟨l, hl, rfl⟩ := Option.map_eq_some_iff.mp h
    have hsorted := sortedMembers_of_ofRawMembers? levels members hl
    exact ⟨(Dict.ofList l).sorted, sortedMembers_iff.mpr fun e he =>
      hsorted e (Dict.mem_of_mem_ofList he)⟩
termination_by _ r => sizeOf r

theorem sortedItems_of_ofRawItems? : ∀ (levels : Nat) (l : List Raw) {vs : List Value},
    ofRawItems? levels l = some vs → SortedItems vs
  | levels, [], vs, h => by
    obtain rfl := Option.some.inj h
    trivial
  | levels, r :: l, vs, h => by
    simp only [ofRawItems?, Option.bind_eq_bind, Option.bind_eq_some_iff] at h
    obtain ⟨v, hv, vs, hvs, h⟩ := h
    obtain rfl := Option.some.inj h
    exact ⟨sorted_of_ofRaw? levels r hv, sortedItems_of_ofRawItems? levels l hvs⟩
termination_by _ l => sizeOf l

theorem sortedMembers_of_ofRawMembers? : ∀ (levels : Nat) (l : List (Option String × Raw))
    {es : List (String × Value)}, ofRawMembers? levels l = some es → ∀ e ∈ es, e.2.Sorted
  | levels, [], es, h => by
    obtain rfl := Option.some.inj h
    simp
  | levels, (k, r) :: l, es, h => by
    simp only [ofRawMembers?, Option.bind_eq_bind, Option.bind_eq_some_iff] at h
    obtain ⟨k, -, v, hv, es, hes, h⟩ := h
    obtain rfl := Option.some.inj h
    exact List.forall_mem_cons.mpr
      ⟨sorted_of_ofRaw? levels r hv, sortedMembers_of_ofRawMembers? levels l hes⟩
termination_by _ l => sizeOf l

end

mutual

/-- The tree of a sorted value is read as the value. -/
theorem ofRaw?_toRaw : ∀ {n : Nat} (v : Value), v.Sorted → v.toRaw.Within n →
    ofRaw? n v.toRaw = some v
  | n, .null, _, _ | n, .bool _, _, _ | n, .number _, _, _ | n, .string _, _, _ => rfl
  | n + 1, .array items, hv, .array h =>
    congrArg (Option.map Value.array) (ofRawItems?_toRawItems items hv h)
  | n + 1, .object members, hv, .object h => by
    rw [toRaw, ofRaw?, ofRawMembers?_toRawMembers members hv.2 h, Option.map_some, ofDict,
      Dict.entries_ofList hv.1]
termination_by _ v => sizeOf v

theorem ofRawItems?_toRawItems : ∀ {n : Nat} (l : List Value), SortedItems l →
    (∀ r ∈ toRawItems l, r.Within n) → ofRawItems? n (toRawItems l) = some l
  | n, [], _, _ => rfl
  | n, v :: l, hl, h => by
    obtain ⟨hv, h⟩ := List.forall_mem_cons.mp h
    rw [toRawItems, ofRawItems?, ofRaw?_toRaw v hl.1 hv, ofRawItems?_toRawItems l hl.2 h]
    rfl
termination_by _ l => sizeOf l

theorem ofRawMembers?_toRawMembers : ∀ {n : Nat} (l : List (String × Value)), SortedMembers l →
    (∀ e ∈ toRawMembers l, e.2.Within n) → ofRawMembers? n (toRawMembers l) = some l
  | n, [], _, _ => rfl
  | n, (k, v) :: l, hl, h => by
    obtain ⟨hv, h⟩ := List.forall_mem_cons.mp h
    rw [toRawMembers, ofRawMembers?, ofRaw?_toRaw v hl.1 hv,
      ofRawMembers?_toRawMembers l hl.2 h]
    rfl
termination_by _ l => sizeOf l

end

end Value

/-! ## Decoders -/

variable {α : Type} {n : Nat}

namespace Decoder

theorem uint64_toRaw (levels : Nat) (x : UInt64) :
    uint64 levels (Value.ofUInt64 x).toRaw = some x := by
  have hread : uint64 levels (Value.ofUInt64 x).toRaw =
      if (0 : Int) ≤ x.toNat then some (.ofNat x.toNat) else none := rfl
  rw [hread, if_pos (Int.natCast_nonneg _), UInt64.ofNat_toNat]

theorem int64_toRaw (levels : Nat) (x : Int64) :
    int64 levels (Value.ofInt64 x).toRaw = some x := by
  have hread : int64 levels (Value.ofInt64 x).toRaw =
      if x.toInt < 0x8000000000000000 then some (.ofInt x.toInt) else none := rfl
  have hlt : x.toInt < 0x8000000000000000 := x.toInt_lt
  rw [hread, if_pos hlt, Int64.ofInt_toInt]

/-- A dictionary is read back if its values are. -/
theorem dict_toRaw {d : Decoder α} {f : α → Value} {x : Dict α}
    (h : ∀ e ∈ x.entries, d n (f e.2).toRaw = some e.2) :
    dict d (n + 1) (Value.ofDict (x.map f)).toRaw = some x := by
  have hentries : ∀ l : List (String × α), (∀ e ∈ l, d n (f e.2).toRaw = some e.2) →
      entries d (n + 1) (.object (Value.toRawMembers (l.map fun e => (e.1, f e.2)))) = some l := by
    intro l hl
    rw [entries, mapM_eq_some_iff]
    induction l with
    | nil => exact .nil
    | cons e l ih =>
      obtain ⟨he, hl⟩ := List.forall_mem_cons.mp hl
      refine .cons ?_ (ih hl)
      simp [he]
  have hraw : (Value.ofDict (x.map f)).toRaw =
      .object (Value.toRawMembers (x.entries.map fun e => (e.1, f e.2))) := rfl
  rw [hraw, dict, hentries x.entries h, Option.map_some, Dict.ofList_entries]

/-- A dictionary of values is read back if they are sorted. -/
theorem dict_value_toRaw {x : Dict Value} (hs : ∀ e ∈ x.entries, e.2.Sorted)
    (h : (Value.ofDict x).toRaw.Within n) : dict value n (Value.ofDict x).toRaw = some x := by
  have hmap : x.map (fun v => v) = x := Dict.ext (List.map_id' _)
  obtain ⟨m, rfl, hmembers⟩ := Value.within_of_mem_members h
  refine (congrArg (fun y => dict value _ (Value.ofDict y).toRaw) hmap).symm.trans
    (dict_toRaw fun e he => ?_)
  exact Value.ofRaw?_toRaw e.2 (hs e he) (hmembers e he)

end Decoder

/-- Of the text of `v`, and of its octets, the decoder reads `x`. -/
def ReadBack (d : Decoder α) (v : Value) (x : α) : Prop :=
  d.ofText? v.text = some x ∧ d.ofOctets? (Utf8.encode v.text) = some x

/-- To be read back from a text, it is enough to be read back from the tree. -/
theorem readBack_of_toRaw {d : Decoder α} {v : Value} {x : α} (hv : v.Integral)
    (h : d maxLevels v.toRaw = some x) : ReadBack d v x := by
  have hreadable := Value.readable_of_integral v hv
  constructor
  · rw [Decoder.ofText?, Raw.ofText?_text hreadable, Option.bind_eq_bind, Option.bind_some, h]
  · rw [Decoder.ofOctets?, Raw.ofOctets?_encode_text hreadable, Option.bind_eq_bind,
      Option.bind_some, h]

end Json

/-! ## Records -/

open Json (Decoder Value)

namespace Entity

/-- Every value in the relations and properties of the entity has `P`. -/
def AllValues (e : Entity) (P : Value → Prop) : Prop :=
  (∀ m ∈ e.references.entries, P m.2) ∧ ∀ m ∈ e.props.entries, P m.2

/-- The tree of an entity is read as the entity. -/
theorem decoder_toRaw {e : Entity} {n : Nat} (hs : e.AllValues Value.Sorted)
    (h : e.toValue.toRaw.Within n) : decoder n e.toValue.toRaw = some e := by
  obtain ⟨m, rfl, hmembers⟩ := Value.within_of_mem_members h
  simp only [List.forall_mem_append, List.forall_mem_cons] at hmembers
  obtain ⟨-, -, hrefs, hprops, -⟩ := hmembers
  -- `recorded` is left out when there is none, and then read as none.
  let slot : Option UInt64 → Json.Slot
    | none => .omitted
    | some x => .given (Value.ofUInt64 x).toRaw
  have hslots : Json.slots? ["id", "recorded", "deleted", "refs", "props"] (m + 1) e.toValue.toRaw =
      some (m, [.given (Value.string e.id).toRaw, slot e.recorded,
        .given (Value.bool e.deleted).toRaw, .given (Value.ofDict e.references).toRaw,
        .given (Value.ofDict e.props).toRaw]) := by
    obtain ⟨id, recorded, deleted, refs, props⟩ := e
    cases recorded <;> rfl
  have hrecorded : (slot e.recorded).defaulted none (Decoder.optional Decoder.uint64) m =
      some e.recorded := by
    cases e.recorded with
    | none => rfl
    | some x => exact congrArg (Option.map some) (Decoder.uint64_toRaw m x)
  simp only [decoder, hslots, Option.bind_eq_bind, Option.bind_some, hrecorded]
  simp only [Json.Slot.required, Json.Slot.defaulted, Option.bind_some,
    Decoder.dict_value_toRaw hs.1 hrefs, Decoder.dict_value_toRaw hs.2 hprops]
  rfl

/-- An entity has two levels more than its values. -/
theorem within_toValue {e : Entity} {n : Nat} (h : e.AllValues fun v => v.toRaw.Within n) :
    e.toValue.toRaw.Within (n + 2) := by
  have hdict {d : Dict Value} (h : ∀ m ∈ d.entries, m.2.toRaw.Within n) :
      (Value.ofDict d).toRaw.Within (n + 1) :=
    .object fun m hm => by
      obtain ⟨a, ha, rfl⟩ := Value.exists_of_mem_toRawMembers hm
      exact h a ha
  refine .object fun m hm => ?_
  obtain ⟨a, ha, rfl⟩ := Value.exists_of_mem_toRawMembers hm
  simp only [List.mem_append, List.mem_cons, List.not_mem_nil, or_false, List.mem_map] at ha
  rcases ha with (rfl | ⟨x, -, rfl⟩) | rfl | rfl | rfl
  · exact .string _
  · exact .number _
  · exact .bool _
  · exact hdict h.1
  · exact hdict h.2

theorem integral_toValue {e : Entity} (h : e.AllValues Value.Integral) : e.toValue.Integral := by
  have hdict {d : Dict Value} (h : ∀ m ∈ d.entries, m.2.Integral) : (Value.ofDict d).Integral :=
    Value.integralMembers_iff.mpr h
  refine Value.integralMembers_iff.mpr fun m hm => ?_
  simp only [List.mem_append, List.mem_cons, List.not_mem_nil, or_false, List.mem_map] at hm
  rcases hm with (rfl | ⟨x, -, rfl⟩) | rfl | rfl | rfl
  · trivial
  · trivial
  · trivial
  · exact hdict h.1
  · exact hdict h.2

end Entity

/-- The tree of a query result is read as the result. -/
theorem QueryResult.decoder_toRaw {r : QueryResult} {n : Nat}
    (hs : r.entity.AllValues Value.Sorted) (h : r.toValue.toRaw.Within n) :
    decoder n r.toValue.toRaw = some r := by
  cases h with
  | @array m _ h =>
    have hentity := Entity.decoder_toRaw hs (h r.entity.toValue.toRaw (by simp [Value.toRawItems]))
    have hread : decoder (m + 1) r.toValue.toRaw = (Entity.decoder m r.entity.toValue.toRaw).bind
        fun e => some ⟨r.subject, r.predicate, e⟩ := rfl
    rw [hread, hentity]
    rfl

/-- The tree of a context is read as the context. -/
theorem Context.decoder_toRaw (c : Context) (n : Nat) :
    decoder (n + 2) c.toValue.toRaw = some c := by
  have hread : decoder (n + 2) c.toValue.toRaw =
      (Decoder.dict Decoder.string (n + 1) (Value.ofDict (c.namespaces.map .string)).toRaw).bind
        fun d => some ⟨d⟩ := rfl
  rw [hread, Decoder.dict_toRaw fun e _ => rfl]
  rfl

namespace Json

/-- Entities, query results, contexts, continuations and access rules are read back from the text
that they are written as: an entity without doubles, if it has no more levels than may be opened,
and a query result if its entity is such. -/
theorem wire_forms_read_back :
    (∀ e : Entity, e.AllValues Value.Sorted → e.AllValues Value.Integral →
      e.toValue.toRaw.Within maxLevels → ReadBack Entity.decoder e.toValue e) ∧
    (∀ r : QueryResult, r.entity.AllValues Value.Sorted → r.entity.AllValues Value.Integral →
      r.toValue.toRaw.Within maxLevels → ReadBack QueryResult.decoder r.toValue r) ∧
    (∀ c : Context, ReadBack Context.decoder c.toValue c) ∧
    (∀ k : Continuation, ReadBack Continuation.decoder k.toValue k) ∧
    ∀ a : AccessRule, ReadBack AccessRule.decoder a.toValue a := by
  refine ⟨fun e hs hi h => ?_, fun r hs hi h => ?_, fun c => ?_, fun k => ?_, fun a => ?_⟩
  · exact readBack_of_toRaw (Entity.integral_toValue hi) (Entity.decoder_toRaw hs h)
  · have hintegral : r.toValue.Integral :=
      ⟨trivial, trivial, Entity.integral_toValue hi, trivial⟩
    exact readBack_of_toRaw hintegral (QueryResult.decoder_toRaw hs h)
  · have hintegral : c.toValue.Integral :=
      ⟨Value.integralMembers_iff.mpr fun e he => by
        obtain ⟨a, -, rfl⟩ := List.mem_map.mp he
        trivial, trivial⟩
    exact readBack_of_toRaw hintegral (Context.decoder_toRaw c 125)
  · exact readBack_of_toRaw ⟨trivial, trivial⟩ rfl
  · exact readBack_of_toRaw ⟨trivial, trivial, trivial, trivial⟩ rfl

theorem wire_forms_read_back_nested :
    let targets := .array [.string "ns0:a", .array [.string "\u202e"]]
    let property := .object [("", .null), ("x", .array [.number (.integer (-1) (by decide))])]
    let e : Entity :=
      { id := "ns0:café \"\\\n", recorded := some 0xFFFFFFFFFFFFFFFF, deleted := true
        references := .insert ∅ "ns0:knows" targets, props := .insert ∅ "ns0:at" property }
    let r : QueryResult := ⟨"ns0:s", "ns0:p", e⟩
    (e.AllValues Value.Sorted ∧ e.AllValues Value.Integral ∧ e.toValue.toRaw.Within maxLevels ∧
      ReadBack Entity.decoder e.toValue e) ∧
    r.toValue.toRaw.Within maxLevels ∧ ReadBack QueryResult.decoder r.toValue r := by
  intro targets property e r
  have hall {P : Value → Prop} (ht : P targets) (hp : P property) : e.AllValues P :=
    ⟨List.forall_mem_singleton.mpr ht, List.forall_mem_singleton.mpr hp⟩
  have hs : e.AllValues Value.Sorted :=
    hall ⟨trivial, ⟨trivial, trivial⟩, trivial⟩
      ⟨List.pairwise_pair.mpr (by decide), trivial, ⟨trivial, trivial⟩, trivial⟩
  have hi : e.AllValues Value.Integral :=
    hall ⟨trivial, ⟨trivial, trivial⟩, trivial⟩ ⟨trivial, ⟨trivial, trivial⟩, trivial⟩
  have he {n : Nat} : e.toValue.toRaw.Within (n + 4) :=
    Entity.within_toValue (hall (.array (List.forall_mem_cons.mpr ⟨.string _,
      List.forall_mem_singleton.mpr (.array (List.forall_mem_singleton.mpr (.string _)))⟩))
      (.object (List.forall_mem_cons.mpr ⟨.null,
        List.forall_mem_singleton.mpr (.array (List.forall_mem_singleton.mpr (.number _)))⟩)))
  have hr : r.toValue.toRaw.Within maxLevels :=
    .array (List.forall_mem_cons.mpr ⟨.string _, List.forall_mem_cons.mpr ⟨.string _,
      List.forall_mem_singleton.mpr he⟩⟩)
  exact ⟨⟨hs, hi, he, wire_forms_read_back.1 e hs hi he⟩, hr,
    wire_forms_read_back.2.1 r hs hi hr⟩

end Json

end EntityHub
