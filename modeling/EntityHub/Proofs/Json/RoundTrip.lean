import EntityHub.Json.Decode
import EntityHub.Json.Printer
import EntityHub.Proofs.Text.Utf8
import Mathlib.Data.Option.Basic
/-!
# What is written is read back

The reader takes the text of a value for the tree of that value (`Json.Raw.ofText?_text`). Of the
numbers this is shown for the integers; `Value.Readable` is a value whose numbers are read back.

The text of a value is followed by the end, or by one of the signs that close or part values
(`Closes`), and each part of the reader stops right there.
-/

namespace EntityHub.Json

/-- What follows a value in compact text. -/
def Closes (s : Source) : Prop :=
  s = [] ∨ ∃ c l, s = some c :: l ∧ (c = ',' ∨ c = ']' ∨ c = '}')

namespace Raw

/-! ## Strings -/

/-- The part of a string that the text of a character is read as. -/
def pieceOf (c : Char) : Piece :=
  if c < ' ' ∧ c ∉ ['\x08', '\x0c', '\n', '\r', '\t'] then .unit c.toNat else .char c

theorem pieces?_letter {c d : Char} (hc : escape? c = some d) (s : Source) :
    pieces? (some '\\' :: some c :: s) = (pieces? s).map fun x => (.char d :: x.1, x.2) := by
  have hu : c ≠ 'u' := by
    rintro rfl
    cases hc
  rw [pieces?, hc, Option.map_eq_bind]
  · rfl
  · exact fun _ _ _ _ _ _ => hu

theorem pieces?_unit {a b c d : Char} {n : Nat} (hn : hex4? a b c d = some n) (s : Source) :
    pieces? (some '\\' :: some 'u' :: some a :: some b :: some c :: some d :: s) =
      (pieces? s).map fun x => (.unit n :: x.1, x.2) := by
  rw [pieces?, hn, Option.map_eq_bind]
  rfl

theorem pieces?_plain {c : Char} (hq : c ≠ '"') (hb : c ≠ '\\') (hc : ' ' ≤ c) (s : Source) :
    pieces? (some c :: s) = (pieces? s).map fun x => (.char c :: x.1, x.2) := by
  have hguard : (guard (' ' ≤ c) : Option Unit) = some () := if_pos hc
  rw [pieces?, Option.map_eq_bind, hguard]
  · rfl
  · exact hq
  · exact fun _ _ _ _ _ _ => hb
  · exact fun _ _ _ => hb
  · exact hb

theorem hex4?_control : ∀ n < 32, hex4? '0' '0' (hexChar (n / 16)) (hexChar (n % 16)) = some n := by
  decide

theorem pieces?_escapeChar (c : Char) (s : Source) :
    pieces? ((escapeChar c).map some ++ s) = (pieces? s).map fun x => (pieceOf c :: x.1, x.2) := by
  by_cases hq : c = '"'
  · subst hq
    exact pieces?_letter rfl s
  by_cases hb : c = '\\'
  · subst hb
    exact pieces?_letter rfl s
  by_cases hl : c ∈ ['\x08', '\x0c', '\n', '\r', '\t']
  · simp only [List.mem_cons, List.not_mem_nil, or_false] at hl
    rcases hl with rfl | rfl | rfl | rfl | rfl <;> exact pieces?_letter rfl s
  have hn := hl
  simp only [List.mem_cons, List.not_mem_nil, or_false, not_or] at hn
  obtain ⟨h₁, h₂, h₃, h₄, h₅⟩ := hn
  by_cases hc : c < ' '
  · have hlt : c.toNat < 32 := hc
    have he : escapeChar c =
        ['\\', 'u', '0', '0', hexChar (c.toNat / 16), hexChar (c.toNat % 16)] := by
      simp [escapeChar, hq, hb, h₁, h₂, h₃, h₄, h₅, hc]
    rw [he, pieceOf, if_pos ⟨hc, hl⟩]
    exact pieces?_unit (hex4?_control _ hlt) s
  · have he : escapeChar c = [c] := by
      simp [escapeChar, hq, hb, h₁, h₂, h₃, h₄, h₅, hc]
    rw [he, pieceOf, if_neg (fun h => hc h.1)]
    exact pieces?_plain hq hb (Char.not_lt.mp hc) s

theorem characters?_unit {n : Nat} (hn : n < 0xD800 ∨ 0xDFFF < n) (l : List Piece) :
    characters? (.unit n :: l) = (characters? l).map (.ofNat n :: ·) := by
  rcases l with _ | ⟨_ | _ | _, l⟩ <;> simp [characters?, hn]

theorem characters?_pieceOf : ∀ l : List Char, characters? (l.map pieceOf) = some l
  | [] => rfl
  | c :: l => by
    have ih := characters?_pieceOf l
    rw [List.map_cons, pieceOf]
    split
    · next h =>
      have hlt : c.toNat < 32 := h.1
      rw [characters?_unit (by omega), ih, Char.ofNat_toNat]
      rfl
    · rw [characters?, ih]
      rfl

/-- A string is read back up to its closing quote. -/
theorem string?_quoted (t : String) (s : Source) :
    string? ((t.toList.flatMap escapeChar ++ ['"']).map some ++ s) = some (some t, s) := by
  have hpieces : ∀ l : List Char, pieces? ((l.flatMap escapeChar ++ ['"']).map some ++ s) =
      some (l.map pieceOf, s) := by
    intro l
    induction l with
    | nil => simp [pieces?]
    | cons c l ih =>
      rw [List.flatMap_cons, List.append_assoc, List.map_append, List.append_assoc,
        pieces?_escapeChar, ih]
      rfl
  rw [string?, hpieces]
  simp [characters?_pieceOf]

/-! ## Integers -/

/-- The value of a decimal digit. -/
def digitValue (c : Char) : Nat := c.toNat - '0'.toNat

theorem digits_append {s : Source} (hs : Closes s) :
    ∀ l : List Char, (∀ c ∈ l, c.isDigit = true) → digits (l.map some ++ s) = (l.map digitValue, s)
  | [], _ => by rcases hs with rfl | ⟨c, s, rfl, rfl | rfl | rfl⟩ <;> rfl
  | c :: l, h => by
    have hc : digit? c = some (digitValue c) := by simp [digit?, digitValue, h c (by simp)]
    have ih := digits_append hs l fun d hd => h d (List.mem_cons_of_mem _ hd)
    rw [List.map_cons, List.cons_append, digits, hc, ih]
    rfl

theorem fraction?_of_closes {s : Source} (hs : Closes s) : fraction? s = some (none, s) := by
  rcases hs with rfl | ⟨c, s, rfl, rfl | rfl | rfl⟩ <;> rfl

theorem exponent?_of_closes {s : Source} (hs : Closes s) : exponent? s = some (none, s) := by
  rcases hs with rfl | ⟨c, s, rfl, rfl | rfl | rfl⟩ <;> rfl

/-- The digits of a natural have no zero in front of other digits. -/
theorem toDigits_head (n : Nat) :
    ∃ c l, Nat.toDigits 10 n = c :: l ∧ (c = '0' → n = 0 ∧ l = []) := by
  induction n using Nat.strongRecOn with
  | ind n ih =>
    by_cases hn : n < 10
    · refine ⟨_, [], Nat.toDigits_of_lt_base hn, fun h => ⟨Nat.digitChar_eq_zero.mp h, rfl⟩⟩
    · obtain ⟨c, l, hcl, hzero⟩ := ih (n / 10) (by omega)
      refine ⟨c, l ++ [(n % 10).digitChar], ?_, fun h => ?_⟩
      · rw [Nat.toDigits_of_base_le (by decide) (by omega), hcl, List.cons_append]
      · have := (hzero h).1
        omega

theorem value_toDigits (n : Nat) :
    NumberText.value ((Nat.toDigits 10 n).map digitValue) = n := by
  have h := Nat.ofDigitChars_toDigits (b := 10) (n := n) (by decide) (by decide)
  rw [Nat.ofDigitChars_eq_foldl] at h
  rw [NumberText.value, List.foldl_map]
  simpa [digitValue, Nat.mul_comm] using h

/-- The number at the front of a text after its sign. -/
def unsigned? (negative : Bool) (s : Source) : Option (Raw × Source) :=
  match digits s with
  | ([], _) => none
  | (0 :: _ :: _, _) => none
  | (whole, s) => do
    let (fraction, s) ← fraction? s
    let (exponent, s) ← exponent? s
    let t : NumberText :=
      { negative, whole, fraction := fraction.getD [], exponent, point := fraction.isSome }
    return (.number t.number?, s)

theorem number?_negative (s : Source) : number? (some '-' :: s) = unsigned? true s := rfl

theorem number?_positive {s : Source} (h : ∀ t, s ≠ some '-' :: t) :
    number? s = unsigned? false s := by
  unfold number?
  split
  next _ hsign =>
    split at hsign
    · exact absurd rfl (h _)
    · obtain ⟨rfl, rfl⟩ := Prod.mk.inj hsign
      rfl

theorem isDigit_toDigits {n : Nat} : ∀ c ∈ Nat.toDigits 10 n, c.isDigit = true := fun _ hc =>
  Nat.isDigit_of_mem_toDigits (by decide) (by decide) hc

theorem eq_zero_of_digitValue {c : Char} (hc : c.isDigit = true) (h : digitValue c = 0) :
    c = '0' := by
  have hle : '0'.toNat ≤ c.toNat := (Char.isDigit_iff_toNat.mp hc).1
  refine Char.toNat_inj.mp (Nat.le_antisymm ?_ hle)
  exact Nat.sub_eq_zero_iff_le.mp h

theorem unsigned?_toDigits (negative : Bool) (n : Nat) {s : Source} (hs : Closes s) :
    unsigned? negative ((Nat.toDigits 10 n).map some ++ s) =
      some (.number (NumberText.number?
        { negative, whole := (Nat.toDigits 10 n).map digitValue }), s) := by
  rw [unsigned?, digits_append hs _ isDigit_toDigits]
  obtain ⟨c, l, hcl, hzero⟩ := toDigits_head n
  split
  · next h => simp [hcl] at h
  · next h =>
    have hc := isDigit_toDigits (n := n) c (by rw [hcl]; simp)
    rw [hcl] at h
    obtain ⟨hhead, htail⟩ := List.cons.inj (Prod.mk.inj h).1
    rw [(hzero (eq_zero_of_digitValue hc hhead)).2] at htail
    cases htail
  · next h =>
    obtain ⟨rfl, rfl⟩ := Prod.mk.inj h
    simp [fraction?_of_closes hs, exponent?_of_closes hs]

theorem number?_natural {whole : List Nat} (h : (0 : Int) ≤ NumberText.value whole ∧
      (NumberText.value whole : Int) < 0x10000000000000000) :
    NumberText.number? { negative := false, whole } =
      some (.integer (NumberText.value whole) ⟨by omega, h.2⟩) := by
  rw [NumberText.number?, if_neg (by simp), if_neg Bool.false_ne_true, dif_pos h]

theorem number?_negated {whole : List Nat} (h : (0 : Int) < NumberText.value whole ∧
      (NumberText.value whole : Int) ≤ 0x8000000000000000) :
    NumberText.number? { negative := true, whole } =
      some (.integer (-NumberText.value whole) ⟨by omega, by omega⟩) := by
  rw [NumberText.number?, if_neg (by simp), if_pos rfl, dif_pos h]

theorem toList_ofNat (n : Nat) : (toString (Int.ofNat n)).toList = Nat.toDigits 10 n :=
  Nat.toList_repr

theorem toList_negSucc (n : Nat) :
    (toString (Int.negSucc n)).toList = '-' :: Nat.toDigits 10 (n + 1) := by
  have h : toString (Int.negSucc n) = "-" ++ (n + 1).repr := rfl
  rw [h, String.toList_append, Nat.toList_repr]
  rfl

/-- An integer is read back. -/
theorem number?_integer (n : Int) (inRange : -0x8000000000000000 ≤ n ∧ n < 0x10000000000000000)
    {s : Source} (hs : Closes s) : number? ((toString n).toList.map some ++ s) =
      some (.number (some (.integer n inRange)), s) := by
  rcases n with n | n
  · have hn : (0 : Int) ≤ NumberText.value ((Nat.toDigits 10 n).map digitValue) ∧
        (NumberText.value ((Nat.toDigits 10 n).map digitValue) : Int) < 0x10000000000000000 := by
      rw [value_toDigits]
      exact ⟨by omega, inRange.2⟩
    rw [toList_ofNat, number?_positive ?_, unsigned?_toDigits false n hs, number?_natural hn]
    · simp only [value_toDigits]
      rfl
    · intro t ht
      obtain ⟨c, l, hcl, -⟩ := toDigits_head n
      have hc := isDigit_toDigits (n := n) c (by rw [hcl]; simp)
      rw [hcl] at ht
      rw [Option.some.inj (List.cons.inj ht).1] at hc
      cases hc
  · have hn : (0 : Int) < NumberText.value ((Nat.toDigits 10 (n + 1)).map digitValue) ∧
        (NumberText.value ((Nat.toDigits 10 (n + 1)).map digitValue) : Int) ≤
          0x8000000000000000 := by
      rw [value_toDigits]
      omega
    rw [toList_negSucc, List.map_cons, List.cons_append, number?_negative,
      unsigned?_toDigits true _ hs, number?_negated hn]
    simp only [value_toDigits]
    rfl

/-! ## Steps of the reader -/

theorem value?_array (fuel : Nat) {s : Source} (hs : skipBlanks s = s)
    (hne : ∀ t, s ≠ some ']' :: t) :
    value? (fuel + 1) (some '[' :: s) = (items? fuel s).map fun x => (.array x.1, x.2) := by
  rw [value?, hs]
  split
  · next t => exact absurd rfl (hne t)
  · rfl

theorem value?_object (fuel : Nat) (s : Source) :
    value? (fuel + 1) (some '{' :: some '"' :: s) =
      (members? fuel (some '"' :: s)).map fun x => (.object x.1, x.2) :=
  rfl

theorem items?_last {fuel : Nat} {s t : Source} {r : Raw}
    (h : value? fuel s = some (r, some ']' :: t)) : items? (fuel + 1) s = some ([r], t) := by
  rw [items?, h]
  rfl

theorem items?_more {fuel : Nat} {s t : Source} {r : Raw}
    (h : value? fuel s = some (r, some ',' :: t)) :
    items? (fuel + 1) s = (items? fuel (skipBlanks t)).map fun x => (r :: x.1, x.2) := by
  rw [items?, h, Option.map_eq_bind]
  rfl

theorem members?_last {fuel : Nat} {s t u : Source} {k : Option String} {r : Raw}
    (hk : string? s = some (k, some ':' :: t))
    (h : value? fuel (skipBlanks t) = some (r, some '}' :: u)) :
    members? (fuel + 1) (some '"' :: s) = some ([(k, r)], u) := by
  have hcolon : skipBlanks (some ':' :: t) = some ':' :: t := rfl
  rw [members?, hk, Option.bind_eq_bind, Option.bind_some]
  simp only [hcolon, h]
  rfl

theorem members?_more {fuel : Nat} {s t u : Source} {k : Option String} {r : Raw}
    (hk : string? s = some (k, some ':' :: t))
    (h : value? fuel (skipBlanks t) = some (r, some ',' :: u)) :
    members? (fuel + 1) (some '"' :: s) =
      (members? fuel (skipBlanks u)).map fun x => ((k, r) :: x.1, x.2) := by
  have hcolon : skipBlanks (some ':' :: t) = some ':' :: t := rfl
  rw [members?, hk, Option.bind_eq_bind, Option.bind_some, Option.map_eq_bind]
  simp only [hcolon, h]
  rfl

end Raw

/-! ## Trees -/

/-- The text of a number is read back. -/
structure Number.Readable (n : Number) : Prop where
  head : ∃ c l, n.text.toList = c :: l ∧ (c = '-' ∨ c.isDigit = true)
  read : ∀ s, Closes s → Raw.number? (n.text.toList.map some ++ s) = some (.number (some n), s)

theorem Number.readable_integer (n : Int)
    (inRange : -0x8000000000000000 ≤ n ∧ n < 0x10000000000000000) :
    (Number.integer n inRange).Readable := by
  refine ⟨?_, fun s hs => Raw.number?_integer n inRange hs⟩
  rcases n with n | n
  · obtain ⟨c, l, hcl, -⟩ := Raw.toDigits_head n
    exact ⟨c, l, (Raw.toList_ofNat n).trans hcl,
      .inr (Raw.isDigit_toDigits c (by rw [hcl]; simp))⟩
  · exact ⟨'-', _, Raw.toList_negSucc n, .inl rfl⟩

namespace Value

mutual

/-- The numbers of a value are read back. -/
def Readable : Value → Prop
  | .null | .bool _ | .string _ => True
  | .number n => n.Readable
  | .array items => ReadableItems items
  | .object members => ReadableMembers members

/-- The numbers of the items of an array are read back. -/
def ReadableItems : List Value → Prop
  | [] => True
  | v :: l => v.Readable ∧ ReadableItems l

/-- The numbers of the members of an object are read back. -/
def ReadableMembers : List (String × Value) → Prop
  | [] => True
  | (_, v) :: l => v.Readable ∧ ReadableMembers l

end

/-- No value begins with a blank or with the end of an array. -/
theorem chars_head {v : Value} (hv : v.Readable) :
    ∃ c l, v.chars = c :: l ∧ Raw.isBlank c = false ∧ c ≠ ']' := by
  cases v with
  | null => exact ⟨_, _, rfl, rfl, by decide⟩
  | bool b => cases b <;> exact ⟨_, _, rfl, rfl, by decide⟩
  | string => exact ⟨_, _, rfl, rfl, by decide⟩
  | array items => cases items <;> exact ⟨_, _, rfl, rfl, by decide⟩
  | object members => cases members <;> exact ⟨_, _, rfl, rfl, by decide⟩
  | number n =>
    obtain ⟨c, l, hcl, hc⟩ := hv.head
    refine ⟨c, l, hcl, ?_, ?_⟩
    · rcases hc with rfl | hc
      · rfl
      · rw [Raw.isBlank]
        simp only [Bool.or_eq_false_iff, decide_eq_false_iff_not]
        refine ⟨⟨⟨?_, ?_⟩, ?_⟩, ?_⟩ <;> rintro rfl <;> cases hc
    · rintro rfl
      rcases hc with hc | hc <;> cases hc

theorem skipBlanks_chars {v : Value} (hv : v.Readable) (s : Source) :
    Raw.skipBlanks (v.chars.map some ++ s) = v.chars.map some ++ s ∧
      ∀ t, v.chars.map some ++ s ≠ some ']' :: t := by
  obtain ⟨c, l, hcl, hblank, hc⟩ := chars_head hv
  rw [hcl]
  refine ⟨by simp [Raw.skipBlanks, hblank], fun t ht => hc ?_⟩
  exact Option.some.inj (List.cons.inj ht).1

theorem value?_number {n : Number} (hn : n.Readable) (fuel : Nat) {s : Source} (hs : Closes s) :
    Raw.value? (fuel + 1) (n.text.toList.map some ++ s) = some (.number (some n), s) := by
  rw [← hn.read s hs]
  obtain ⟨c, l, hcl, hc⟩ := hn.head
  have hne : c ≠ 'n' ∧ c ≠ 't' ∧ c ≠ 'f' ∧ c ≠ '"' ∧ c ≠ '[' ∧ c ≠ '{' := by
    refine ⟨?_, ?_, ?_, ?_, ?_, ?_⟩ <;> rintro rfl <;> rcases hc with hc | hc <;> cases hc
  rw [hcl]
  simp [Raw.value?, hne]

theorem closes_moreItems (l : List Value) (s : Source) :
    Closes ((moreItems l ++ [']']).map some ++ s) := by
  cases l with
  | nil => exact .inr ⟨_, _, rfl, .inr (.inl rfl)⟩
  | cons v l => exact .inr ⟨_, _, rfl, .inl rfl⟩

theorem closes_moreMembers (l : List (String × Value)) (s : Source) :
    Closes ((moreMembers l ++ ['}']).map some ++ s) := by
  cases l with
  | nil => exact .inr ⟨_, _, rfl, .inr (.inr rfl)⟩
  | cons v l => exact .inr ⟨_, _, rfl, .inl rfl⟩

mutual

/-- The text of a value is read back up to where it closes. -/
theorem value?_chars : ∀ v : Value, v.Readable → ∀ fuel, v.chars.length ≤ fuel →
    ∀ s, Closes s → Raw.value? fuel (v.chars.map some ++ s) = some (v.toRaw, s)
  | v, hv, 0, hf, _, _ => by
    obtain ⟨c, l, hcl, -⟩ := chars_head hv
    rw [hcl] at hf
    cases hf
  | .null, _, fuel + 1, _, s, _ => by simp [chars, Raw.value?, Raw.word?, toRaw]
  | .bool b, _, fuel + 1, _, s, _ => by cases b <;> simp [chars, Raw.value?, Raw.word?, toRaw]
  | .number n, hn, fuel + 1, _, s, hs => value?_number hn fuel hs
  | .string t, _, fuel + 1, _, s, _ => by
    have h := Raw.string?_quoted t s
    rw [chars, quoted, List.cons_append, List.map_cons, List.cons_append, Raw.value?, h]
    rfl
  | .array [], _, fuel + 1, _, s, _ => rfl
  | .array (v :: l), hv, fuel + 1, hf, s, _ => by
    have hlen : v.chars.length + (moreItems l).length + 1 ≤ fuel := by
      simp only [chars, List.length_append, List.length_cons, List.length_nil] at hf
      omega
    have hskip := skipBlanks_chars hv.1 ((moreItems l ++ [']']).map some ++ s)
    have h := Raw.value?_array fuel hskip.1 hskip.2
    rw [items?_chars v l hv.1 hv.2 fuel hlen s] at h
    simpa [chars, toRaw, toRawItems] using h
  | .object [], _, fuel + 1, _, s, _ => rfl
  | .object ((k, v) :: l), hv, fuel + 1, hf, s, _ => by
    have hlen : v.chars.length + (moreMembers l).length + 2 ≤ fuel := by
      simp only [chars, quoted, List.length_append, List.length_cons, List.length_nil] at hf
      omega
    have h : Raw.value? (fuel + 1) (some '{' :: ((quoted k).map some ++
        some ':' :: (v.chars.map some ++ ((moreMembers l ++ ['}']).map some ++ s)))) =
        (Raw.members? fuel ((quoted k).map some ++
          some ':' :: (v.chars.map some ++ ((moreMembers l ++ ['}']).map some ++ s)))).map
            fun x => (.object x.1, x.2) := Raw.value?_object fuel _
    rw [members?_chars k v l hv.1 hv.2 fuel hlen s] at h
    simpa [chars, toRaw, toRawMembers] using h
termination_by v => sizeOf v

/-- The items of an array are read back up to its end. -/
theorem items?_chars : ∀ (v : Value) (l : List Value), v.Readable → ReadableItems l →
    ∀ fuel, v.chars.length + (moreItems l).length + 1 ≤ fuel → ∀ s,
    Raw.items? fuel (v.chars.map some ++ ((moreItems l ++ [']']).map some ++ s)) =
      some (v.toRaw :: toRawItems l, s)
  | v, [], hv, _, fuel + 1, hf, s =>
    Raw.items?_last (value?_chars v hv fuel (by omega) _ (closes_moreItems [] s))
  | v, w :: l, hv, hl, fuel + 1, hf, s => by
    have hlen : w.chars.length + (moreItems l).length + 1 ≤ fuel := by
      simp only [moreItems, List.length_append, List.length_cons] at hf
      omega
    have h := value?_chars v hv fuel (by omega) _ (closes_moreItems (w :: l) s)
    have hmore : (moreItems (w :: l) ++ [']']).map some ++ s =
        some ',' :: (w.chars.map some ++ ((moreItems l ++ [']']).map some ++ s)) := by
      simp [moreItems]
    rw [hmore] at h ⊢
    rw [Raw.items?_more h, (skipBlanks_chars hl.1 _).1, items?_chars w l hl.1 hl.2 fuel hlen s]
    rfl
termination_by v l => sizeOf v + sizeOf l + 1

/-- The members of an object are read back up to its end. -/
theorem members?_chars : ∀ (k : String) (v : Value) (l : List (String × Value)), v.Readable →
    ReadableMembers l → ∀ fuel, v.chars.length + (moreMembers l).length + 2 ≤ fuel → ∀ s,
    Raw.members? fuel ((quoted k).map some ++
        some ':' :: (v.chars.map some ++ ((moreMembers l ++ ['}']).map some ++ s))) =
      some ((some k, v.toRaw) :: toRawMembers l, s)
  | k, v, [], hv, _, fuel + 1, hf, s => by
    have h := value?_chars v hv fuel (by omega) _ (closes_moreMembers [] s)
    rw [← (skipBlanks_chars hv _).1] at h
    exact Raw.members?_last (Raw.string?_quoted k _) h
  | k, v, (k', w) :: l, hv, hl, fuel + 1, hf, s => by
    have hlen : w.chars.length + (moreMembers l).length + 2 ≤ fuel := by
      simp only [moreMembers, List.length_append, List.length_cons, quoted] at hf
      omega
    have h := value?_chars v hv fuel (by omega) _ (closes_moreMembers ((k', w) :: l) s)
    have hmore : (moreMembers ((k', w) :: l) ++ ['}']).map some ++ s = some ',' ::
        ((quoted k').map some ++
          some ':' :: (w.chars.map some ++ ((moreMembers l ++ ['}']).map some ++ s))) := by
      simp [moreMembers]
    have hquote : ∀ t, Raw.skipBlanks ((quoted k').map some ++ t) = (quoted k').map some ++ t :=
      fun _ => rfl
    rw [hmore] at h ⊢
    rw [← (skipBlanks_chars hv _).1] at h
    have hstep := Raw.members?_more (Raw.string?_quoted k _) h
    rw [hquote, members?_chars k' w l hl.1 hl.2 fuel hlen s] at hstep
    exact hstep
termination_by _ v l => sizeOf v + sizeOf l + 1

end

end Value

/-- The text of a value is read as the tree of that value. -/
theorem Raw.parse?_chars {v : Value} (hv : v.Readable) :
    Raw.parse? (v.chars.map some) = some v.toRaw := by
  have hskip := (Value.skipBlanks_chars hv []).1
  have h := Value.value?_chars v hv (v.chars.length + 1) (by omega) [] (.inl rfl)
  rw [List.append_nil] at hskip h
  rw [Raw.parse?, hskip, List.length_map, h]
  rfl

theorem Raw.ofText?_text {v : Value} (hv : v.Readable) : Raw.ofText? v.text = some v.toRaw := by
  rw [Raw.ofText?, Value.text, String.toList_ofList, Raw.parse?_chars hv]

/-- The octets of the text of a value are read as the tree of that value. -/
theorem Raw.ofOctets?_encode_text {v : Value} (hv : v.Readable) :
    Raw.ofOctets? (Utf8.encode v.text) = some v.toRaw := by
  rw [Raw.ofOctets?, Utf8.scan_encode, Value.text, String.toList_ofList, Raw.parse?_chars hv]

end EntityHub.Json
