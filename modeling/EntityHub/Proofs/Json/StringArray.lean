import EntityHub.Json.Decode
import EntityHub.Proofs.Failure
import EntityHub.Proofs.Json.Spelling
/-!
# Arrays of strings

`StringArray text l` says of a JSON text that it is an array of the strings `l`, with blanks between
its tokens. A text is read as a list of strings if and only if it is an array of these
(`Decoder.ofText?_list_string`).

`Begins` and `GoesOn` are what a step of the reader tells about the text in front of it.
-/

namespace EntityHub.Json

/-! ## The grammar -/

/-- What may stand between tokens. -/
def IsBlanks (text : List Char) : Prop := ∀ c ∈ text, c ∈ [' ', '\n', '\t', '\r']

/-- A string with blanks around it. -/
inductive IsItem : List Char → String → Prop
  | padded {before text after : List Char} {s : String} : IsBlanks before → IsString text s →
      IsBlanks after → IsItem (before ++ text ++ after) s

/-- At least one string, with commas in between. -/
inductive Items : List Char → List String → Prop
  | last {text : List Char} {s : String} : IsItem text s → Items text [s]
  | more {text rest : List Char} {s : String} {l : List String} : IsItem text s → Items rest l →
      Items (text ++ ',' :: rest) (s :: l)

/-- An array of strings, with blanks around it. -/
inductive StringArray : List Char → List String → Prop
  | empty {before blanks after : List Char} : IsBlanks before → IsBlanks blanks → IsBlanks after →
      StringArray (before ++ '[' :: blanks ++ ']' :: after) []
  | items {before text after : List Char} {l : List String} : IsBlanks before → Items text l →
      IsBlanks after → StringArray (before ++ '[' :: text ++ ']' :: after) l

/-! ## Blanks -/

theorem Raw.isBlank_iff {c : Char} : isBlank c = true ↔ c ∈ [' ', '\n', '\t', '\r'] := by
  simp [isBlank, or_assoc]

theorem IsBlanks.skipBlanks_append {t : List Char} (h : IsBlanks t) (s : Source) :
    Raw.skipBlanks (t.map some ++ s) = Raw.skipBlanks s := by
  induction t with
  | nil => rfl
  | cons c t ih =>
    obtain ⟨hc, ht⟩ := List.forall_mem_cons.mp h
    rw [List.map_cons, List.cons_append, Raw.skipBlanks, if_pos (Raw.isBlank_iff.mpr hc), ih ht]

/-- What is skipped are blanks. -/
theorem exists_isBlanks (s : Source) : ∃ t, IsBlanks t ∧ s = t.map some ++ Raw.skipBlanks s := by
  fun_induction Raw.skipBlanks s with
  | case1 c s hc ih =>
    obtain ⟨t, ht, hs⟩ := ih
    exact ⟨c :: t, List.forall_mem_cons.mpr ⟨Raw.isBlank_iff.mp hc, ht⟩, congrArg (some c :: ·) hs⟩
  | case2 | case3 => exact ⟨[], List.forall_mem_nil _, rfl⟩

/-! ## Steps of the reader -/

namespace Raw

variable {fuel : Nat} {s rest : Source} {r : Raw} {l : List Raw}

theorem exists_of_number? (h : number? s = some (r, rest)) : ∃ x, r = .number x := by
  unfold number? at h
  split at h
  split at h
  · cases h
  · cases h
  · simp only [Option.bind_eq_bind, Option.bind_eq_some_iff] at h
    obtain ⟨_, -, _, -, h⟩ := h
    obtain ⟨rfl, -⟩ := Prod.mk.inj (Option.some.inj h)
    exact ⟨_, rfl⟩

/-- How a text begins of which a tree is read, if the tree is a string or an array. -/
def Begins (fuel : Nat) (s rest : Source) : Raw → Prop
  | .string t => ∃ u, s = some '"' :: u ∧ string? u = some (t, rest)
  | .array l => ∃ u, s = some '[' :: u ∧ (l = [] ∧ skipBlanks u = some ']' :: rest ∨
      items? fuel (skipBlanks u) = some (l, rest))
  | .null | .bool _ | .number _ | .object _ => True

theorem begins_of_value? (h : value? (fuel + 1) s = some (r, rest)) : Begins fuel s rest r := by
  have hword {x : Option Source} {a : Raw} (h : x.map (a, ·) = some (r, rest))
      (ha : Begins fuel s rest a) : Begins fuel s rest r := by
    obtain ⟨_, -, h⟩ := Option.map_eq_some_iff.mp h
    obtain ⟨rfl, -⟩ := Prod.mk.inj h
    exact ha
  unfold value? at h
  split at h
  · exact hword h trivial
  · exact hword h trivial
  · exact hword h trivial
  · obtain ⟨⟨t, u⟩, hstring, h⟩ := Option.map_eq_some_iff.mp h
    obtain ⟨rfl, rfl⟩ := Prod.mk.inj h
    exact ⟨_, rfl, hstring⟩
  · split at h
    · next hclose =>
      obtain ⟨rfl, rfl⟩ := Prod.mk.inj (Option.some.inj h)
      exact ⟨_, rfl, .inl ⟨rfl, hclose⟩⟩
    · obtain ⟨⟨l, u⟩, hitems, h⟩ := Option.map_eq_some_iff.mp h
      obtain ⟨rfl, rfl⟩ := Prod.mk.inj h
      exact ⟨_, rfl, .inr hitems⟩
  · split at h
    · obtain ⟨rfl, -⟩ := Prod.mk.inj (Option.some.inj h)
      trivial
    · obtain ⟨_, -, h⟩ := Option.map_eq_some_iff.mp h
      obtain ⟨rfl, -⟩ := Prod.mk.inj h
      trivial
  · obtain ⟨x, rfl⟩ := exists_of_number? h
    trivial

/-- How items go on behind the first, of which the tree `r` was read and `s` is left. -/
inductive GoesOn (fuel : Nat) (r : Raw) (s rest : Source) : List Raw → Prop
  | last : skipBlanks s = some ']' :: rest → GoesOn fuel r s rest [r]
  | more {u : Source} {l : List Raw} : skipBlanks s = some ',' :: u →
      items? fuel (skipBlanks u) = some (l, rest) → GoesOn fuel r s rest (r :: l)

theorem items?_eq_some_iff : items? (fuel + 1) s = some (l, rest) ↔
    ∃ r u, value? fuel s = some (r, u) ∧ GoesOn fuel r u rest l := by
  simp only [items?, Option.bind_eq_bind, Option.bind_eq_some_iff]
  constructor
  · rintro ⟨⟨r, u⟩, hr, h⟩
    refine ⟨r, u, hr, ?_⟩
    split at h
    · next hclose =>
      obtain ⟨rfl, rfl⟩ := Prod.mk.inj (Option.some.inj h)
      exact .last hclose
    · next hcomma =>
      obtain ⟨⟨l, u⟩, hitems, h⟩ := Option.bind_eq_some_iff.mp h
      obtain ⟨rfl, rfl⟩ := Prod.mk.inj (Option.some.inj h)
      exact .more hcomma hitems
    · cases h
  · rintro ⟨r, u, hr, hgoes⟩
    refine ⟨(r, u), hr, ?_⟩
    cases hgoes with
    | last hclose =>
      simp only [hclose]
      rfl
    | more hcomma hitems =>
      simp only [hcomma, hitems]
      rfl

/-- No item begins with the end of an array. -/
theorem items?_close (fuel : Nat) (s : Source) : items? fuel (some ']' :: s) = none := by
  rcases fuel with _ | _ | fuel <;> rfl

end Raw

/-! ## Items -/

variable {fuel : Nat} {s rest : Source} {text : List Char} {str : String} {l : List String}

/-- What is read as a string is one. -/
theorem Raw.value?_eq_string_iff : value? (fuel + 1) s = some (.string (some str), rest) ↔
    ∃ text, IsString text str ∧ s = text.map some ++ rest := by
  constructor
  · intro h
    obtain ⟨u, hquote, hread⟩ := begins_of_value? h
    obtain ⟨spelled, hspelled, rfl⟩ := string?_eq_some_iff.mp hread
    exact ⟨_, ⟨spelled, hspelled, rfl⟩, hquote⟩
  · rintro ⟨text, ⟨spelled, hspelled, rfl⟩, rfl⟩
    have hread := string?_eq_some_iff.mpr ⟨spelled, hspelled, Eq.refl (_ ++ rest)⟩
    rw [List.map_cons, List.cons_append, value?, hread]
    rfl

theorem IsString.skipBlanks_append (h : IsString text str) (s : Source) :
    Raw.skipBlanks (text.map some ++ s) = text.map some ++ s := by
  obtain ⟨spelled, -, rfl⟩ := h
  rfl

/-- An item is read up to the blanks behind it. -/
theorem IsItem.exists_value? (h : IsItem text str) (fuel : Nat) (s : Source) :
    ∃ u, Raw.value? (fuel + 1) (Raw.skipBlanks (text.map some ++ s)) =
      some (.string (some str), u) ∧ Raw.skipBlanks u = Raw.skipBlanks s := by
  obtain @⟨before, text, after, str, hbefore, hstring, hafter⟩ := h
  refine ⟨after.map some ++ s, ?_, hafter.skipBlanks_append s⟩
  rw [List.map_append, List.map_append, List.append_assoc, List.append_assoc,
    hbefore.skipBlanks_append, hstring.skipBlanks_append]
  exact Raw.value?_eq_string_iff.mpr ⟨text, hstring, rfl⟩

/-- A string that is read is an item together with the blanks around it. -/
theorem exists_isItem
    (h : Raw.value? fuel (Raw.skipBlanks s) = some (.string (some str), rest)) :
    ∃ text, IsItem text str ∧ s = text.map some ++ Raw.skipBlanks rest := by
  cases fuel with
  | zero => cases h
  | succ fuel =>
    obtain ⟨before, hbefore, hs⟩ := exists_isBlanks s
    obtain ⟨text, hstring, htext⟩ := Raw.value?_eq_string_iff.mp h
    obtain ⟨after, hafter, hrest⟩ := exists_isBlanks rest
    refine ⟨before ++ text ++ after, .padded hbefore hstring hafter, ?_⟩
    rw [List.map_append, List.map_append, List.append_assoc, List.append_assoc, ← hrest, ← htext,
      ← hs]

theorem IsItem.length_pos (h : IsItem text str) : 0 < text.length := by
  obtain ⟨-, ⟨spelled, -, rfl⟩, -⟩ := h
  simp only [List.length_append, List.length_cons]
  omega

theorem Items.length_le (h : Items text l) : l.length ≤ text.length := by
  induction h with
  | last h => exact h.length_pos
  | more _ _ ih =>
    rw [List.length_append, List.length_cons, List.length_cons]
    omega

/-- The trees of strings. -/
def strings (l : List String) : List Raw := l.map fun s => .string (some s)

/-- Items are read up to the end of the array. -/
theorem Items.items?_append (h : Items text l) (s : Source) (hfuel : l.length ≤ fuel) :
    Raw.items? (fuel + 1) (Raw.skipBlanks (text.map some ++ some ']' :: s)) =
      some (strings l, s) := by
  induction h generalizing fuel with
  | last h =>
    obtain ⟨fuel, rfl⟩ := Nat.exists_eq_add_of_le' hfuel
    obtain ⟨u, hread, hu⟩ := h.exists_value? fuel (some ']' :: s)
    exact Raw.items?_eq_some_iff.mpr ⟨_, u, hread, .last hu⟩
  | @more text rest str l h _ ih =>
    obtain ⟨fuel, rfl⟩ := Nat.exists_eq_add_of_le' (Nat.le_of_add_left_le hfuel)
    obtain ⟨u, hread, hu⟩ := h.exists_value? fuel (some ',' :: (rest.map some ++ some ']' :: s))
    have hitems := ih (Nat.le_of_succ_le_succ hfuel)
    rw [List.map_append, List.map_cons, List.append_assoc, List.cons_append]
    exact Raw.items?_eq_some_iff.mpr ⟨_, u, hread, .more hu hitems⟩

/-- Strings that are read as items are items up to the end of the array. -/
theorem exists_items (h : Raw.items? fuel (Raw.skipBlanks s) = some (strings l, rest)) :
    ∃ text, Items text l ∧ s = text.map some ++ some ']' :: rest := by
  induction fuel generalizing s l with
  | zero => cases h
  | succ fuel ih =>
    obtain ⟨r, u, hr, hgoes⟩ := Raw.items?_eq_some_iff.mp h
    match l with
    | [] => cases hgoes
    | str :: l =>
      generalize hl : strings (str :: l) = items at hgoes
      cases hgoes with
      | last hclose =>
        obtain ⟨rfl, hnil⟩ := List.cons.inj hl
        obtain rfl := List.map_eq_nil_iff.mp hnil
        obtain ⟨text, hitem, hs⟩ := exists_isItem hr
        exact ⟨text, .last hitem, by rw [hs, hclose]⟩
      | more hcomma hitems =>
        obtain ⟨rfl, rfl⟩ := List.cons.inj hl
        obtain ⟨text, hitem, hs⟩ := exists_isItem hr
        obtain ⟨more, hmore, hu⟩ := ih hitems
        refine ⟨text ++ ',' :: more, .more hitem hmore, ?_⟩
        rw [hs, hcomma, hu, List.map_append, List.map_cons, List.append_assoc, List.cons_append]

/-! ## Arrays -/

/-- A text is read as the array that its brackets are read as. -/
theorem Raw.parse?_brackets {before inner after : List Char} {items : List Raw}
    (hbefore : IsBlanks before) (hafter : IsBlanks after)
    (h : ∀ fuel, inner.length ≤ fuel →
      value? (fuel + 2) (some '[' :: (inner.map some ++ some ']' :: after.map some)) =
        some (.array items, after.map some)) :
    parse? ((before ++ '[' :: inner ++ ']' :: after).map some) = some (.array items) := by
  obtain ⟨fuel, hfuel, hle⟩ : ∃ fuel,
      ((before ++ '[' :: inner ++ ']' :: after).map some).length + 1 = fuel + 2 ∧
        inner.length ≤ fuel := by
    refine ⟨before.length + inner.length + after.length + 1, ?_, by omega⟩
    simp only [List.length_map, List.length_append, List.length_cons]
    omega
  have htext : (before ++ '[' :: inner ++ ']' :: after).map some =
      before.map some ++ some '[' :: (inner.map some ++ some ']' :: after.map some) := by simp
  have hopen (s : Source) : skipBlanks (some '[' :: s) = some '[' :: s := rfl
  have hend : skipBlanks (after.map some) = [] := by
    have h := hafter.skipBlanks_append []
    rwa [List.append_nil] at h
  rw [parse?, hfuel, htext, hbefore.skipBlanks_append, hopen, h fuel hle, Option.bind_eq_bind,
    Option.bind_some]
  simp only [hend]
  rfl

theorem StringArray.parse?_map (h : StringArray text l) :
    Raw.parse? (text.map some) = some (.array (strings l)) := by
  cases h with
  | empty hbefore hblanks hafter =>
    refine Raw.parse?_brackets hbefore hafter fun fuel _ => ?_
    rw [Raw.value?, hblanks.skipBlanks_append]
    rfl
  | @items _ _ after _ hbefore hitems hafter =>
    refine Raw.parse?_brackets hbefore hafter fun fuel hfuel => ?_
    have hread := hitems.items?_append (after.map some) (Nat.le_trans hitems.length_le hfuel)
    rw [Raw.value?]
    split
    · next hclose =>
      rw [hclose, Raw.items?_close] at hread
      cases hread
    · rw [hread]
      rfl

theorem stringArray_of_parse? (h : Raw.parse? (text.map some) = some (.array (strings l))) :
    StringArray text l := by
  simp only [Raw.parse?, Option.bind_eq_bind, Option.bind_eq_some_iff] at h
  obtain ⟨⟨r, rest⟩, hread, _, hguard, h⟩ := h
  obtain rfl := Option.some.inj h
  have hend : Raw.skipBlanks rest = [] :=
    List.isEmpty_iff.mp ((Option.guard_eq_some' _).mp hguard)
  obtain ⟨before, hbefore, htext⟩ := exists_isBlanks (text.map some)
  obtain ⟨after, hafter, hrest⟩ := exists_isBlanks rest
  rw [hend, List.append_nil] at hrest
  have hback (inner : List Char)
      (h : Raw.skipBlanks (text.map some) = some '[' :: (inner.map some ++ some ']' :: rest)) :
      text = before ++ '[' :: inner ++ ']' :: after := by
    refine List.map_injective_iff.mpr (Option.some_injective _) ?_
    rw [htext, h, hrest]
    simp
  obtain ⟨u, hopen, ⟨hl, hclose⟩ | hitems⟩ := Raw.begins_of_value? hread
  · obtain rfl := List.map_eq_nil_iff.mp hl
    obtain ⟨blanks, hblanks, hu⟩ := exists_isBlanks u
    rw [hback blanks (by rw [hopen, hu, hclose])]
    exact .empty hbefore hblanks hafter
  · obtain ⟨inner, hinner, hu⟩ := exists_items hitems
    rw [hback inner (by rw [hopen, hu])]
    exact .items hbefore hinner hafter

namespace Decoder

theorem string_eq_some_iff {levels : Nat} {r : Raw} :
    string levels r = some str ↔ r = .string (some str) := by
  cases r <;> simp [string]

theorem list_string_eq_some_iff {levels : Nat} {r : Raw} :
    list string (levels + 1) r = some l ↔ r = .array (strings l) := by
  cases r with
  | array items =>
    simp only [list, mapM_eq_some_iff, string_eq_some_iff, Raw.array.injEq, strings]
    rw [← List.forall₂_eq_eq_eq, List.forall₂_map_right_iff]
  | null | bool | number | string | object => simp [list]

/-- A text is read as a list of strings if and only if it is an array of these strings. -/
theorem ofText?_list_string {text : String} :
    (list string).ofText? text = some l ↔ StringArray text.toList l := by
  rw [ofText?, Raw.ofText?, Option.bind_eq_bind, Option.bind_eq_some_iff]
  constructor
  · rintro ⟨r, hr, hl⟩
    rw [list_string_eq_some_iff.mp hl] at hr
    exact stringArray_of_parse? hr
  · intro h
    exact ⟨_, h.parse?_map, list_string_eq_some_iff.mpr rfl⟩

end Decoder

end EntityHub.Json
