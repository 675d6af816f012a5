import EntityHub.Text.Combining
import EntityHub.Text.Direction
/-!
# ASCII in tables

No character of ASCII is a mark (`Combining.isMark_of_lt`), and none makes the direction of a text
matter (`Direction.turns_of_lt`), since the rows of the tables for these begin beyond ASCII.
-/

namespace EntityHub

namespace RangeTable

variable {α : Type} {t : RangeTable α} {c : Char} {r : RangeRow α}

theorem mem_rows_of_findBetween? {n low high : Nat} (h : t.findBetween? n low high = some r) :
    r ∈ t.rows := by
  fun_induction findBetween? t n low high with
  | case1 => cases h
  | case2 low high hlt middle row hrow hn ih => exact ih h
  | case3 low high hlt middle row hrow hn hn' ih => exact ih h
  | case4 low high hlt middle row hrow =>
    obtain rfl := Option.some.inj h
    exact Array.mem_of_getElem? hrow
  | case5 => cases h

theorem row_eq (value : α) (word : List Char) : row value word =
    ⟨codePoint (cut (· = '-') word).1, (row () word).last, value⟩ := by
  unfold row
  rcases cut (· = '-') word with ⟨first, _ | last⟩ <;> rfl

/-- Whether all words of a text begin beyond ASCII. -/
def beyondAscii (l : List Char) : Bool :=
  (words l).all fun word => 0x80 ≤ codePoint (cut (· = '-') word).1

/-- A text is checked by its characters. -/
theorem beyondAscii_toList {s : String} {l : List Char} (h : s = .ofList l)
    (hl : beyondAscii l = true) : beyondAscii s.toList = true := by
  rw [h, String.toList_ofList, hl]

/-- What is found for a character of ASCII is not of a text that begins beyond ASCII. -/
theorem value_ne_of_find?_ofTexts {l : List (α × String)} {v : α}
    (hl : ∀ e ∈ l, e.1 = v → beyondAscii e.2.toList = true) (hc : c.toNat < 0x80)
    (h : (ofTexts l).find? c = some r) : r.value ≠ v := by
  have hrow := mem_rows_of_findBetween? h
  have hfirst := (mem_of_findBetween? h).1
  simp only [ofTexts, ofRows, List.mem_toArray, List.mem_mergeSort, List.mem_flatMap,
    List.mem_map] at hrow
  obtain ⟨e, he, word, hword, rfl⟩ := hrow
  rw [row_eq] at hfirst ⊢
  intro hvalue
  have hle := of_decide_eq_true (List.all_eq_true.mp (hl e he hvalue) word hword)
  exact absurd (Nat.lt_of_le_of_lt hfirst hc) (Nat.not_lt.mpr hle)

end RangeTable

theorem Combining.isMark_of_lt {c : Char} (hc : c.toNat < 0x80) : isMark c = false := by
  rw [isMark, RangeTable.contains]
  rcases hfind : marks.find? c with _ | r
  · rfl
  · refine absurd rfl (RangeTable.value_ne_of_find?_ofTexts (v := r.value) ?_ hc hfind)
    rw [List.forall_mem_singleton]
    intro _
    apply RangeTable.beyondAscii_toList
    · rfl
    · decide +kernel

theorem Direction.turns_of_lt {c : Char} (hc : c.toNat < 0x80) : turns c = false := by
  rw [turns, ofChar, RangeTable.get?]
  rcases hfind : kinds.find? c with _ | r
  · rfl
  · have hright : r.value ≠ .rightToLeft := by
      refine RangeTable.value_ne_of_find?_ofTexts ?_ hc hfind
      simp only [List.forall_mem_cons]
      refine ⟨fun _ => ?_, nofun, nofun, nofun, nofun, nofun⟩
      apply RangeTable.beyondAscii_toList
      · rfl
      · decide +kernel
    have harabic : r.value ≠ .arabicNumber := by
      refine RangeTable.value_ne_of_find?_ofTexts ?_ hc hfind
      simp only [List.forall_mem_cons]
      refine ⟨nofun, fun _ => ?_, nofun, nofun, nofun, nofun⟩
      apply RangeTable.beyondAscii_toList
      · rfl
      · decide +kernel
    simp [hright, harabic]

/-- Labels of ASCII can stand side by side. -/
theorem Direction.agree_of_lt {labels : List (List Char)}
    (h : ∀ l ∈ labels, ∀ c ∈ l, c.toNat < 0x80) : agree labels = true := by
  have hnone : (labels.any fun l => l.any turns) = false := by
    refine List.any_eq_false.mpr fun l hl hany => ?_
    obtain ⟨c, hc, hturns⟩ := List.any_eq_true.mp hany
    rw [turns_of_lt (h l hl c hc)] at hturns
    cases hturns
  rw [agree, hnone]
  rfl

end EntityHub
