import EntityHub.Text.Split
import Mathlib.Data.List.Basic
/-!
# Split lists

The pieces of a list hold no splitting point (`forall_mem_pieces`), and pieces that hold none are
found again between splitting points (`pieces_intercalate`).
-/

namespace EntityHub

variable {α : Type} {p : α → Bool} {a : α} {x l piece : List α} {rest : List (List α)}

/-! ## Pieces -/

theorem pieces_append (hx : ∀ a ∈ x, p a = false) (h : pieces p l = piece :: rest) :
    pieces p (x ++ l) = (x ++ piece) :: rest := by
  induction x with
  | nil => exact h
  | cons a x ih =>
    rw [List.cons_append, pieces, if_neg (by simp [hx a List.mem_cons_self]),
      ih fun b hb => hx b (List.mem_cons_of_mem a hb)]
    rfl

theorem pieces_append_cons (ha : p a = true) (x y : List α) :
    pieces p (x ++ a :: y) = pieces p x ++ pieces p y := by
  induction x with
  | nil =>
    have hnil : pieces p ([] : List α) = [[]] := rfl
    rw [List.nil_append, hnil, pieces, if_pos ha, List.singleton_append]
  | cons b x ih =>
    rw [List.cons_append, pieces, pieces, ih]
    split
    · rw [List.cons_append]
    · obtain ⟨piece, rest, heq⟩ := List.exists_cons_of_ne_nil (pieces_ne_nil p x)
      rw [heq]
      rfl

theorem forall_mem_pieces (p : α → Bool) (l : List α) :
    ∀ piece ∈ pieces p l, ∀ a ∈ piece, p a = false := by
  induction l with
  | nil => simp [pieces]
  | cons a l ih =>
    rw [pieces]
    split
    · exact List.forall_mem_cons.mpr ⟨by simp, ih⟩
    · next ha =>
      have ha := Bool.eq_false_iff.mpr ha
      split
      · simpa using ha
      · next piece rest heq =>
        rw [heq, List.forall_mem_cons] at ih
        exact List.forall_mem_cons.mpr ⟨List.forall_mem_cons.mpr ⟨ha, ih.1⟩, ih.2⟩

theorem pieces_of_forall_not (hx : ∀ b ∈ x, p b = false) : pieces p x = [x] := by
  simpa using pieces_append hx (show pieces p [] = [[]] from rfl)

theorem pieces_intercalate (ha : p a = true) {ls : List (List α)} (hne : ls ≠ [])
    (hls : ∀ l ∈ ls, ∀ b ∈ l, p b = false) : pieces p ([a].intercalate ls) = ls := by
  induction ls with
  | nil => exact absurd rfl hne
  | cons l ls ih =>
    obtain ⟨hl, hls⟩ := List.forall_mem_cons.mp hls
    rcases ls with _ | ⟨m, ls⟩
    · rw [List.intercalate_singleton, pieces_of_forall_not hl]
    · rw [List.intercalate_cons_cons, List.append_assoc, List.singleton_append,
        pieces_append_cons ha, pieces_of_forall_not hl, ih (List.cons_ne_nil m ls) hls,
        List.singleton_append]

/-! ## Cuts -/

theorem cut_of_forall_not (hx : ∀ b ∈ x, p b = false) : cut p x = (x, none) := by
  induction x with
  | nil => rfl
  | cons b x ih =>
    obtain ⟨hb, hx⟩ := List.forall_mem_cons.mp hx
    rw [cut, if_neg (by rw [hb]; exact Bool.false_ne_true), ih hx]

theorem cut_append_cons (ha : p a = true) (hx : ∀ b ∈ x, p b = false) (y : List α) :
    cut p (x ++ a :: y) = (x, some y) := by
  induction x with
  | nil => rw [List.nil_append, cut, if_pos ha]
  | cons b x ih =>
    obtain ⟨hb, hx⟩ := List.forall_mem_cons.mp hx
    rw [List.cons_append, cut, if_neg (by rw [hb]; exact Bool.false_ne_true), ih hx]

end EntityHub
