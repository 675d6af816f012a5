/-!
# Splitting

A list between the elements at which it is split. Each splitting point is dropped, and between two
of them there is a piece, also an empty one, so there is always a first piece.
-/

namespace EntityHub

variable {α : Type}

/-- The pieces of a list between the elements of which `p` holds. -/
def pieces (p : α → Bool) : List α → List (List α)
  | [] => [[]]
  | a :: l =>
    if p a then [] :: pieces p l
    else
      match pieces p l with
      | [] => [[a]]
      | piece :: rest => (a :: piece) :: rest

/-- What stands before the first element of which `p` holds, and what stands after it. -/
def cut (p : α → Bool) : List α → List α × Option (List α)
  | [] => ([], none)
  | a :: l =>
    if p a then ([], some l)
    else
      let (front, rest) := cut p l
      (a :: front, rest)

/-- The words of a text, between its blanks and line ends. -/
def words (l : List Char) : List (List Char) :=
  let step (c : Char) (s : List Char × List (List Char)) : List Char × List (List Char) :=
    if c.isWhitespace then ([], if s.1.isEmpty then s.2 else s.1 :: s.2) else (c :: s.1, s.2)
  let (word, rest) := l.foldr step ([], [])
  if word.isEmpty then rest else word :: rest

/-- There is always a piece. -/
theorem pieces_ne_nil (p : α → Bool) (l : List α) : pieces p l ≠ [] := by
  cases l with
  | nil => simp [pieces]
  | cons a l =>
    unfold pieces
    split
    · simp
    · split <;> simp

end EntityHub
