import EntityHub.Text.Split
/-!
# Tables of characters

A table gives values to ranges of code points. Its rows are in ascending order and do not overlap,
so the row of a code point is found by halving. A table is written as text: words of one code point
or of the first and the last one of a range, in hexadecimal.
-/

namespace EntityHub

/-- The code points from `first` to `last` and the value that they have in common. -/
structure RangeRow (α : Type) where
  first : Nat
  last : Nat
  value : α

/-- A table of ranges of code points. -/
structure RangeTable (α : Type) where
  rows : Array (RangeRow α)

namespace RangeTable

variable {α : Type}

/-! ## Looking up -/

/-- The row of a code point among those from `low` up to below `high`. -/
def findBetween? (t : RangeTable α) (n low high : Nat) : Option (RangeRow α) :=
  if low < high then
    let middle := (low + high) / 2
    match t.rows[middle]? with
    | none => none
    | some row =>
      if n < row.first then t.findBetween? n low middle
      else if row.last < n then t.findBetween? n (middle + 1) high
      else some row
  else none
termination_by high - low

/-- The row of a character. -/
def find? (t : RangeTable α) (c : Char) : Option (RangeRow α) :=
  t.findBetween? c.toNat 0 t.rows.size

/-- The value of a character. -/
def get? (t : RangeTable α) (c : Char) : Option α := (t.find? c).map RangeRow.value

/-- Whether a character has a value. -/
def contains (t : RangeTable α) (c : Char) : Bool := (t.find? c).isSome

/-! ## Reading -/

/-- The value of a hexadecimal digit in upper case. -/
def digitValue (c : Char) : Nat :=
  if c.isDigit then c.toNat - '0'.toNat else c.toNat - 'A'.toNat + 10

/-- The code point that a word gives in hexadecimal. -/
def codePoint (word : List Char) : Nat := word.foldl (fun n c => n * 16 + digitValue c) 0

/-- The row of a word with a value. -/
def row (value : α) (word : List Char) : RangeRow α :=
  match cut (· = '-') word with
  | (first, some last) => ⟨codePoint first, codePoint last, value⟩
  | (first, none) => ⟨codePoint first, codePoint first, value⟩

/-- The table of rows in any order. -/
def ofRows (l : List (RangeRow α)) : RangeTable α :=
  ⟨(l.mergeSort fun a b => a.first ≤ b.first).toArray⟩

/-- The table of the texts with their values. -/
def ofTexts (l : List (α × String)) : RangeTable α :=
  ofRows (l.flatMap fun (value, text) => (words text.toList).map (row value))

/-- The set of the code points of a text. -/
def ofText (text : String) : RangeTable Unit := ofTexts [((), text)]

/-- What is found is the row of the code point. -/
theorem mem_of_findBetween? {t : RangeTable α} {n low high : Nat} {r : RangeRow α}
    (h : t.findBetween? n low high = some r) : r.first ≤ n ∧ n ≤ r.last := by
  fun_induction findBetween? t n low high <;> grind

end RangeTable

end EntityHub
