/-!
# Punycode

Text beyond ASCII in letters, digits and hyphens. The characters of ASCII come first; the others
follow in ascending order, each as the number of steps from the one before over all places and code
points in between. Such a number is written in digits of base 36, of which a threshold tells the
last one, and the thresholds follow the numbers by a bias.
-/

namespace EntityHub.Punycode

/-! ## Digits -/

/-- The digit of a value below 36. -/
def digit (n : Nat) : Char := .ofNat (if n < 26 then 'a'.toNat + n else '0'.toNat + (n - 26))

/-- The value of a digit. -/
def digitValue? (c : Char) : Option Nat :=
  if c.isLower then some (c.toNat - 'a'.toNat)
  else if c.isUpper then some (c.toNat - 'A'.toNat)
  else if c.isDigit then some (c.toNat - '0'.toNat + 26)
  else none

/-- The least digit that is not the last one, at a position that grows by 36 with each digit. -/
def threshold (position bias : Nat) : Nat := max 1 (min 26 (position - bias))

theorem div_lt_of_lt {n : Nat} (h : 455 < n) : n / 35 < n :=
  Nat.div_lt_self (by omega) (by decide)

/-- A number scaled down until it is at most 455, and 36 for each time. -/
def shrink (n : Nat) : Nat × Nat :=
  if h : 455 < n then
    have := div_lt_of_lt h
    let (m, k) := shrink (n / 35)
    (m, k + 36)
  else (n, 0)

/-- The bias after a number, with the count of characters that are in place. -/
def adapt (n count : Nat) (first : Bool) : Nat :=
  let n := if first then n / 700 else n / 2
  let (m, k) := shrink (n + n / count)
  k + 36 * m / (m + 38)

/-! ## Writing -/

/-- The digits of a number. -/
def number (bias position n : Nat) : List Char :=
  let t := threshold position bias
  if h : n < t then [digit n]
  else
    have : (n - t) / (36 - t) < n :=
      Nat.lt_of_le_of_lt (Nat.div_le_self ..) (by simp only [t, threshold] at *; omega)
    digit (t + (n - t) % (36 - t)) :: number bias (position + 36) ((n - t) / (36 - t))
termination_by n

/-- Where writing stands: the steps since the last number, the bias, and the characters in place. -/
structure Progress where
  steps : Nat := 0
  bias : Nat := 72
  count : Nat
  text : List Char := []

/-- Passes over one character of the text on the way to the code point `n`. -/
def pass (n ascii : Nat) (p : Progress) (c : Char) : Progress :=
  if c.toNat < n then { p with steps := p.steps + 1 }
  else if c.toNat = n then
    { steps := 0
      bias := adapt p.steps (p.count + 1) (p.count = ascii)
      count := p.count + 1
      text := p.text ++ number p.bias 36 p.steps }
  else p

/-- The text of characters. -/
def encode (l : List Char) : List Char :=
  let ascii := l.filter fun c => c.toNat < 0x80
  let others := ((l.filter fun c => 0x80 ≤ c.toNat).map Char.toNat).mergeSort.eraseReps
  let visit (s : Nat × Progress) (n : Nat) : Nat × Progress :=
    let p := { s.2 with steps := s.2.steps + (n - s.1) * (s.2.count + 1) }
    let p := l.foldl (pass n ascii.length) p
    (n + 1, { p with steps := p.steps + 1 })
  let start : Progress := { count := ascii.length }
  ascii ++ (if ascii.isEmpty then [] else ['-']) ++ (others.foldl visit (0x80, start)).2.text

/-! ## Reading -/

/-- The number at the front of digits, and the rest of them. The weight of a digit has to fit 32
bits. -/
def number? (bias : Nat) : Nat → Nat → Nat → List Char → Option (Nat × List Char)
  | _, _, _, [] => none
  | position, weight, n, c :: l => do
    let d ← digitValue? c
    let n := n + d * weight
    let t := threshold position bias
    let next := weight * (36 - t)
    if d < t then some (n, l) else if next < 0x100000000 then number? bias (position + 36) next n l
    else none

/-- Reading a number uses up digits. -/
theorem length_lt_of_number? {bias position weight n m : Nat} {l rest : List Char}
    (h : number? bias position weight n l = some (m, rest)) : rest.length < l.length := by
  induction l generalizing position weight n with
  | nil => simp [number?] at h
  | cons c l ih =>
    simp only [number?, Option.bind_eq_bind, Option.bind_eq_some_iff] at h
    obtain ⟨d, -, h⟩ := h
    split at h
    · obtain ⟨-, rfl⟩ := Prod.mk.inj (Option.some.inj h)
      simp
    · split at h
      · exact Nat.lt_succ_of_lt (ih h)
      · simp at h

/-- Puts the characters in place that the rest of a text gives. `n` and `index` say where the last
one was put, and `first` that there was none. -/
def place? (n index bias : Nat) (first : Bool) (text : List Char) : List Char → Option (List Char)
  | [] => some text
  | c :: l =>
    match h : number? bias 36 1 0 (c :: l) with
    | none => none
    | some (steps, rest) =>
      let count := text.length + 1
      let n := n + (index + steps) / count
      let index := (index + steps) % count
      if n.isValidChar then
        have : rest.length < l.length + 1 := length_lt_of_number? h
        place? n (index + 1) (adapt steps count first) false
          (text.take index ++ .ofNat n :: text.drop index) rest
      else none
termination_by l => l.length
decreasing_by assumption

/-- The characters of a text. Those in ASCII stand before the last hyphen. -/
def decode? (l : List Char) : Option (List Char) :=
  let digits := (l.reverse.takeWhile (· ≠ '-')).reverse
  let ascii := l.take (l.length - digits.length - 1)
  if ascii.all fun c => c.toNat < 0x80 then place? 0x80 0 72 true ascii digits else none

end EntityHub.Punycode
