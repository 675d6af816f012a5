import EntityHub.Text.Split
/-!
# Addresses of hosts

Addresses of 32 bits in up to four numbers, and addresses of 128 bits in eight pieces, of which one
row of zeros may be left out. A number is decimal, octal after `0` or hexadecimal after `0x`.
-/

namespace EntityHub.Url

/-! ## Addresses of 32 bits -/

namespace Ipv4

/-- The value of a digit to a base of at most 16. -/
def digitValue? (base : Nat) (c : Char) : Option Nat :=
  let n :=
    if c.isDigit then c.toNat - '0'.toNat
    else if c.isLower then c.toNat - 'a'.toNat + 10
    else if c.isUpper then c.toNat - 'A'.toNat + 10
    else 36
  if n < base then some n else none

/-- The number of digits to a base. No digits at all are zero. -/
def digits? (base : Nat) (l : List Char) : Option Nat :=
  l.foldlM (fun n c => (digitValue? base c).map (n * base + ·)) 0

/-- The number that a text stands for. -/
def number? : List Char → Option Nat
  | [] => none
  | '0' :: 'x' :: l | '0' :: 'X' :: l => digits? 16 l
  | ['0'] => some 0
  | '0' :: l => digits? 8 l
  | l => digits? 10 l

/-- The parts of a name between its dots. One dot at the end does not count. -/
def parts (l : List Char) : List (List Char) :=
  let parts := pieces (· = '.') l
  if parts.length ≠ 1 && parts.getLast? = some [] then parts.dropLast else parts

/-- Whether the last part of a name is a number, so that the name can only be an address. -/
def endsInNumber (l : List Char) : Bool :=
  match (parts l).getLast? with
  | some last => (!last.isEmpty && last.all Char.isDigit) || (number? last).isSome
  | none => false

/-- The address that a name stands for. The last number takes all octets that are left. -/
def ofText? (l : List Char) : Option Nat := do
  let numbers ← (parts l).mapM number?
  let last ← numbers.getLast?
  let front := numbers.dropLast
  if front.length ≤ 3 ∧ (∀ n ∈ front, n ≤ 255) ∧ last < 1 <<< (8 * (4 - front.length)) then
    some (front.foldl (fun a n => a * 256 + n) 0 <<< (8 * (4 - front.length)) + last)
  else none

/-- The address in four numbers. -/
def text (n : Nat) : String :=
  ".".intercalate ([3, 2, 1, 0].map fun i => toString (n >>> (8 * i) % 256))

end Ipv4

/-! ## Addresses of 128 bits -/

namespace Ipv6

/-- Pieces that have been read, the last one first, and the place of the row that was left out. -/
structure Reading where
  pieces : List Nat := []
  gap : Option Nat := none

/-- The reading with one more piece. -/
def Reading.push (r : Reading) (n : Nat) : Reading := { r with pieces := n :: r.pieces }

/-- The hexadecimal digits at the front of a text, at most as many as given. -/
def hexDigits : Nat → List Char → List Char
  | n + 1, c :: l => if (Ipv4.digitValue? 16 c).isSome then c :: hexDigits n l else []
  | _, _ => []

/-- The numbers of a trailing address of 32 bits: four, each without zeros in front. -/
def trailing? (l : List Char) : Option (List Nat) := do
  let parts := EntityHub.pieces (· = '.') l
  let number (p : List Char) : Option Nat :=
    if p.isEmpty || !p.all Char.isDigit || (p.head? = some '0' && p.length ≠ 1) then none
    else (Ipv4.digits? 10 p).filter (· ≤ 255)
  let numbers ← parts.mapM number
  if numbers.length = 4 then some numbers else none

/-- Reads pieces up to the end of the text. The first argument bounds their number. -/
def read? : Nat → Reading → List Char → Option Reading
  | _, r, [] => some r
  | 0, _, _ => none
  | fuel + 1, r, ':' :: l =>
    if r.pieces.length < 8 && r.gap.isNone then
      read? fuel { pieces := 0 :: r.pieces, gap := some (r.pieces.length + 1) } l
    else none
  | fuel + 1, r, c :: l => do
    let text := c :: l
    let front := hexDigits 4 text
    let n ← Ipv4.digits? 16 front
    guard (r.pieces.length < 8)
    match text.drop front.length with
    | [] => some (r.push n)
    | ':' :: rest => if rest.isEmpty then none else read? fuel (r.push n) rest
    | '.' :: _ =>
      guard (!front.isEmpty && r.pieces.length ≤ 6)
      match ← trailing? text with
      | [a, b, c, d] => some ((r.push (a * 256 + b)).push (c * 256 + d))
      | _ => none
    | _ => none

/-- Where reading starts in a text. A gap may stand at its front. -/
def start? : List Char → Option (Reading × List Char)
  | ':' :: ':' :: rest => some ({ pieces := [0], gap := some 1 }, rest)
  | ':' :: _ => none
  | [] | [_] => none
  | l => some ({}, l)

/-- The eight pieces of a reading, with zeros where the row was left out. -/
def Reading.filled? (r : Reading) : Option (List Nat) :=
  let pieces := r.pieces.reverse
  match r.gap with
  | some k =>
    if pieces.length ≤ 8 then
      some (pieces.take k ++ List.replicate (8 - pieces.length) 0 ++ pieces.drop k)
    else none
  | none => if pieces.length = 8 then some pieces else none

/-- The eight pieces that a text stands for. -/
def ofText? (l : List Char) : Option (List Nat) := do
  let (r, rest) ← start? l
  (← read? 17 r rest).filled?

/-- The length of the row of zeros at the front. -/
def zeros (l : List Nat) : Nat := (l.takeWhile (· = 0)).length

/-- Start and length of the first of the longest rows of zeros. -/
def longestRow (l : List Nat) : Nat × Nat :=
  (List.range l.length).foldl
    (fun best i => if best.2 < zeros (l.drop i) then (i, zeros (l.drop i)) else best) (0, 0)

/-- Pieces in hexadecimal, with colons between them. -/
def colons (l : List Nat) : String :=
  ":".intercalate (l.map fun n => .ofList (Nat.toDigits 16 n))

/-- The address without its longest row of two or more zeros. -/
def text (l : List Nat) : String :=
  let (start, length) := longestRow l
  if length < 2 then colons l
  else colons (l.take start) ++ "::" ++ colons (l.drop (start + length))

end Ipv6

end EntityHub.Url
