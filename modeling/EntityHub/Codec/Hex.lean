/-!
# Hexadecimal text

Octets as text, two lower-case digits each.
-/

namespace EntityHub.Hex

/-- The digit of a value below 16. -/
def digit (n : Nat) : Char := .ofNat (if n < 10 then '0'.toNat + n else 'a'.toNat + (n - 10))

/-- The text of octets. -/
def encode (l : List UInt8) : String :=
  .ofList (l.flatMap fun b => [digit (b.toNat / 16), digit (b.toNat % 16)])

/-- The value of a digit in lower case. -/
def value? (c : Char) : Option Nat :=
  if c.isDigit then some (c.toNat - '0'.toNat)
  else if 'a' ≤ c && c ≤ 'f' then some (c.toNat - 'a'.toNat + 10)
  else none

/-- The octets of a text. -/
def decode? (s : String) : Option (List UInt8) := go s.toList
where
  /-- Reads two digits at a time. -/
  go : List Char → Option (List UInt8)
    | [] => some []
    | [_] => none
    | a :: b :: l => return .ofNat ((← value? a) * 16 + (← value? b)) :: (← go l)

end EntityHub.Hex
