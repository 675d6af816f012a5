/-!
# Base64

Octets as text, six bits to a character. The form for URLs has its own last two digits and no padding.
Either form is read strictly: groups of four, a shorter or padded group only at the end, and no bits
beyond the last octet. So each list of octets has exactly one text in each form.
-/

namespace EntityHub.Base64

/-- The last two digits of an alphabet. All others are the letters and the decimal digits. -/
structure Alphabet where
  digit62 : Char
  digit63 : Char

/-- The standard alphabet. -/
def standard : Alphabet := ⟨'+', '/'⟩

/-- The alphabet for URLs. -/
def urlSafe : Alphabet := ⟨'-', '_'⟩

/-- The digit of a value below 64. -/
def Alphabet.digit (a : Alphabet) (n : Nat) : Char :=
  if n < 26 then .ofNat ('A'.toNat + n)
  else if n < 52 then .ofNat ('a'.toNat + (n - 26))
  else if n < 62 then .ofNat ('0'.toNat + (n - 52))
  else if n = 62 then a.digit62
  else a.digit63

/-- The value of a digit. -/
def Alphabet.value? (a : Alphabet) (c : Char) : Option Nat :=
  if c.isUpper then some (c.toNat - 'A'.toNat)
  else if c.isLower then some (c.toNat - 'a'.toNat + 26)
  else if c.isDigit then some (c.toNat - '0'.toNat + 52)
  else if c = a.digit62 then some 62
  else if c = a.digit63 then some 63
  else none

/-- The text of octets. `pad` fills up the last group. -/
def encodeWith (a : Alphabet) (pad : List Char) : List UInt8 → List Char
  | x :: y :: z :: l =>
    a.digit (x.toNat / 4) :: a.digit (x.toNat % 4 * 16 + y.toNat / 16) ::
      a.digit (y.toNat % 16 * 4 + z.toNat / 64) :: a.digit (z.toNat % 64) :: encodeWith a pad l
  | [x, y] =>
    a.digit (x.toNat / 4) :: a.digit (x.toNat % 4 * 16 + y.toNat / 16) ::
      a.digit (y.toNat % 16 * 4) :: pad
  | [x] => a.digit (x.toNat / 4) :: a.digit (x.toNat % 4 * 16) :: (pad ++ pad)
  | [] => []

/-- The padded text of octets. -/
def encode (l : List UInt8) : List Char := encodeWith standard ['='] l

/-- The text of octets for use in a URL. -/
def encodeUrl (l : List UInt8) : List Char := encodeWith urlSafe [] l

/-- The octets of a text whose last group is filled up by `pad`. -/
def decodeWith? (a : Alphabet) (pad : List Char) : List Char → Option (List UInt8)
  | [] => some []
  | [_] => none
  | x :: y :: l => do
    let x ← a.value? x
    let y ← a.value? y
    if l = pad ++ pad then
      guard (y % 16 = 0)
      return [.ofNat (x * 4 + y / 16)]
    else
      match l with
      | [] => none
      | z :: l =>
        let z ← a.value? z
        if l = pad then
          guard (z % 4 = 0)
          return [.ofNat (x * 4 + y / 16), .ofNat (y % 16 * 16 + z / 4)]
        else
          match l with
          | [] => none
          | w :: l =>
            let w ← a.value? w
            return .ofNat (x * 4 + y / 16) :: .ofNat (y % 16 * 16 + z / 4) ::
              .ofNat (z % 4 * 64 + w) :: (← decodeWith? a pad l)

/-- The octets of a padded text. -/
def decode? (l : List Char) : Option (List UInt8) := decodeWith? standard ['='] l

/-- The octets of a text from a URL. -/
def decodeUrl? (l : List Char) : Option (List UInt8) := decodeWith? urlSafe [] l

end EntityHub.Base64
