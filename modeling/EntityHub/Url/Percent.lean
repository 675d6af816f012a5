import EntityHub.Text.Utf8
/-!
# Percent-encoding

A character that may not stand in some part of a URL is written as its octets in UTF-8, each as `%`
and two hexadecimal digits. Which characters these are depends on the part; the ones beyond ASCII
and the controls are never written as themselves.
-/

namespace EntityHub.Percent

/-! ## Characters that are encoded -/

/-- A set of characters, of which only those in ASCII count. -/
abbrev CharSet := Char → Bool

/-- Whether a character is encoded in every part. -/
def isControl (c : Char) : Bool := c < ' ' || '~' < c

/-- The set of the characters of a text. -/
def among (s : String) : CharSet := fun c => s.toList.contains c

/-- What is encoded where nothing else is. -/
def controlSet : CharSet := isControl

/-- What is encoded in a fragment. -/
def fragmentSet : CharSet := fun c => isControl c || among " \"<>`" c

/-- What is encoded in a path. -/
def pathSet : CharSet := fun c => fragmentSet c || among "#?\x7b\x7d" c

/-- What is encoded in a user name or a password. -/
def userSet : CharSet := fun c => pathSet c || among "/:;=@[\\]^|" c

/-- What is encoded in a query. -/
def querySet : CharSet := fun c => isControl c || among " \"#<>" c

/-- What is encoded in the query of a URL with a special scheme. -/
def specialQuerySet : CharSet := fun c => querySet c || c = '\''

/-- What is encoded in a single segment that stands for any text. -/
def segmentSet : CharSet := fun c => !(c.isAlphanum || among "-._~" c)

/-- What is encoded in a form. A blank is written as `+` there. -/
def formSet : CharSet := fun c => !(c.isAlphanum || among "*-._" c)

/-! ## Writing -/

/-- The upper-case digit of a value below 16. -/
def digit (n : Nat) : Char := .ofNat (if n < 10 then '0'.toNat + n else 'A'.toNat + (n - 10))

/-- An octet in encoded form. -/
def encodeOctet (b : UInt8) : List Char := ['%', digit (b.toNat / 16), digit (b.toNat % 16)]

/-- A character, encoded if it is in the set or beyond ASCII. -/
def encodeChar (set : CharSet) (c : Char) : List Char :=
  if isControl c || set c then (Utf8.encodeChar c).flatMap encodeOctet else [c]

/-- A text with the characters of a set encoded. -/
def encode (set : CharSet) (l : List Char) : List Char := l.flatMap (encodeChar set)

/-- A text as a single segment of a path. -/
def segment (s : String) : String := .ofList (encode segmentSet s.toList)

/-! ## Reading -/

/-- The value of a hexadecimal digit. -/
def digitValue? (b : UInt8) : Option Nat :=
  if 0x30 ≤ b && b ≤ 0x39 then some (b.toNat - 0x30)
  else if 0x41 ≤ b && b ≤ 0x46 then some (b.toNat - 0x41 + 10)
  else if 0x61 ≤ b && b ≤ 0x66 then some (b.toNat - 0x61 + 10)
  else none

/-- The octets that a text stands for. A `%` without two digits stands for itself. -/
def decode : List UInt8 → List UInt8
  | 0x25 :: a :: b :: l =>
    match digitValue? a, digitValue? b with
    | some x, some y => .ofNat (x * 16 + y) :: decode l
    | _, _ => 0x25 :: decode (a :: b :: l)
  | b :: l => b :: decode l
  | [] => []
termination_by l => l.length

end EntityHub.Percent
