/-!
# UTF-8

Characters as octets and back. `scan` reads any octets: it gives `some c` for each well-formed
sequence and one `none` for each ill-formed part, taken as long as it could still begin a
well-formed sequence. A strict reader (`decode?`) refuses a `none`, a lenient one (`lossy`)
writes U+FFFD for it.
-/

namespace EntityHub.Utf8

/-! ## Writing -/

/-- The octets of one character. -/
def encodeChar (c : Char) : List UInt8 :=
  let n := c.toNat
  let tail (i : Nat) : UInt8 := .ofNat (0x80 + n >>> (6 * i) % 64)
  if n < 0x80 then [.ofNat n]
  else if n < 0x800 then [.ofNat (0xC0 + n / 64), tail 0]
  else if n < 0x10000 then [.ofNat (0xE0 + n >>> 12), tail 1, tail 0]
  else [.ofNat (0xF0 + n >>> 18), tail 2, tail 1, tail 0]

/-- The octets of a text. -/
def encode (s : String) : List UInt8 := s.toList.flatMap encodeChar

/-! ## Reading -/

/-- What a leading octet announces: its share of the character, how many octets follow it, and
the range of the first of them. Of the others each lies between `80` and `BF`. -/
structure Lead where
  bits : Nat
  count : Nat
  low : UInt8 := 0x80
  high : UInt8 := 0xBF

/-- The meaning of an octet in first place, if it may stand there. The ranges leave out the
overlong forms, the surrogates and what lies beyond U+10FFFF. -/
def lead? (a : UInt8) : Option Lead :=
  if a < 0x80 then some { bits := a.toNat, count := 0 }
  else if a < 0xC2 then none
  else if a < 0xE0 then some { bits := a.toNat - 0xC0, count := 1 }
  else if a == 0xE0 then some { bits := 0, count := 2, low := 0xA0 }
  else if a == 0xED then some { bits := 0xD, count := 2, high := 0x9F }
  else if a < 0xF0 then some { bits := a.toNat - 0xE0, count := 2 }
  else if a == 0xF0 then some { bits := 0, count := 3, low := 0x90 }
  else if a < 0xF4 then some { bits := a.toNat - 0xF0, count := 3 }
  else if a == 0xF4 then some { bits := 4, count := 3, high := 0x8F }
  else none

/-- The octets at the front of a list that can follow a leading octet, at most `count` of them. -/
def following (low high : UInt8) : Nat → List UInt8 → List UInt8
  | count + 1, b :: l => if low ≤ b && b ≤ high then b :: following 0x80 0xBF count l else []
  | _, _ => []

/-- The first character of `a :: l`, or `none` if it begins with an ill-formed part, and the
number of octets of `l` that go with it. -/
def front (a : UInt8) (l : List UInt8) : Option Char × Nat :=
  match lead? a with
  | none => (none, 0)
  | some h =>
    let tail := following h.low h.high h.count l
    if tail.length = h.count then
      (some (.ofNat (tail.foldl (fun n b => n * 64 + (b.toNat - 0x80)) h.bits)), h.count)
    else (none, tail.length)

/-- The characters of octets, `none` for each ill-formed part. -/
def scan (l : List UInt8) : List (Option Char) := go 0 l
where
  /-- Reads after passing over `skip` octets that belong to the part before. -/
  go (skip : Nat) : List UInt8 → List (Option Char)
    | [] => []
    | a :: l =>
      match skip with
      | n + 1 => go n l
      | 0 => (front a l).1 :: go (front a l).2 l

/-- The text of well-formed octets. -/
def decode? (l : List UInt8) : Option String := (scan l).mapM id |>.map .ofList

/-- The text of octets, with U+FFFD in place of each ill-formed part. -/
def lossy (l : List UInt8) : String := .ofList ((scan l).map (·.getD '\uFFFD'))

end EntityHub.Utf8
