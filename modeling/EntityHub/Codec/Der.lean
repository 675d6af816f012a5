import EntityHub.Codec.BigEndian
/-!
# DER

The distinguished encoding of nested data as octets. An element is a tag, the length of its
contents, and the contents; the contents of a sequence are elements themselves. A length and a
natural number have one encoding each: reading refuses what writing would not produce.
-/

namespace EntityHub.Der

/-- A tag with contents. -/
structure Element where
  tag : UInt8
  contents : List UInt8
deriving DecidableEq

/-! ## Tags -/

/-- The tag of integers. -/
def integerTag : UInt8 := 0x02

/-- The tag of strings of bits. -/
def bitStringTag : UInt8 := 0x03

/-- The tag of strings of octets. -/
def octetStringTag : UInt8 := 0x04

/-- The tag of the null value. -/
def nullTag : UInt8 := 0x05

/-- The tag of object identifiers. -/
def objectTag : UInt8 := 0x06

/-- The tag of sequences. -/
def sequenceTag : UInt8 := 0x30

/-- The universal tags in use. -/
def universalTags : List UInt8 :=
  [0x01, 0x02, 0x03, 0x04, 0x05, 0x06, 0x09, 0x0A, 0x0C, 0x12, 0x13, 0x14, 0x15, 0x16, 0x17, 0x18,
    0x1A, 0x1E, 0x30, 0x31]

/-- Whether an octet is a tag of its own. The number 31 announces more octets, which do not occur. -/
def isTag (b : UInt8) : Bool :=
  if b < 0x40 then universalTags.contains b else b.toNat % 32 != 31

/-- Whether a tag belongs to the structure around it. -/
def isContextual (b : UInt8) : Bool := 0x80 ≤ b && b < 0xC0

/-- Whether the contents under a tag are elements. -/
def isConstructed (b : UInt8) : Bool := b.toNat / 32 % 2 == 1

/-- The number of a tag within its class. -/
def tagNumber (b : UInt8) : Nat := b.toNat % 32

/-! ## Writing -/

/-- The octets of a length: itself below 128, else how many octets it takes, and those. -/
def lengthOctets (n : Nat) : List UInt8 :=
  if n < 0x80 then [.ofNat n]
  else .ofNat (0x80 + (BigEndian.octets n).length) :: BigEndian.octets n

/-- The octets of an element. -/
def Element.octets (e : Element) : List UInt8 :=
  e.tag :: (lengthOctets e.contents.length ++ e.contents)

/-- The contents that elements make up. -/
def join (l : List Element) : List UInt8 := l.flatMap Element.octets

/-- A sequence of elements. -/
def sequence (l : List Element) : Element := ⟨sequenceTag, join l⟩

/-- The contents of an integer that is not negative. The first bit would be a sign. -/
def naturalContents (n : Nat) : List UInt8 :=
  match BigEndian.octets n with
  | [] => [0]
  | b :: l => if b < 0x80 then b :: l else 0 :: b :: l

/-- An integer that is not negative. -/
def natural (n : Nat) : Element := ⟨integerTag, naturalContents n⟩

/-- The null value. -/
def null : Element := ⟨nullTag, []⟩

/-- A string of octets. -/
def octetString (l : List UInt8) : Element := ⟨octetStringTag, l⟩

/-- A string of whole octets of bits. The octet in front counts the bits that are left out. -/
def bitString (l : List UInt8) : Element := ⟨bitStringTag, 0 :: l⟩

/-! ## Reading -/

/-- The length at the front of octets, and the rest of them. -/
def length? : List UInt8 → Option (Nat × List UInt8)
  | [] => none
  | b :: l =>
    if b < 0x80 then some (b.toNat, l)
    else
      let count := b.toNat - 0x80
      let n := BigEndian.value (l.take count)
      if count ≤ 4 ∧ lengthOctets n = b :: l.take count then some (n, l.drop count) else none

/-- The element at the front of octets, and the rest of them. -/
def next? : List UInt8 → Option (Element × List UInt8)
  | [] => none
  | tag :: l =>
    if isTag tag then
      match length? l with
      | some (n, rest) => if n ≤ rest.length then some (⟨tag, rest.take n⟩, rest.drop n) else none
      | none => none
    else none

/-- A length takes nothing but octets from the front. -/
theorem length_le_of_length? {l rest : List UInt8} {n : Nat} (h : length? l = some (n, rest)) :
    rest.length ≤ l.length := by
  unfold length? at h
  split at h
  · simp at h
  · dsimp only at h
    split at h
    · simp_all
    · split at h
      · simp_all
        obtain ⟨_, rfl⟩ := h
        simp
        omega
      · simp at h

/-- An element takes at least one octet. -/
theorem length_lt_of_next? {l rest : List UInt8} {e : Element} (h : next? l = some (e, rest)) :
    rest.length < l.length := by
  unfold next? at h
  split at h
  · simp at h
  · split at h
    · split at h
      · rename_i hl
        have := length_le_of_length? hl
        split at h
        · simp at h
          obtain ⟨_, rfl⟩ := h
          simp
          omega
        · simp at h
      · simp at h
    · simp at h

/-- The elements that make up contents. -/
def elements? (l : List UInt8) : Option (List Element) :=
  if l.isEmpty then some []
  else
    match h : next? l with
    | some (e, rest) =>
      have := length_lt_of_next? h
      (elements? rest).map (e :: ·)
    | none => none
termination_by l.length

/-- The contents under a tag. -/
def Element.under? (tag : UInt8) (e : Element) : Option (List UInt8) :=
  if e.tag = tag then some e.contents else none

/-- The elements of a sequence. -/
def Element.items? (e : Element) : Option (List Element) := (e.under? sequenceTag).bind elements?

/-- The number that an integer stands for, if it is not negative. -/
def Element.natural? (e : Element) : Option Nat := do
  let l ← e.under? integerTag
  let n := BigEndian.value l
  if naturalContents n = l then some n else none

/-- The octets of a string of whole octets of bits. -/
def Element.bits? (e : Element) : Option (List UInt8) :=
  match e.under? bitStringTag with
  | some (0 :: l) => some l
  | _ => none

/-- The one element that octets make up. -/
def element? (l : List UInt8) : Option Element :=
  match elements? l with
  | some [e] => some e
  | _ => none

end EntityHub.Der
