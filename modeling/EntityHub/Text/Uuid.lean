import EntityHub.Codec.Hex
import EntityHub.Codec.BigEndian
/-!
# UUIDs

Identifiers of 128 bits in hexadecimal groups. Of a random one (version 4) six bits are fixed and
122 can be chosen.
-/

namespace EntityHub.Uuid

/-- The octets of a random identifier whose free bits are those of `n`. -/
def octets (n : Nat) : List UInt8 :=
  let high := n >>> 74 % (1 <<< 48)
  let middle := n >>> 62 % (1 <<< 12)
  let low := n % (1 <<< 62)
  BigEndian.padded 16 (high <<< 80 + (4 <<< 12 + middle) <<< 64 + (2 <<< 62 + low))

/-- The text of octets in groups of 4, 2, 2, 2 and 6. -/
def group (l : List UInt8) : String :=
  "-".intercalate
    ([l.take 4, (l.drop 4).take 2, (l.drop 6).take 2, (l.drop 8).take 2, l.drop 10].map Hex.encode)

/-- The random identifier whose free bits are those of `n`. -/
def text (n : Nat) : String := group (octets n)

/-- Whether a text is a random identifier in lower case. -/
def isRandom (s : String) : Bool :=
  let isHex (c : Char) : Bool := c.isDigit || ('a' ≤ c && c ≤ 'f')
  let fits (p : Char × Char) : Bool :=
    if p.1 = 'x' then isHex p.2
    else if p.1 = 'y' then "89ab".toList.contains p.2
    else p.1 = p.2
  s.length = 36 && ("xxxxxxxx-xxxx-4xxx-yxxx-xxxxxxxxxxxx".toList.zip s.toList).all fits

end EntityHub.Uuid
