import EntityHub.Codec.BigEndian
/-!
# SHA-256

The digest of octets. The message is filled up to whole blocks of sixteen words; each block is
extended to a schedule of sixty-four words, and every word of it turns eight working words once.
-/

namespace EntityHub.Sha256

/-- The eight words that are worked on. -/
structure Words where
  a : UInt32
  b : UInt32
  c : UInt32
  d : UInt32
  e : UInt32
  f : UInt32
  g : UInt32
  h : UInt32

/-- The fractions of the square roots of the first eight primes. -/
def initial : Words :=
  ⟨0x6a09e667, 0xbb67ae85, 0x3c6ef372, 0xa54ff53a, 0x510e527f, 0x9b05688c, 0x1f83d9ab, 0x5be0cd19⟩

/-- The fractions of the cube roots of the first sixty-four primes. -/
def constants : List UInt32 := [
  0x428a2f98, 0x71374491, 0xb5c0fbcf, 0xe9b5dba5, 0x3956c25b, 0x59f111f1, 0x923f82a4, 0xab1c5ed5,
  0xd807aa98, 0x12835b01, 0x243185be, 0x550c7dc3, 0x72be5d74, 0x80deb1fe, 0x9bdc06a7, 0xc19bf174,
  0xe49b69c1, 0xefbe4786, 0x0fc19dc6, 0x240ca1cc, 0x2de92c6f, 0x4a7484aa, 0x5cb0a9dc, 0x76f988da,
  0x983e5152, 0xa831c66d, 0xb00327c8, 0xbf597fc7, 0xc6e00bf3, 0xd5a79147, 0x06ca6351, 0x14292967,
  0x27b70a85, 0x2e1b2138, 0x4d2c6dfc, 0x53380d13, 0x650a7354, 0x766a0abb, 0x81c2c92e, 0x92722c85,
  0xa2bfe8a1, 0xa81a664b, 0xc24b8b70, 0xc76c51a3, 0xd192e819, 0xd6990624, 0xf40e3585, 0x106aa070,
  0x19a4c116, 0x1e376c08, 0x2748774c, 0x34b0bcb5, 0x391c0cb3, 0x4ed8aa4a, 0x5b9cca4f, 0x682e6ff3,
  0x748f82ee, 0x78a5636f, 0x84c87814, 0x8cc70208, 0x90befffa, 0xa4506ceb, 0xbef9a3f7, 0xc67178f2]

/-- A word turned to the right. -/
def turn (x n : UInt32) : UInt32 := (x >>> n) ||| (x <<< (32 - n))

/-- The schedule with one word more. -/
def extend (w : Array UInt32) : Array UInt32 :=
  let back (n : Nat) : UInt32 := w.getD (w.size - n) 0
  let x := back 15
  let y := back 2
  w.push (back 16 + (turn x 7 ^^^ turn x 18 ^^^ (x >>> 3)) + back 7 +
    (turn y 17 ^^^ turn y 19 ^^^ (y >>> 10)))

/-- The schedule of a block. -/
def schedule (block : List UInt32) : List UInt32 :=
  ((List.range 48).foldl (fun w _ => extend w) block.toArray).toList

/-- One turn of the working words, with a constant and a word of the schedule. -/
def round (s : Words) (p : UInt32 × UInt32) : Words :=
  let t := s.h + (turn s.e 6 ^^^ turn s.e 11 ^^^ turn s.e 25) +
    ((s.e &&& s.f) ^^^ (~~~s.e &&& s.g)) + p.1 + p.2
  let u := (turn s.a 2 ^^^ turn s.a 13 ^^^ turn s.a 22) +
    ((s.a &&& s.b) ^^^ (s.a &&& s.c) ^^^ (s.b &&& s.c))
  ⟨t + u, s.a, s.b, s.c, s.d + t, s.e, s.f, s.g⟩

/-- The words after a block. -/
def absorb (s : Words) (block : List UInt32) : Words :=
  let t := (constants.zip (schedule block)).foldl round s
  ⟨s.a + t.a, s.b + t.b, s.c + t.c, s.d + t.d, s.e + t.e, s.f + t.f, s.g + t.g, s.h + t.h⟩

/-- The words that octets make up. -/
def words : List UInt8 → List UInt32
  | a :: b :: c :: d :: l => .ofNat (BigEndian.value [a, b, c, d]) :: words l
  | _ => []

/-- A message filled up to whole blocks: a single bit, zeros, and its length in bits. -/
def filled (l : List UInt8) : List UInt8 :=
  l ++ 0x80 :: (List.replicate ((119 - l.length % 64) % 64) 0 ++ BigEndian.padded 8 (8 * l.length))

/-- The blocks of a message. -/
def blocks (l : List UInt8) : List (List UInt32) :=
  let w := words (filled l)
  (List.range (w.length / 16)).map fun i => (w.drop (16 * i)).take 16

/-- The thirty-two octets of the digest. -/
def digest (l : List UInt8) : List UInt8 :=
  let s := (blocks l).foldl absorb initial
  [s.a, s.b, s.c, s.d, s.e, s.f, s.g, s.h].flatMap fun w => BigEndian.padded 4 w.toNat

end EntityHub.Sha256
