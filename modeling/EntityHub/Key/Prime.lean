import EntityHub.Codec.BigEndian
import EntityHub.Hash.Sha256
import EntityHub.Key.Modular
/-!
# Primes

Large primes from a seed. The numbers that are tried follow from the seed alone, so the same seed
gives the same prime.
-/

namespace EntityHub.Prime

/-- A number of at most `bits` bits that follows from a seed. -/
def number (seed bits : Nat) : Nat :=
  let digest (i : Nat) : List UInt8 :=
    Sha256.digest (BigEndian.padded 8 i ++ BigEndian.octets seed)
  BigEndian.value ((List.range (bits / 256 + 1)).flatMap digest) % (1 <<< bits)

/-- The primes below 100. -/
def small : List Nat :=
  [2, 3, 5, 7, 11, 13, 17, 19, 23, 29, 31, 37, 41, 43, 47, 53, 59, 61, 67, 71, 73, 79, 83, 89, 97]

/-- How often 2 divides `n`, and what remains. At most `fuel` divisions are made. -/
def twos : Nat → Nat → Nat × Nat
  | 0, n => (0, n)
  | fuel + 1, n =>
    if n % 2 = 0 then
      let (k, m) := twos fuel (n / 2)
      (k + 1, m)
    else (0, n)

/-- Whether squaring `x` at most `k` times to the modulus `n` meets `n - 1`. -/
def meetsMinusOne (n : Nat) : Nat → Nat → Bool
  | 0, _ => false
  | k + 1, x => x = n - 1 || meetsMinusOne n k (x * x % n)

/-- Whether `n` passes the test of Miller and Rabin to a base. Primes above the base pass. -/
def passes (n base : Nat) : Bool :=
  let (k, m) := twos n.log2 (n - 1)
  let x := Modular.powMod base m n
  x = 1 || meetsMinusOne n k x

/-- Whether `n` is one of the small primes, or has no small divisor and passes the test to each
small base. -/
def isProbable (n : Nat) : Bool :=
  if n ≤ 97 then small.contains n
  else small.all (fun p => n % p ≠ 0) && small.all (passes n)

/-- The first probable prime among `n`, `n + 2`, … of which `accept` holds. At most `fuel` numbers
are tried. -/
def firstFrom? (accept : Nat → Bool) : Nat → Nat → Option Nat
  | 0, _ => none
  | fuel + 1, n => if accept n && isProbable n then some n else firstFrom? accept fuel (n + 2)

/-- A probable prime of exactly `bits` bits of which `accept` holds. Its two highest bits are set, so
that a product of two has all its bits. -/
def find? (accept : Nat → Bool) (seed bits : Nat) : Option Nat :=
  let top := 3 <<< (bits - 2)
  let start := top + number seed (bits - 2) / 2 * 2 + 1
  let inRange (n : Nat) : Bool := n < 1 <<< bits && accept n
  (firstFrom? inRange (64 * bits) start).or (firstFrom? inRange (64 * bits) (top + 1))

end EntityHub.Prime
