/-!
# Shortest decimal of a double

The fewest decimal digits that read back as a given finite double, and of those the nearest to
it. A finite double is `m * 2 ^ q`; the reals that round to it form an interval that reaches half
way to its neighbours and holds its ends when `m` is even. On the grid of `n`-digit decimals only
the two neighbours of the value can be the nearest hit, so the first grid with a neighbour in the
interval decides, in exact arithmetic.
-/

namespace EntityHub.Double

/-- The magnitude of a finite double. -/
structure Dyadic where
  mantissa : Nat
  exponent : Int
  /-- The neighbour below is half as far away as the one above. -/
  narrow : Bool

/-- The magnitude written in the low 63 bits. -/
def Dyadic.ofBits (bits : UInt64) : Dyadic :=
  let e := (bits >>> 52).toNat % 2048
  let f := bits.toNat % (1 <<< 52)
  if e = 0 then ⟨f, -1074, false⟩ else ⟨1 <<< 52 + f, e - 1075, f = 0 ∧ 1 < e⟩

/-- Whether the sign bit is set. -/
def isNegative (bits : UInt64) : Bool := bits >>> 63 == 1

/-- The positive decimal number `digits * 10 ^ exponent`. -/
structure Decimal where
  digits : Nat
  exponent : Int
deriving DecidableEq

namespace Dyadic

/-- The value in quarters of the last mantissa place, as a fraction. -/
def fraction (d : Dyadic) : Nat × Nat :=
  ((4 * d.mantissa) <<< (d.exponent - 2).toNat, 1 <<< (2 - d.exponent).toNat)

/-- The least `k` with `d < 10 ^ k`, for a value that is not zero. -/
def magnitude (d : Dyadic) : Int :=
  let (n, e) := d.fraction
  if n < e then - ((List.range 400).find? fun j => decide (e ≤ n * Nat.pow 10 (j + 1))).getD 0
  else (Nat.toDigits 10 (n / e)).length

/-- The nearest of the multiples of `10 ^ s` that round to `d`, if there is one. -/
def onGrid? (d : Dyadic) (s : Int) : Option Decimal :=
  -- `x * 10 ^ s` compares with `y * 2 ^ (exponent - 2)` as `x * b` with `y * a`
  let a := Nat.pow 10 (-s).toNat <<< (d.exponent - 2).toNat
  let b := Nat.pow 10 s.toNat <<< (2 - d.exponent).toNat
  let v := 4 * d.mantissa
  let low := (if d.narrow then v - 1 else v - 2) * a
  let high := (v + 2) * a
  let inside (x : Nat) : Bool :=
    if d.mantissa % 2 = 0 then low ≤ x * b && x * b ≤ high else low < x * b && x * b < high
  let x := v * a / b
  match inside x, inside (x + 1) with
  | true, true =>
    if 2 * v * a < (2 * x + 1) * b then some ⟨x, s⟩
    else if 2 * v * a = (2 * x + 1) * b && x % 2 = 0 then some ⟨x, s⟩
    else some ⟨x + 1, s⟩
  | true, false => some ⟨x, s⟩
  | false, true => some ⟨x + 1, s⟩
  | false, false => none

/-- The shortest decimal that rounds to `d`. Seventeen digits always suffice. -/
def shortest (d : Dyadic) : Decimal :=
  let k := d.magnitude
  ((List.range 17).findSome? fun (n : Nat) => d.onGrid? (k - (n + 1))).getD ⟨0, 0⟩

end Dyadic

end EntityHub.Double
