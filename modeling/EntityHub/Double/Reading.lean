/-!
# Doubles from decimal numbers

A decimal number is a significand below `2 ^ 64` and a power of ten. It becomes a double by one
rounding of the significand and one multiplication or division by a power of ten (two divisions
below `10 ^ -308`), so the last bit may differ from that of the nearest double.
-/

namespace EntityHub.Double

/-- The double nearest to a power of ten. -/
def powerOfTen (n : Nat) : Float := .ofScientific 1 false n

/-- The largest power of ten that is a finite double. -/
def maxPower : Nat := 308

/-- The double `significand * 10 ^ exponent`, or `none` if it is beyond the finite ones. -/
def ofDecimal? (significand : UInt64) (exponent : Int) : Option Float :=
  let f := significand.toFloat
  match exponent with
  | .ofNat n =>
    if n ≤ maxPower then
      let g := f * powerOfTen n
      if g.isInf then none else some g
    else if significand = 0 then some f else none
  | .negSucc n =>
    let n := n + 1
    if n ≤ maxPower then some (f / powerOfTen n)
    else if n ≤ 2 * maxPower then some (f / powerOfTen maxPower / powerOfTen (n - maxPower))
    else some 0

end EntityHub.Double
