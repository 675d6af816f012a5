/-!
# Arithmetic to a modulus

Powers by repeated squaring and inverses by the extended Euclidean algorithm.
-/

namespace EntityHub.Modular

/-- The remainder of `b ^ e` to the modulus `m`. -/
def powMod (b e m : Nat) : Nat :=
  if e = 0 then 1 % m
  else
    let half := powMod (b * b % m) (e / 2) m
    if e % 2 = 1 then b * half % m else half

/-- Integers `x`, `y` with `a * x + b * y` the greatest common divisor of `a` and `b`. -/
def bezout (a b : Nat) : Int × Int :=
  if h : b = 0 then (1, 0)
  else
    have : a % b < b := Nat.mod_lt _ (Nat.pos_of_ne_zero h)
    let (x, y) := bezout b (a % b)
    (y, x - (a / b : Nat) * y)
termination_by b

/-- The inverse of `a` to the modulus `m`. -/
def inverse? (a m : Nat) : Option Nat :=
  let x := ((bezout (a % m) m).1 % m).toNat
  if a * x % m = 1 % m then some x else none

/-- Repeated squaring gives the power. -/
theorem powMod_eq (b e m : Nat) : powMod b e m = b.pow e % m := by
  rw [Nat.pow_eq]
  induction e using Nat.strongRecOn generalizing b with
  | _ e ih =>
    rw [powMod]
    split
    · simp_all
    · rename_i he
      have key : (b * b % m) ^ (e / 2) % m = (b ^ (e / 2 * 2)) % m := by
        rw [← Nat.pow_mod, ← Nat.pow_two, ← Nat.pow_mul, Nat.mul_comm]
      simp only [ih (e / 2) (by omega), key]
      split
      · rename_i ho
        have : e = e / 2 * 2 + 1 := by omega
        rw [Nat.mul_mod, Nat.mod_mod, ← Nat.mul_mod]
        conv => rhs; rw [this, Nat.pow_succ, Nat.mul_comm]
      · have : e / 2 * 2 = e := by omega
        rw [this]

end EntityHub.Modular
