/-!
# Numbers as octets

Natural numbers in base 256, the highest octet first. The value of the octets of a number is that
number, with or without leading zeros.
-/

namespace EntityHub.BigEndian

/-- The number that octets stand for. -/
def value (l : List UInt8) : Nat := l.foldl (fun n b => n * 256 + b.toNat) 0

/-- The octets of a number without leading zeros. Zero has none. -/
def octets (n : Nat) : List UInt8 :=
  if n = 0 then [] else octets (n / 256) ++ [.ofNat (n % 256)]

/-- The octets of a number, filled up in front to `size`. -/
def padded (size n : Nat) : List UInt8 :=
  let l := octets n
  List.replicate (size - l.length) 0 ++ l

/-- The last octet counts once, all before it 256 times. -/
theorem value_concat (l : List UInt8) (b : UInt8) : value (l ++ [b]) = value l * 256 + b.toNat := by
  simp [value]

/-- Zeros in front do not count. -/
theorem value_replicate_append (k : Nat) (l : List UInt8) :
    value (List.replicate k 0 ++ l) = value l := by
  induction k with
  | zero => rfl
  | succ k ih =>
    rw [← ih]
    simp [value, List.replicate_succ]

/-- The octets of a number stand for it. -/
@[simp] theorem value_octets (n : Nat) : value (octets n) = n := by
  fun_induction octets n with
  | case1 => rfl
  | case2 n _ ih =>
    rw [value_concat, ih, UInt8.toNat_ofNat']
    omega

/-- Filled up in front, the octets of a number still stand for it. -/
@[simp] theorem value_padded (size n : Nat) : value (padded size n) = n := by
  rw [padded, value_replicate_append, value_octets]

end EntityHub.BigEndian
