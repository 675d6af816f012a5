import EntityHub.Codec.Base64
import Mathlib.Data.List.Basic
import Mathlib.Data.Option.Basic
/-!
# Base64 read back

A text of octets is read as the octets (`Base64.decodeWith?_encodeWith`), in either alphabet, with
padding or without, and no other text is (`Base64.decodeWith?_eq_some_iff`). `Base64.canonical_iff`
says which texts have octets at all.
-/

namespace EntityHub.Base64

variable {a : Alphabet} {pad : List Char}

/-- Digits are told from one another, and from what fills up the last group. -/
structure Alphabet.Told (a : Alphabet) (pad : List Char) : Prop where
  value_digit : ∀ n < 64, a.value? (a.digit n) = some n
  filler : ∀ c ∈ pad, a.value? c = none

/-- Whether digits are told from one another can be computed. -/
theorem value?_digit_of_all (h : (List.range 64).all fun n => a.value? (a.digit n) == some n)
    (n : Nat) (hn : n < 64) : a.value? (a.digit n) = some n :=
  beq_iff_eq.mp (List.all_eq_true.mp h n (List.mem_range.mpr hn))

theorem told_standard : standard.Told ['='] where
  value_digit := value?_digit_of_all (by decide)
  filler c hc := by
    obtain rfl := List.mem_singleton.mp hc
    decide

theorem told_urlSafe : urlSafe.Told [] where
  value_digit := value?_digit_of_all (by decide)
  filler c hc := by cases hc

theorem Alphabet.Told.digit_notMem (h : a.Told pad) {n : Nat} (hn : n < 64) : a.digit n ∉ pad := by
  intro hmem
  have hnone := h.filler _ hmem
  rw [h.value_digit n hn] at hnone
  cases hnone

/-- Where a digit comes next there is more than padding. -/
theorem Alphabet.Told.cons_ne (h : a.Told pad) {n : Nat} (hn : n < 64) (l : List Char) :
    a.digit n :: l ≠ pad ∧ a.digit n :: l ≠ pad ++ pad := by
  refine ⟨fun heq => h.digit_notMem hn (heq ▸ List.mem_cons_self), fun heq => ?_⟩
  have hmem : a.digit n ∈ pad ++ pad := heq ▸ List.mem_cons_self
  exact h.digit_notMem hn (by simpa using hmem)

/-- The characters of a text are digits and padding. -/
theorem mem_encodeWith {c : Char} :
    ∀ {l : List UInt8}, c ∈ encodeWith a pad l → (∃ n < 64, c = a.digit n) ∨ c ∈ pad
  | [], h => by cases h
  | [x], h => by
    have hx := x.toNat_lt
    simp only [encodeWith, List.mem_cons, List.mem_append, or_self] at h
    rcases h with rfl | rfl | h
    · exact .inl ⟨_, by omega, rfl⟩
    · exact .inl ⟨_, by omega, rfl⟩
    · exact .inr h
  | [x, y], h => by
    have hx := x.toNat_lt
    have hy := y.toNat_lt
    simp only [encodeWith, List.mem_cons] at h
    rcases h with rfl | rfl | rfl | h
    · exact .inl ⟨_, by omega, rfl⟩
    · exact .inl ⟨_, by omega, rfl⟩
    · exact .inl ⟨_, by omega, rfl⟩
    · exact .inr h
  | x :: y :: z :: l, h => by
    have hx := x.toNat_lt
    have hy := y.toNat_lt
    have hz := z.toNat_lt
    simp only [encodeWith, List.mem_cons] at h
    rcases h with rfl | rfl | rfl | rfl | h
    · exact .inl ⟨_, by omega, rfl⟩
    · exact .inl ⟨_, by omega, rfl⟩
    · exact .inl ⟨_, by omega, rfl⟩
    · exact .inl ⟨_, by omega, rfl⟩
    · exact mem_encodeWith h

theorem encodeWith_ne_nil {l : List UInt8} (h : l ≠ []) : encodeWith a pad l ≠ [] := by
  match l, h with
  | [x], _ => exact List.cons_ne_nil _ _
  | [x, y], _ => exact List.cons_ne_nil _ _
  | x :: y :: z :: l, _ => exact List.cons_ne_nil _ _

/-- An octet is put together from its parts. -/
theorem ofNat_eq {x : UInt8} {n : Nat} (h : n = x.toNat) : UInt8.ofNat n = x := by
  rw [h, UInt8.ofNat_toNat]

/-- The text of octets is read as the octets. -/
theorem decodeWith?_encodeWith (h : a.Told pad) :
    ∀ l : List UInt8, decodeWith? a pad (encodeWith a pad l) = some l
  | [] => rfl
  | [x] => by
    have hx := x.toNat_lt
    have hzero : x.toNat % 4 * 16 % 16 = 0 := by omega
    have hvalue : UInt8.ofNat (x.toNat / 4 * 4 + x.toNat % 4 * 16 / 16) = x := ofNat_eq (by omega)
    rw [encodeWith, decodeWith?, h.value_digit _ (by omega), h.value_digit _ (by omega)]
    simp only [Option.bind_eq_bind, Option.bind_some, if_true, hzero, guard, hvalue]
    rfl
  | [x, y] => by
    have hx := x.toNat_lt
    have hy := y.toNat_lt
    have hmore := h.cons_ne (n := y.toNat % 16 * 4) (by omega) pad
    have hzero : y.toNat % 16 * 4 % 4 = 0 := by omega
    have hfirst : UInt8.ofNat (x.toNat / 4 * 4 + (x.toNat % 4 * 16 + y.toNat / 16) / 16) = x :=
      ofNat_eq (by omega)
    have hsecond : UInt8.ofNat ((x.toNat % 4 * 16 + y.toNat / 16) % 16 * 16 +
        y.toNat % 16 * 4 / 4) = y := ofNat_eq (by omega)
    rw [encodeWith, decodeWith?, h.value_digit _ (by omega), h.value_digit _ (by omega)]
    simp only [Option.bind_eq_bind, Option.bind_some, if_neg hmore.2,
      h.value_digit (y.toNat % 16 * 4) (by omega), if_true, hzero, guard, hfirst, hsecond]
    rfl
  | x :: y :: z :: l => by
    have hx := x.toNat_lt
    have hy := y.toNat_lt
    have hz := z.toNat_lt
    have hthird := h.cons_ne (n := y.toNat % 16 * 4 + z.toNat / 64) (by omega)
      (a.digit (z.toNat % 64) :: encodeWith a pad l)
    have hfourth := h.cons_ne (n := z.toNat % 64) (by omega) (encodeWith a pad l)
    have hfirst : UInt8.ofNat (x.toNat / 4 * 4 + (x.toNat % 4 * 16 + y.toNat / 16) / 16) = x :=
      ofNat_eq (by omega)
    have hsecond : UInt8.ofNat ((x.toNat % 4 * 16 + y.toNat / 16) % 16 * 16 +
        (y.toNat % 16 * 4 + z.toNat / 64) / 4) = y := ofNat_eq (by omega)
    have hlast : UInt8.ofNat ((y.toNat % 16 * 4 + z.toNat / 64) % 4 * 64 + z.toNat % 64) = z :=
      ofNat_eq (by omega)
    rw [encodeWith, decodeWith?, h.value_digit _ (by omega), h.value_digit _ (by omega)]
    simp only [Option.bind_eq_bind, Option.bind_some, if_neg hthird.2, if_neg hfourth.1,
      h.value_digit (y.toNat % 16 * 4 + z.toNat / 64) (by omega),
      h.value_digit (z.toNat % 64) (by omega), decodeWith?_encodeWith h l, hfirst, hsecond, hlast]
    rfl

theorem encodeWith_injective (h : a.Told pad) : Function.Injective (encodeWith a pad) := by
  intro l o hlo
  have hl := decodeWith?_encodeWith h l
  rw [hlo, decodeWith?_encodeWith h o] at hl
  exact (Option.some.inj hl).symm

/-- A padded text is read as its octets. -/
theorem decode?_encode (l : List UInt8) : decode? (encode l) = some l :=
  decodeWith?_encodeWith told_standard l

/-- A text for a URL is read as its octets. -/
theorem decodeUrl?_encodeUrl (l : List UInt8) : decodeUrl? (encodeUrl l) = some l :=
  decodeWith?_encodeWith told_urlSafe l

/-- The characters of a text for a URL. -/
theorem of_mem_encodeUrl {c : Char} {l : List UInt8} (h : c ∈ encodeUrl l) :
    c.isAlphanum ∨ c = '-' ∨ c = '_' := by
  have hdigits : ∀ n ∈ List.range 64, (urlSafe.digit n).isAlphanum ∨ urlSafe.digit n = '-' ∨
      urlSafe.digit n = '_' := by decide
  rcases mem_encodeWith h with ⟨n, hn, rfl⟩ | hpad
  · exact hdigits n (List.mem_range.mpr hn)
  · cases hpad

/-! ## Nothing else is read -/

/-- A character that is read as a value is the digit of that value. -/
theorem Alphabet.digit_of_value? {c : Char} {n : Nat} (h : a.value? c = some n) :
    n < 64 ∧ a.digit n = c := by
  have hback {m : Nat} (hm : m = c.toNat) : Char.ofNat m = c := by rw [hm, Char.ofNat_toNat]
  have hA : 'A'.toNat = 65 := rfl
  have ha : 'a'.toNat = 97 := rfl
  have h0 : '0'.toNat = 48 := rfl
  unfold value? at h
  unfold digit
  split at h
  · next hupper =>
    obtain ⟨hlow, hhigh⟩ : 65 ≤ c.toNat ∧ c.toNat ≤ 90 :=
      (of_decide_eq_true hupper).imp UInt32.le_iff_toNat_le.mp UInt32.le_iff_toNat_le.mp
    obtain rfl := Option.some.inj h
    exact ⟨by omega, by rw [if_pos (by omega)]; exact hback (by omega)⟩
  split at h
  · next hlower =>
    obtain ⟨hge, hle⟩ : decide (c.val ≥ 'a'.val) = true ∧ decide (c.val ≤ 'z'.val) = true :=
      Bool.and_eq_true_iff.mp hlower
    have hlow : 97 ≤ c.toNat := UInt32.le_iff_toNat_le.mp (of_decide_eq_true hge)
    have hhigh : c.toNat ≤ 122 := UInt32.le_iff_toNat_le.mp (of_decide_eq_true hle)
    obtain rfl := Option.some.inj h
    exact ⟨by omega, by rw [if_neg (by omega), if_pos (by omega)]; exact hback (by omega)⟩
  split at h
  · next hdigit =>
    obtain ⟨hlow, hhigh⟩ : 48 ≤ c.toNat ∧ c.toNat ≤ 57 := Char.isDigit_iff_toNat.mp hdigit
    obtain rfl := Option.some.inj h
    refine ⟨by omega, ?_⟩
    rw [if_neg (by omega), if_neg (by omega), if_pos (by omega)]
    exact hback (by omega)
  split at h
  · next h62 =>
    obtain rfl := Option.some.inj h
    exact ⟨by decide, h62.symm⟩
  split at h
  · next h63 =>
    obtain rfl := Option.some.inj h
    exact ⟨by decide, h63.symm⟩
  · cases h

section Groups

variable {i j k m : Nat}

theorem toNat_first (hi : i < 64) (hj : j < 64) :
    (UInt8.ofNat (i * 4 + j / 16)).toNat = i * 4 + j / 16 :=
  UInt8.toNat_ofNat_of_lt' (show _ < 256 by omega)

theorem toNat_second (hk : k < 64) :
    (UInt8.ofNat (j % 16 * 16 + k / 4)).toNat = j % 16 * 16 + k / 4 :=
  UInt8.toNat_ofNat_of_lt' (show _ < 256 by omega)

theorem toNat_third (hm : m < 64) : (UInt8.ofNat (k % 4 * 64 + m)).toNat = k % 4 * 64 + m :=
  UInt8.toNat_ofNat_of_lt' (show _ < 256 by omega)

variable {x y z w : Char} (hx : a.value? x = some i) (hy : a.value? y = some j)
include hx hy

/-- Two digits without bits beyond the octet are its last group. -/
theorem encodeWith_one (h : j % 16 = 0) :
    encodeWith a pad [.ofNat (i * 4 + j / 16)] = x :: y :: (pad ++ pad) := by
  obtain ⟨hi, hx⟩ := Alphabet.digit_of_value? hx
  obtain ⟨hj, hy⟩ := Alphabet.digit_of_value? hy
  rw [encodeWith, toNat_first hi hj, show (i * 4 + j / 16) / 4 = i by omega,
    show (i * 4 + j / 16) % 4 * 16 = j by omega, hx, hy]

variable (hz : a.value? z = some k)
include hz

/-- Three digits without bits beyond the second octet are the last group of two. -/
theorem encodeWith_two (h : k % 4 = 0) :
    encodeWith a pad [.ofNat (i * 4 + j / 16), .ofNat (j % 16 * 16 + k / 4)] =
      x :: y :: z :: pad := by
  obtain ⟨hi, hx⟩ := Alphabet.digit_of_value? hx
  obtain ⟨hj, hy⟩ := Alphabet.digit_of_value? hy
  obtain ⟨hk, hz⟩ := Alphabet.digit_of_value? hz
  rw [encodeWith, toNat_first hi hj, toNat_second hk, show (i * 4 + j / 16) / 4 = i by omega,
    show (i * 4 + j / 16) % 4 * 16 + (j % 16 * 16 + k / 4) / 16 = j by omega,
    show (j % 16 * 16 + k / 4) % 16 * 4 = k by omega, hx, hy, hz]

/-- Four digits are the group of three octets. -/
theorem encodeWith_three (hw : a.value? w = some m) (l : List UInt8) :
    encodeWith a pad (.ofNat (i * 4 + j / 16) :: .ofNat (j % 16 * 16 + k / 4) ::
      .ofNat (k % 4 * 64 + m) :: l) = x :: y :: z :: w :: encodeWith a pad l := by
  obtain ⟨hi, hx⟩ := Alphabet.digit_of_value? hx
  obtain ⟨hj, hy⟩ := Alphabet.digit_of_value? hy
  obtain ⟨hk, hz⟩ := Alphabet.digit_of_value? hz
  obtain ⟨hm, hw⟩ := Alphabet.digit_of_value? hw
  rw [encodeWith, toNat_first hi hj, toNat_second hk, toNat_third hm,
    show (i * 4 + j / 16) / 4 = i by omega,
    show (i * 4 + j / 16) % 4 * 16 + (j % 16 * 16 + k / 4) / 16 = j by omega,
    show (j % 16 * 16 + k / 4) % 16 * 4 + (k % 4 * 64 + m) / 64 = k by omega,
    show (k % 4 * 64 + m) % 64 = m by omega, hx, hy, hz, hw]

end Groups

/-- What is read as octets is their text. -/
theorem encodeWith_of_decodeWith? : ∀ {l : List Char} {o : List UInt8},
    decodeWith? a pad l = some o → encodeWith a pad o = l
  | [], o, h => by
    obtain rfl := Option.some.inj h
    rfl
  | [_], o, h => by cases h
  | x :: y :: l, o, h => by
    rw [decodeWith?] at h
    obtain ⟨i, hx, h⟩ := Option.bind_eq_some_iff.mp h
    obtain ⟨j, hy, h⟩ := Option.bind_eq_some_iff.mp h
    split at h
    · next hl =>
      obtain ⟨_, hguard, h⟩ := Option.bind_eq_some_iff.mp h
      obtain rfl := Option.some.inj h
      rw [encodeWith_one hx hy ((Option.guard_eq_some' _).mp hguard), hl]
    · match l with
      | [] => cases h
      | z :: l =>
        obtain ⟨k, hz, h⟩ := Option.bind_eq_some_iff.mp h
        split at h
        · next hl =>
          obtain ⟨_, hguard, h⟩ := Option.bind_eq_some_iff.mp h
          obtain rfl := Option.some.inj h
          rw [encodeWith_two hx hy hz ((Option.guard_eq_some' _).mp hguard), hl]
        · match l with
          | [] => cases h
          | w :: l =>
            obtain ⟨m, hw, h⟩ := Option.bind_eq_some_iff.mp h
            obtain ⟨o, ho, h⟩ := Option.bind_eq_some_iff.mp h
            obtain rfl := Option.some.inj h
            rw [encodeWith_three hx hy hz hw, encodeWith_of_decodeWith? ho]

/-- The octets of a text are those whose text it is. -/
theorem decodeWith?_eq_some_iff (h : a.Told pad) {l : List Char} {o : List UInt8} :
    decodeWith? a pad l = some o ↔ encodeWith a pad o = l := by
  constructor
  · exact encodeWith_of_decodeWith?
  · rintro rfl
    exact decodeWith?_encodeWith h o

/-- Groups of four digits, of which the last may be filled up. Then its last digit has no bits
beyond the last octet. -/
inductive Canonical (a : Alphabet) (pad : List Char) : List Char → Prop
  | nil : Canonical a pad []
  | one {x y : Char} {i j : Nat} : a.value? x = some i → a.value? y = some j → j % 16 = 0 →
      Canonical a pad (x :: y :: (pad ++ pad))
  | two {x y z : Char} {i j k : Nat} : a.value? x = some i → a.value? y = some j →
      a.value? z = some k → k % 4 = 0 → Canonical a pad (x :: y :: z :: pad)
  | three {x y z w : Char} {i j k m : Nat} {l : List Char} : a.value? x = some i →
      a.value? y = some j → a.value? z = some k → a.value? w = some m → Canonical a pad l →
      Canonical a pad (x :: y :: z :: w :: l)

theorem canonical_encodeWith (h : a.Told pad) :
    ∀ o : List UInt8, Canonical a pad (encodeWith a pad o)
  | [] => .nil
  | [x] => by
    have hx := x.toNat_lt
    exact .one (h.value_digit _ (by omega)) (h.value_digit _ (by omega)) (by omega)
  | [x, y] => by
    have hx := x.toNat_lt
    have hy := y.toNat_lt
    exact .two (h.value_digit _ (by omega)) (h.value_digit _ (by omega))
      (h.value_digit _ (by omega)) (by omega)
  | x :: y :: z :: o => by
    have hx := x.toNat_lt
    have hy := y.toNat_lt
    have hz := z.toNat_lt
    exact .three (h.value_digit _ (by omega)) (h.value_digit _ (by omega))
      (h.value_digit _ (by omega)) (h.value_digit _ (by omega)) (canonical_encodeWith h o)

/-- The texts of octets are the texts in canonical form. -/
theorem canonical_iff (h : a.Told pad) {l : List Char} :
    Canonical a pad l ↔ ∃ o, encodeWith a pad o = l := by
  constructor
  · intro hl
    induction hl with
    | nil => exact ⟨[], rfl⟩
    | one hx hy h => exact ⟨_, encodeWith_one hx hy h⟩
    | two hx hy hz h => exact ⟨_, encodeWith_two hx hy hz h⟩
    | three hx hy hz hw _ ih =>
      obtain ⟨o, rfl⟩ := ih
      exact ⟨_, encodeWith_three hx hy hz hw o⟩
  · rintro ⟨o, rfl⟩
    exact canonical_encodeWith h o

end EntityHub.Base64
