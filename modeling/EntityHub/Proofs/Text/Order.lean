import EntityHub.Proofs.Text.Utf8
/-!
# The order of texts is that of their octets

Texts are ordered by their characters. Their octets, compared one by one, are in the same order
(`Utf8.encode_le_iff`): of two characters the lesser one has the lesser octets, whatever comes behind
(`Utf8.encodeChar_append_lt`).
-/

namespace EntityHub.Utf8

/-- The lesser character has the lesser octets, whatever comes behind. -/
theorem encodeChar_append_lt {c d : Char} (h : c < d) (l m : List UInt8) :
    encodeChar c ++ l < encodeChar d ++ m := by
  have hlt : c.toNat < d.toNat := h
  have hd : d.toNat < 0x110000 := by
    rcases d.valid with hd | hd
    · exact Nat.lt_trans hd (by decide)
    · exact hd.2
  -- six bits at a time, so that what the octets carry is put together again one by one
  have hsix : ∀ n : Nat, n >>> 6 = n / 64 := fun n => Nat.shiftRight_eq_div_pow n 6
  have htwelve : ∀ n : Nat, n >>> 12 = n / 64 / 64 := fun n => by
    rw [Nat.shiftRight_eq_div_pow, Nat.div_div_eq_div_mul]
  have heighteen : ∀ n : Nat, n >>> 18 = n / 64 / 64 / 64 := fun n => by
    rw [Nat.shiftRight_eq_div_pow, Nat.div_div_eq_div_mul, Nat.div_div_eq_div_mul]
  simp only [encodeChar]
  generalize c.toNat = n at hlt
  generalize d.toNat = k at hlt hd
  split_ifs <;>
  · simp only [List.cons_append, List.nil_append, List.cons_lt_cons_iff, UInt8.lt_iff_toNat_lt,
      ← UInt8.toNat_inj, UInt8.toNat_ofNat', hsix, htwelve, heighteen, Nat.reduceMul,
      Nat.shiftRight_zero]
    omega

theorem flatMap_encodeChar_lt {l m : List Char} (h : l < m) :
    l.flatMap encodeChar < m.flatMap encodeChar := by
  induction h with
  | @nil d m =>
    obtain ⟨a, t, hd, -⟩ := front_encodeChar d []
    rw [List.flatMap_nil, List.flatMap_cons, hd]
    exact List.nil_lt_cons a _
  | rel h =>
    rw [List.flatMap_cons, List.flatMap_cons]
    exact encodeChar_append_lt h _ _
  | cons _ ih =>
    rw [List.flatMap_cons, List.flatMap_cons]
    exact List.append_left_lt ih

/-- Texts are in the order of their octets. -/
theorem encode_le_iff (s t : String) : encode s ≤ encode t ↔ s ≤ t := by
  have hlt : ∀ {s t : String}, s < t → encode s < encode t := fun h => flatMap_encodeChar_lt h
  constructor
  · intro h
    exact String.not_lt.mp fun hts => h (hlt hts)
  · intro h
    by_cases hst : s < t
    · exact List.le_of_lt (hlt hst)
    · obtain rfl := String.le_antisymm h (String.not_lt.mp hst)
      exact List.le_refl _

end EntityHub.Utf8
