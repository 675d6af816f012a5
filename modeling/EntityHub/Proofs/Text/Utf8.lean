import EntityHub.Proofs.Failure
import EntityHub.Text.Utf8
/-!
# UTF-8 is read back

The octets of a text are read as its characters (`Utf8.scan_encode`), so as the text. The leading
octet of a character announces how many octets follow and what the first of them may be (`lead?`);
each of these carries six bits (`tail`). No other octets are read as that text
(`Utf8.decode?_eq_some_iff`).
-/

namespace EntityHub.Utf8

deriving instance DecidableEq for Lead

/-! ## Octets -/

/-- The octet that carries six bits after a leading one. -/
def tail (k : Nat) : UInt8 := .ofNat (0x80 + k)

theorem toNat_tail : ∀ k < 64, (tail k).toNat - 0x80 = k := by
  decide

theorem tail_inRange : ∀ k < 64, (0x80 ≤ tail k && tail k ≤ 0xBF) = true := by
  decide

theorem lead?_one : ∀ n < 0x80, lead? (.ofNat n) = some { bits := n, count := 0 } := by
  decide

theorem lead?_two :
    ∀ n < 32, 2 ≤ n → lead? (.ofNat (0xC0 + n)) = some { bits := n, count := 1 } := by
  decide

theorem lead?_three : ∀ n < 16, lead? (.ofNat (0xE0 + n)) = some
    { bits := n, count := 2, low := if n = 0 then 0xA0 else 0x80,
      high := if n = 13 then 0x9F else 0xBF } := by
  decide

theorem lead?_four : ∀ n < 5, lead? (.ofNat (0xF0 + n)) = some
    { bits := n, count := 3, low := if n = 0 then 0x90 else 0x80,
      high := if n = 4 then 0x8F else 0xBF } := by
  decide

theorem tail_three : ∀ n < 16, ∀ k < 64,
    ((if n = 0 then 0xA0 else 0x80) ≤ tail k && tail k ≤ if n = 13 then 0x9F else 0xBF) = true ↔
      (n = 0 → 32 ≤ k) ∧ (n = 13 → k < 32) := by
  decide

theorem tail_four : ∀ n < 5, ∀ k < 64,
    ((if n = 0 then 0x90 else 0x80) ≤ tail k && tail k ≤ if n = 4 then 0x8F else 0xBF) = true ↔
      (n = 0 → 16 ≤ k) ∧ (n = 4 → k < 16) := by
  decide

theorem following_tails {low high : UInt8} (l : List UInt8) :
    ∀ ks : List Nat, (∀ k ∈ ks, k < 64) →
      (∀ k ∈ ks.head?, (low ≤ tail k && tail k ≤ high) = true) →
      following low high ks.length (ks.map tail ++ l) = ks.map tail
  | [], _, _ => by simp [following]
  | k :: ks, hks, hk => by
    have ih := following_tails l ks (fun k h => hks k (List.mem_cons_of_mem _ h)) fun k h =>
      tail_inRange k (hks k (List.mem_cons_of_mem _ (List.mem_of_mem_head? h)))
    rw [List.length_cons, List.map_cons, List.cons_append, following, if_pos (hk k rfl), ih]

/-! ## Characters -/

/-- A leading octet and all that it announces are read as one character. -/
theorem front_tails {a : UInt8} {h : Lead} (ks : List Nat) (n : Nat) (l : List UInt8)
    (ha : lead? a = some h) (hlen : ks.length = h.count) (hks : ∀ k ∈ ks, k < 64)
    (hk : ∀ k ∈ ks.head?, (h.low ≤ tail k && tail k ≤ h.high) = true)
    (hn : ks.foldl (fun n k => n * 64 + k) h.bits = n) :
    front a (ks.map tail ++ l) = (some (.ofNat n), ks.length) := by
  have hfold : ∀ (ks : List Nat) (m : Nat), (∀ k ∈ ks, k < 64) →
      (ks.map tail).foldl (fun n b => n * 64 + (b.toNat - 0x80)) m =
        ks.foldl (fun n k => n * 64 + k) m := by
    intro ks
    induction ks with
    | nil => exact fun _ _ => rfl
    | cons k ks ih =>
      intro m hks
      rw [List.map_cons, List.foldl_cons, List.foldl_cons, toNat_tail k (hks k (by simp))]
      exact ih _ fun k h => hks k (List.mem_cons_of_mem _ h)
  have hfollow := following_tails l ks hks hk
  rw [hlen] at hfollow
  simp only [front, ha, hfollow, List.length_map]
  rw [if_pos hlen, hfold ks _ hks, hn, hlen]

/-- The octets of a character are read as that character. -/
theorem front_encodeChar (c : Char) (l : List UInt8) :
    ∃ a t, encodeChar c = a :: t ∧ front a (t ++ l) = (some c, t.length) := by
  have hchar : Char.ofNat c.toNat = c := Char.ofNat_toNat c
  have hvalid : c.toNat < 0xD800 ∨ 0xDFFF < c.toNat ∧ c.toNat < 0x110000 := c.valid
  simp only [encodeChar]
  generalize c.toNat = n at hchar hvalid
  split
  · next h =>
    have hfront := front_tails [] n l (lead?_one n h) rfl (by simp) (by simp) rfl
    rw [hchar] at hfront
    exact ⟨_, _, rfl, hfront⟩
  split
  · next h₁ h₂ =>
    have hfront := front_tails [n >>> (6 * 0) % 64] n l
      (lead?_two (n / 64) (by omega) (by omega)) rfl (by simp; omega) (fun k hk => ?_)
      (by simp; omega)
    · rw [hchar] at hfront
      exact ⟨_, _, rfl, hfront⟩
    · obtain rfl := Option.some.inj hk
      exact tail_inRange _ (by omega)
  split
  · next h₁ h₂ h₃ =>
    have hfront := front_tails [n >>> (6 * 1) % 64, n >>> (6 * 0) % 64] n l
      (lead?_three (n >>> 12) (by omega)) rfl (by simp; omega) (fun k hk => ?_) (by simp; omega)
    · rw [hchar] at hfront
      exact ⟨_, _, rfl, hfront⟩
    · obtain rfl := Option.some.inj hk
      exact (tail_three _ (by omega) _ (by omega)).mpr (by omega)
  · next h₁ h₂ h₃ =>
    have hfront := front_tails [n >>> (6 * 2) % 64, n >>> (6 * 1) % 64, n >>> (6 * 0) % 64] n l
      (lead?_four (n >>> 18) (by omega)) rfl (by simp; omega) (fun k hk => ?_) (by simp; omega)
    · rw [hchar] at hfront
      exact ⟨_, _, rfl, hfront⟩
    · obtain rfl := Option.some.inj hk
      exact (tail_four _ (by omega) _ (by omega)).mpr (by omega)

/-! ## Texts -/

theorem scan_go_append (t l : List UInt8) : scan.go t.length (t ++ l) = scan.go 0 l := by
  induction t with
  | nil => rfl
  | cons b t ih => rw [List.cons_append, List.length_cons, scan.go, ih]

/-- The octets of a text are read as its characters. -/
theorem scan_encode (s : String) : scan (encode s) = s.toList.map some := by
  have h : ∀ l : List Char, scan.go 0 (l.flatMap encodeChar) = l.map some := by
    intro l
    induction l with
    | nil => rfl
    | cons c l ih =>
      obtain ⟨a, t, hc, hfront⟩ := front_encodeChar c (l.flatMap encodeChar)
      rw [List.flatMap_cons, hc, List.cons_append, scan.go, hfront, scan_go_append, ih]
      rfl
  exact h s.toList

/-- The octets of a text are read as the text. -/
theorem decode?_encode (s : String) : decode? (encode s) = some s := by
  have hmap : (s.toList.map some).mapM id = some s.toList := by
    rw [mapM_eq_some_iff, List.forall₂_map_left_iff]
    exact List.forall₂_same.mpr fun _ _ => rfl
  rw [decode?, scan_encode, hmap, Option.map_some, String.ofList_toList]

/-! ## Nothing else is read -/

/-- An octet in the range of those that follow a leading one carries six bits. -/
theorem exists_tail {b : UInt8} (hlow : 0x80 ≤ b) (hhigh : b ≤ 0xBF) : ∃ k < 64, b = tail k := by
  rw [UInt8.le_iff_toNat_le] at hlow hhigh
  have hlow' : 0x80 ≤ b.toNat := hlow
  have hhigh' : b.toNat ≤ 0xBF := hhigh
  refine ⟨b.toNat - 0x80, by omega, ?_⟩
  rw [tail, Nat.add_sub_cancel' hlow', UInt8.ofNat_toNat]

/-- If as many octets as were announced follow, each carries six bits, and the first is in range. -/
theorem exists_of_length_following {low high : UInt8} {count : Nat} {l : List UInt8}
    (h : (following low high count l).length = count) (hlow : 0x80 ≤ low) (hhigh : high ≤ 0xBF) :
    ∃ (ks : List Nat) (rest : List UInt8), ks.length = count ∧ (∀ k ∈ ks, k < 64) ∧
      l = ks.map tail ++ rest ∧ ∀ k ∈ ks.head?, (low ≤ tail k && tail k ≤ high) = true := by
  induction count generalizing low high l with
  | zero => exact ⟨[], l, rfl, by simp, rfl, by simp⟩
  | succ count ih =>
    cases l with
    | nil => simp [following] at h
    | cons b l =>
      rw [following] at h
      split at h
      · next hb =>
        obtain ⟨hb₁, hb₂⟩ : low ≤ b ∧ b ≤ high := by simpa using hb
        obtain ⟨k, hk, rfl⟩ := exists_tail (UInt8.le_trans hlow hb₁) (UInt8.le_trans hb₂ hhigh)
        obtain ⟨ks, rest, hlen, hks, rfl, -⟩ :=
          ih (Nat.succ.inj h) (UInt8.le_refl _) (UInt8.le_refl _)
        refine ⟨k :: ks, rest, congrArg (· + 1) hlen, List.forall_mem_cons.mpr ⟨hk, hks⟩, rfl, ?_⟩
        rintro k ⟨⟩
        exact hb
      · cases h

/-- The octets that lead a character. -/
theorem range_of_lead? :
    ∀ n < 256, lead? (.ofNat n) ≠ none → n < 0x80 ∨ 0xC2 ≤ n ∧ n < 0xF5 := by
  decide +kernel

theorem exists_of_lead? {a : UInt8} {d : Lead} (h : lead? a = some d) :
    (∃ n < 0x80, a = .ofNat n) ∨ (∃ n, (2 ≤ n ∧ n < 32) ∧ a = .ofNat (0xC0 + n)) ∨
      (∃ n < 16, a = .ofNat (0xE0 + n)) ∨ ∃ n < 5, a = .ofNat (0xF0 + n) := by
  have hnat {n : Nat} (hn : a.toNat = n) : a = .ofNat n := by rw [← hn, UInt8.ofNat_toNat]
  have hlead : lead? (.ofNat a.toNat) ≠ none := by simp [h]
  rcases range_of_lead? a.toNat a.toNat_lt hlead with hone | ⟨hlow, hhigh⟩
  · exact .inl ⟨_, hone, hnat rfl⟩
  · by_cases htwo : a.toNat < 0xE0
    · exact .inr (.inl ⟨a.toNat - 0xC0, by omega, hnat (by omega)⟩)
    · by_cases hthree : a.toNat < 0xF0
      · exact .inr (.inr (.inl ⟨a.toNat - 0xE0, by omega, hnat (by omega)⟩))
      · exact .inr (.inr (.inr ⟨a.toNat - 0xF0, by omega, hnat (by omega)⟩))

/-- The octet after a leading one is one of those that follow. -/
theorem inRange_of_lead? :
    ∀ n < 256, ∀ d ∈ lead? (.ofNat n), 0x80 ≤ d.low ∧ d.high ≤ 0xBF := by
  decide +kernel

theorem toNat_ofNat {n : Nat} (h : n.isValidChar) : (Char.ofNat n).toNat = n := by
  rw [Char.ofNat, dif_pos h]
  rfl

theorem encodeChar_one {n : Nat} (hn : n < 0x80) : encodeChar (.ofNat n) = [.ofNat n] := by
  simp only [encodeChar, toNat_ofNat (n := n) (.inl (by omega)), if_pos hn]

theorem encodeChar_two {n k : Nat} (hn : 2 ≤ n ∧ n < 32) (hk : k < 64) :
    encodeChar (.ofNat (n * 64 + k)) = [.ofNat (0xC0 + n), tail k] := by
  have hlead : (n * 64 + k) / 64 = n := by omega
  have hlast : (n * 64 + k) >>> (6 * 0) % 64 = k := by simp; omega
  simp only [encodeChar, toNat_ofNat (n := n * 64 + k) (.inl (by omega)),
    if_neg (show ¬n * 64 + k < 0x80 by omega), if_pos (show n * 64 + k < 0x800 by omega), hlead,
    hlast, tail]

theorem encodeChar_three {n k₁ k₂ : Nat} (hn : n < 16) (h₁ : k₁ < 64) (h₂ : k₂ < 64)
    (hlong : n = 0 → 32 ≤ k₁) (hhalf : n = 13 → k₁ < 32) :
    encodeChar (.ofNat ((n * 64 + k₁) * 64 + k₂)) = [.ofNat (0xE0 + n), tail k₁, tail k₂] := by
  have hvalid : ((n * 64 + k₁) * 64 + k₂).isValidChar := by
    simp only [Nat.isValidChar]
    omega
  have hlead : ((n * 64 + k₁) * 64 + k₂) >>> 12 = n := by
    rw [Nat.shiftRight_eq_div_pow]
    omega
  have hfirst : ((n * 64 + k₁) * 64 + k₂) >>> (6 * 1) % 64 = k₁ := by
    rw [Nat.shiftRight_eq_div_pow]
    omega
  have hlast : ((n * 64 + k₁) * 64 + k₂) >>> (6 * 0) % 64 = k₂ := by
    rw [Nat.shiftRight_eq_div_pow]
    omega
  simp only [encodeChar, toNat_ofNat hvalid,
    if_neg (show ¬(n * 64 + k₁) * 64 + k₂ < 0x80 by omega),
    if_neg (show ¬(n * 64 + k₁) * 64 + k₂ < 0x800 by omega),
    if_pos (show (n * 64 + k₁) * 64 + k₂ < 0x10000 by omega), hlead, hfirst, hlast, tail]

theorem encodeChar_four {n k₁ k₂ k₃ : Nat} (hn : n < 5) (h₁ : k₁ < 64) (h₂ : k₂ < 64)
    (h₃ : k₃ < 64) (hlong : n = 0 → 16 ≤ k₁) (hlast : n = 4 → k₁ < 16) :
    encodeChar (.ofNat (((n * 64 + k₁) * 64 + k₂) * 64 + k₃)) =
      [.ofNat (0xF0 + n), tail k₁, tail k₂, tail k₃] := by
  have hvalid : (((n * 64 + k₁) * 64 + k₂) * 64 + k₃).isValidChar := by
    simp only [Nat.isValidChar]
    omega
  have hlead : (((n * 64 + k₁) * 64 + k₂) * 64 + k₃) >>> 18 = n := by
    rw [Nat.shiftRight_eq_div_pow]
    omega
  have hfirst : (((n * 64 + k₁) * 64 + k₂) * 64 + k₃) >>> (6 * 2) % 64 = k₁ := by
    rw [Nat.shiftRight_eq_div_pow]
    omega
  have hsecond : (((n * 64 + k₁) * 64 + k₂) * 64 + k₃) >>> (6 * 1) % 64 = k₂ := by
    rw [Nat.shiftRight_eq_div_pow]
    omega
  have hthird : (((n * 64 + k₁) * 64 + k₂) * 64 + k₃) >>> (6 * 0) % 64 = k₃ := by
    rw [Nat.shiftRight_eq_div_pow]
    omega
  simp only [encodeChar, toNat_ofNat hvalid,
    if_neg (show ¬((n * 64 + k₁) * 64 + k₂) * 64 + k₃ < 0x80 by omega),
    if_neg (show ¬((n * 64 + k₁) * 64 + k₂) * 64 + k₃ < 0x800 by omega),
    if_neg (show ¬((n * 64 + k₁) * 64 + k₂) * 64 + k₃ < 0x10000 by omega), hlead, hfirst, hsecond,
    hthird, tail]

/-- What is read as a character is a leading octet, and the octets that it announces. -/
theorem exists_tails_of_front {a : UInt8} {l : List UInt8} {c : Char} {m : Nat}
    (h : front a l = (some c, m)) :
    ∃ (d : Lead) (ks : List Nat) (rest : List UInt8), lead? a = some d ∧ ks.length = d.count ∧
      (∀ k ∈ ks, k < 64) ∧ (∀ k ∈ ks.head?, (d.low ≤ tail k && tail k ≤ d.high) = true) ∧
      l = ks.map tail ++ rest ∧ ks.length = m ∧
      c = .ofNat (ks.foldl (fun n k => n * 64 + k) d.bits) := by
  rcases hlead : lead? a with _ | d
  · simp only [front, hlead] at h
    cases h
  by_cases hlen : (following d.low d.high d.count l).length = d.count
  · obtain ⟨hlow, hhigh⟩ :=
      inRange_of_lead? a.toNat a.toNat_lt d (by rw [UInt8.ofNat_toNat]; exact hlead)
    obtain ⟨ks, rest, hcount, hks, rfl, hfirst⟩ := exists_of_length_following hlen hlow hhigh
    rw [front_tails ks _ rest hlead hcount hks hfirst rfl] at h
    obtain ⟨hc, hm⟩ := Prod.mk.inj h
    exact ⟨d, ks, rest, rfl, hcount, hks, hfirst, rfl, hm, (Option.some.inj hc).symm⟩
  · simp only [front, hlead, if_neg hlen] at h
    cases h

/-- A leading octet and those that follow it are the octets of the character they are read as. -/
theorem encodeChar_of_front {a : UInt8} {l : List UInt8} {c : Char} {m : Nat}
    (h : front a l = (some c, m)) :
    ∃ t rest, l = t ++ rest ∧ t.length = m ∧ encodeChar c = a :: t := by
  obtain ⟨d, ks, rest, hlead, hcount, hks, hfirst, rfl, rfl, rfl⟩ := exists_tails_of_front h
  refine ⟨ks.map tail, rest, rfl, List.length_map _, ?_⟩
  obtain ⟨n, hn, ha⟩ | ⟨n, hn, ha⟩ | ⟨n, hn, ha⟩ | ⟨n, hn, ha⟩ := exists_of_lead? hlead
  all_goals subst ha
  · obtain rfl := Option.some.inj (hlead.symm.trans (lead?_one n hn))
    obtain rfl := List.eq_nil_of_length_eq_zero hcount
    exact encodeChar_one hn
  · obtain rfl := Option.some.inj (hlead.symm.trans (lead?_two n hn.2 hn.1))
    obtain ⟨k, rfl⟩ := List.length_eq_one_iff.mp hcount
    exact encodeChar_two hn (hks k (by simp))
  · obtain rfl := Option.some.inj (hlead.symm.trans (lead?_three n hn))
    obtain ⟨k₁, k₂, rfl⟩ := List.length_eq_two.mp hcount
    have hk₁ := hks k₁ (by simp)
    obtain ⟨hlong, hhalf⟩ := (tail_three n hn k₁ hk₁).mp (hfirst k₁ rfl)
    exact encodeChar_three hn hk₁ (hks k₂ (by simp)) hlong hhalf
  · obtain rfl := Option.some.inj (hlead.symm.trans (lead?_four n hn))
    obtain ⟨k₁, k₂, k₃, rfl⟩ := List.length_eq_three.mp hcount
    have hk₁ := hks k₁ (by simp)
    obtain ⟨hlong, hlast⟩ := (tail_four n hn k₁ hk₁).mp (hfirst k₁ rfl)
    exact encodeChar_four hn hk₁ (hks k₂ (by simp)) (hks k₃ (by simp)) hlong hlast

/-- Octets that are read as characters are the octets of these characters. -/
theorem eq_flatMap_of_scan {l : List UInt8} {cs : List Char} (h : scan l = cs.map some) :
    l = cs.flatMap encodeChar := by
  unfold scan at h
  induction cs generalizing l with
  | nil =>
    cases l with
    | nil => rfl
    | cons a l => cases h
  | cons c cs ih =>
    cases l with
    | nil => cases h
    | cons a l =>
      obtain ⟨hc, hrest⟩ := List.cons.inj h
      have hfront : front a l = (some c, (front a l).2) := Prod.ext hc rfl
      obtain ⟨t, rest, rfl, hm, henc⟩ := encodeChar_of_front hfront
      rw [← hm, scan_go_append] at hrest
      rw [List.flatMap_cons, henc, List.cons_append, ← ih hrest]

/-- Octets are read as a text exactly if they are the octets of that text. -/
theorem decode?_eq_some_iff {l : List UInt8} {s : String} : decode? l = some s ↔ l = encode s := by
  constructor
  · intro h
    obtain ⟨cs, hcs, rfl⟩ := Option.map_eq_some_iff.mp h
    have hscan : List.Forall₂ (· = ·) (scan l) (cs.map some) :=
      List.forall₂_map_right_iff.mpr (mapM_eq_some_iff.mp hcs)
    rw [List.forall₂_eq_eq_eq] at hscan
    rw [encode, String.toList_ofList]
    exact eq_flatMap_of_scan hscan
  · rintro rfl
    exact decode?_encode s

end EntityHub.Utf8
