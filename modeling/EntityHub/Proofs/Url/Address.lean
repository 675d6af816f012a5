import EntityHub.Proofs.Text.Split
import EntityHub.Proofs.Url.Host
import Mathlib.Data.List.Induction
import Mathlib.Data.List.TakeWhile
import Mathlib.Data.Nat.Digits.Defs
/-!
# Texts of addresses

The text of an address is read as the address: `Ipv4.ofText?_text` and `Ipv6.ofText?_text`. The
address is any that was read (`Ipv4.lt_of_ofText?`, `Ipv6.of_ofText?`).
-/

namespace EntityHub.Url

/-! ## Addresses of 32 bits -/

namespace Ipv4

variable {b n : Nat} {l m : List Char}

theorem digitValue?_digitChar {d : Nat} (hd : d < b) (hb : b ≤ 16) :
    digitValue? b d.digitChar = some d := by
  have hall : ∀ d < 16, digitValue? 16 d.digitChar = some d := by decide
  have hvalue := hall d (by omega)
  simp only [digitValue?, Option.ite_none_right_eq_some, Option.some.injEq] at hvalue ⊢
  exact ⟨hvalue.2.symm ▸ hd, hvalue.2⟩

theorem lt_of_digitValue? {c : Char} (h : digitValue? b c = some n) : n < b := by
  simp only [digitValue?, Option.ite_none_right_eq_some, Option.some.injEq] at h
  exact h.2 ▸ h.1

theorem digits?_concat {c : Char} :
    digits? b (l ++ [c]) = (digits? b l).bind fun n => (digitValue? b c).map (n * b + ·) := by
  rw [digits?, List.foldlM_append]
  simp only [List.foldlM_cons, List.foldlM_nil, bind_pure]
  rfl

/-- A number is read off its digits. -/
theorem digits?_toDigits (hb : 1 < b) (hb' : b ≤ 16) (n : Nat) :
    digits? b (Nat.toDigits b n) = some n := by
  induction n using Nat.strongRecOn with
  | ind n ih =>
    rw [Nat.toDigits_eq_if hb]
    split
    · next hn =>
      have hvalue := digitValue?_digitChar hn hb'
      simp [digits?, hvalue]
    · next hn =>
      have hmod := Nat.mod_lt n (show 0 < b by omega)
      rw [digits?_concat, ih (n / b) (Nat.div_lt_self (by omega) hb),
        digitValue?_digitChar hmod hb']
      simp [Nat.div_add_mod']

theorem lt_of_digits? (h : digits? b l = some n) : n < b ^ l.length := by
  induction l using List.reverseRecOn generalizing n with
  | nil =>
    obtain rfl := Option.some.inj h
    simp
  | append_singleton l c ih =>
    rw [digits?_concat] at h
    obtain ⟨m, hm, h⟩ := Option.bind_eq_some_iff.mp h
    obtain ⟨d, hd, rfl⟩ := Option.map_eq_some_iff.mp h
    have hlow := lt_of_digitValue? hd
    have hhigh := ih hm
    rw [List.length_append, List.length_singleton, Nat.pow_succ]
    calc m * b + d < (m + 1) * b := by rw [Nat.add_mul]; omega
      _ ≤ b ^ l.length * b := Nat.mul_le_mul_right b hhigh

theorem number?_octet : ∀ n < 256, number? (Nat.toDigits 10 n) = some n := by
  decide +kernel

/-- The texts of the four numbers of an address. -/
def octets (n : Nat) : List (List Char) :=
  [3, 2, 1, 0].map fun i => Nat.toDigits 10 (n >>> (8 * i) % 256)

theorem toList_text (n : Nat) : (text n).toList = ['.'].intercalate (octets n) := by
  rw [text, String.toList_intercalate, List.map_map, octets]
  exact congrArg _ (List.map_congr_left fun i _ => Nat.toList_repr)

theorem isDigit_of_mem_octets {part : List Char} (h : part ∈ octets n) :
    part ≠ [] ∧ ∀ c ∈ part, c.isDigit = true := by
  obtain ⟨i, -, rfl⟩ := List.mem_map.mp h
  exact ⟨Nat.toDigits_ne_nil, fun c hc => Nat.isDigit_of_mem_toDigits (by decide) (by decide) hc⟩

theorem pieces_text (n : Nat) : pieces (· = '.') (text n).toList = octets n := by
  rw [toList_text]
  refine pieces_intercalate (by decide) (by simp [octets]) fun part hpart c hc => ?_
  have hdigit := (isDigit_of_mem_octets hpart).2 c hc
  refine decide_eq_false ?_
  rintro rfl
  exact absurd hdigit (by decide)

theorem getLast?_octets (n : Nat) :
    (octets n).getLast? = some (Nat.toDigits 10 (n >>> 0 % 256)) :=
  rfl

theorem parts_text (n : Nat) : parts (text n).toList = octets n := by
  have hlast : (octets n).getLast? ≠ some [] := by
    rw [getLast?_octets]
    simp
  simp only [parts, pieces_text, hlast, decide_false, Bool.and_false, Bool.false_eq_true, if_false]

theorem endsInNumber_text (n : Nat) : endsInNumber (text n).toList = true := by
  have hmem := List.mem_of_getLast? (getLast?_octets n)
  obtain ⟨hne, hdigit⟩ := isDigit_of_mem_octets hmem
  rw [endsInNumber, parts_text, getLast?_octets]
  simp only [Bool.or_eq_true, Bool.and_eq_true, Bool.not_eq_true', List.isEmpty_eq_false_iff]
  exact .inl ⟨hne, List.all_eq_true.mpr hdigit⟩

theorem foldl_lt {l : List Nat} (h : ∀ n ∈ l, n ≤ 255) :
    l.foldl (fun a n => a * 256 + n) 0 < 256 ^ l.length := by
  induction l using List.reverseRecOn with
  | nil => simp
  | append_singleton l n ih =>
    rw [List.forall_mem_append, List.forall_mem_singleton] at h
    have hfront := ih h.1
    rw [List.foldl_concat, List.length_append, List.length_singleton, Nat.pow_succ]
    omega

theorem lt_of_ofText? (h : ofText? l = some n) : n < 2 ^ 32 := by
  simp only [ofText?, Option.bind_eq_bind, Option.bind_eq_some_iff, Option.ite_none_right_eq_some,
    Option.some.injEq] at h
  obtain ⟨numbers, -, last, -, ⟨hlength, hfront, hlast⟩, rfl⟩ := h
  have hfold := foldl_lt hfront
  generalize numbers.dropLast.foldl (fun a n => a * 256 + n) 0 = front at *
  generalize numbers.dropLast.length = k at *
  have hbits : 256 ^ k = 2 ^ (8 * k) := by rw [Nat.pow_mul]
  rw [Nat.one_shiftLeft] at hlast
  rw [Nat.shiftLeft_eq]
  calc front * 2 ^ (8 * (4 - k)) + last < (front + 1) * 2 ^ (8 * (4 - k)) := by
        rw [Nat.add_mul]
        omega
    _ ≤ 2 ^ (8 * k) * 2 ^ (8 * (4 - k)) := Nat.mul_le_mul_right _ (hbits ▸ hfold)
    _ = 2 ^ 32 := by rw [← Nat.pow_add]; congr 1; omega

/-- The text of an address is read as the address. -/
theorem ofText?_text (hn : n < 2 ^ 32) : ofText? (text n).toList = some n := by
  have hnumbers : (octets n).mapM number? =
      some ([3, 2, 1, 0].map fun i => n >>> (8 * i) % 256) := by
    refine mapM_eq_some_iff.mpr ?_
    rw [octets, List.forall₂_map_left_iff, List.forall₂_map_right_iff]
    exact List.forall₂_same.mpr fun i _ => number?_octet _ (Nat.mod_lt _ (by decide))
  rw [ofText?, parts_text, hnumbers]
  simp only [Nat.shiftRight_eq_div_pow, List.map_cons, List.map_nil]
  simp [Nat.shiftLeft_eq]
  omega

end Ipv4

/-! ## Addresses of 128 bits -/

namespace Ipv6

variable {n i : Nat} {r : Reading} {l front back : List Nat} {m : List Char}

/-! ### Rows -/

/-- The text of pieces. -/
def row (l : List Nat) : List Char := [':'].intercalate (l.map (Nat.toDigits 16))

theorem toList_colons (l : List Nat) : (colons l).toList = row l := by
  have hdigits : ((l.map fun n => String.ofList (Nat.toDigits 16 n)).map String.toList) =
      l.map (Nat.toDigits 16) := by
    rw [List.map_map]
    exact List.map_congr_left fun n _ => String.toList_ofList
  rw [colons, String.toList_intercalate, hdigits]
  rfl

theorem row_singleton (n : Nat) : row [n] = Nat.toDigits 16 n :=
  List.intercalate_singleton

theorem row_cons (n : Nat) (h : l ≠ []) : row (n :: l) = Nat.toDigits 16 n ++ ':' :: row l := by
  obtain ⟨m, l, rfl⟩ := List.exists_cons_of_ne_nil h
  rw [row, List.map_cons, List.map_cons, List.intercalate_cons_cons, row, List.map_cons,
    List.append_assoc, List.singleton_append]

/-- A row begins with a digit. -/
theorem exists_row_eq_cons (h : l ≠ []) : ∃ c m, row l = c :: m ∧ c ≠ ':' := by
  obtain ⟨n, l, rfl⟩ := List.exists_cons_of_ne_nil h
  obtain ⟨c, m, hdigits⟩ := List.exists_cons_of_ne_nil (Nat.toDigits_ne_nil (n := n) (b := 16))
  have hc : c ≠ ':' := by
    have hmem : c ∈ Nat.toDigits 16 n := by rw [hdigits]; exact List.mem_cons_self
    have halphanum := isAlphanum_of_mem_toDigits (by decide) (by decide) hmem
    rintro rfl
    exact absurd halphanum (by decide)
  rcases eq_or_ne l [] with rfl | hl
  · exact ⟨c, m, by rw [row_singleton, hdigits], hc⟩
  · exact ⟨c, _, by rw [row_cons n hl, hdigits, List.cons_append], hc⟩

/-! ### Pieces that are read -/

theorem hexDigits_append {k : Nat} {t : List Char}
    (ht : ∀ c ∈ t, (Ipv4.digitValue? 16 c).isSome = true) (hk : t.length ≤ k)
    (hm : ∀ c ∈ m.head?, (Ipv4.digitValue? 16 c).isSome = false) :
    hexDigits k (t ++ m) = t := by
  induction t generalizing k with
  | nil =>
    rcases m with _ | ⟨c, m⟩
    · cases k <;> rfl
    · rcases k with _ | k
      · rfl
      · have hc := hm c rfl
        rw [List.nil_append, hexDigits, hc]
        rfl
  | cons c t ih =>
    obtain ⟨hc, ht⟩ := List.forall_mem_cons.mp ht
    rcases k with _ | k
    · cases hk
    · rw [List.cons_append, hexDigits, if_pos hc, ih ht (Nat.le_of_succ_le_succ hk)]

theorem isSome_digitValue?_of_mem {c : Char} (h : c ∈ Nat.toDigits 16 n) :
    (Ipv4.digitValue? 16 c).isSome = true := by
  induction n using Nat.strongRecOn with
  | ind n ih =>
    rw [Nat.toDigits_eq_if (by decide)] at h
    split at h
    · next hn => 
      rw [List.mem_singleton.mp h, Ipv4.digitValue?_digitChar hn (by decide)]
      rfl
    · rcases List.mem_append.mp h with h | h
      · exact ih (n / 16) (by omega) h
      · rw [List.mem_singleton.mp h,
          Ipv4.digitValue?_digitChar (Nat.mod_lt n (by decide)) (by decide)]
        rfl

/-- Reading a piece, and what stands behind it. -/
theorem read?_digits (hn : n < 65536) (hr : r.pieces.length < 8)
    (hm : ∀ c ∈ m.head?, c = ':') :
    read? (i + 1) r (Nat.toDigits 16 n ++ m) =
      match m with
      | [] => some (r.push n)
      | _ :: m => if m.isEmpty then none else read? i (r.push n) m := by
  obtain ⟨c, t, hdigits, hc⟩ := exists_row_eq_cons (l := [n]) (by simp)
  rw [row_singleton] at hdigits
  have hfront : hexDigits 4 (Nat.toDigits 16 n ++ m) = Nat.toDigits 16 n := by
    refine hexDigits_append (fun c => isSome_digitValue?_of_mem)
      (Nat.toDigits_length _ _ _ (by decide) hn) fun c hc => ?_
    rw [hm c hc]
    decide
  rw [hdigits, List.cons_append] at hfront ⊢
  rw [read?]
  · simp only [hfront, ← hdigits, Ipv4.digits?_toDigits (b := 16) (by decide) (by decide), hr]
    rw [← List.cons_append, ← hdigits, List.drop_left]
    rcases m with _ | ⟨d, m⟩
    · rfl
    · obtain rfl := hm d rfl
      rfl
  · exact hc

/-- Reading a row up to the end of the text. -/
theorem read?_row (hl : ∀ n ∈ l, n < 65536) (hr : r.pieces.length + l.length ≤ 8)
    (hi : l.length ≤ i) :
    read? i r (row l) = some { r with pieces := l.reverse ++ r.pieces } := by
  induction l generalizing r i with
  | nil =>
    have hrow : row [] = [] := rfl
    rw [hrow, read?]
    rfl
  | cons n l ih =>
    obtain ⟨hn, hl⟩ := List.forall_mem_cons.mp hl
    rw [List.length_cons] at hr hi
    obtain ⟨i, rfl⟩ : ∃ k, i = k + 1 := ⟨i - 1, by omega⟩
    rcases eq_or_ne l [] with rfl | hne
    · have hread := read?_digits (i := i) (r := r) (m := []) hn (by omega) (by simp)
      rw [List.append_nil] at hread
      rw [row_singleton, hread]
      rfl
    · obtain ⟨c, t, hrow, -⟩ := exists_row_eq_cons hne
      rw [row_cons n hne, read?_digits hn (by omega) (by simp)]
      simp only [hrow, List.isEmpty_cons, Bool.false_eq_true, if_false]
      rw [← hrow, ih hl (by simp only [Reading.push, List.length_cons]; omega) (by omega)]
      simp [Reading.push]

/-- Reading a row in front of the gap. -/
theorem read?_front (hne : front ≠ []) (hfront : ∀ n ∈ front, n < 65536)
    (hr : r.pieces.length + front.length < 8) (hgap : r.gap = none) :
    read? (front.length + 1 + i) r (row front ++ ':' :: ':' :: m) =
      read? i ⟨0 :: (front.reverse ++ r.pieces), some (front.length + r.pieces.length + 1)⟩ m := by
  induction front generalizing r with
  | nil => exact absurd rfl hne
  | cons n front ih =>
    obtain ⟨hn, hfront⟩ := List.forall_mem_cons.mp hfront
    rw [List.length_cons] at hr
    have hi : (n :: front).length + 1 + i = front.length + 1 + i + 1 := by
      rw [List.length_cons]
      omega
    rw [hi]
    rcases eq_or_ne front [] with rfl | hne
    · have hroom : r.pieces.length + 1 < 8 := by simpa using hr
      rw [row_singleton, read?_digits hn (by omega) (by simp)]
      simp only [List.isEmpty_cons, Bool.false_eq_true, if_false]
      rw [List.length_nil, Nat.zero_add, Nat.add_comm, read?]
      simp only [Reading.push, List.length_cons, hroom, hgap, Option.isNone_none, decide_true,
        Bool.and_self, if_true]
      simp [Nat.add_comm]
    · obtain ⟨c, t, hrow, -⟩ := exists_row_eq_cons hne
      have hlength : (r.push n).pieces.length = r.pieces.length + 1 := rfl
      have hread := ih (r := r.push n) hne hfront (by omega) hgap
      rw [hrow, List.cons_append] at hread
      rw [row_cons n hne, List.append_assoc, List.cons_append, read?_digits hn (by omega) (by simp)]
      simp only [hrow, List.cons_append, List.isEmpty_cons, Bool.false_eq_true, if_false]
      rw [hread, hlength]
      simp [Reading.push, Nat.add_comm, Nat.add_left_comm]

/-! ### Rows of zeros -/

theorem longestRow_le (l : List Nat) : (longestRow l).2 ≤ zeros (l.drop (longestRow l).1) := by
  have hfold : ∀ (is : List Nat) (best : Nat × Nat), best.2 ≤ zeros (l.drop best.1) →
      let row := is.foldl (fun best i =>
        if best.2 < zeros (l.drop i) then (i, zeros (l.drop i)) else best) best
      row.2 ≤ zeros (l.drop row.1) := by
    intro is
    induction is with
    | nil => exact fun _ h => h
    | cons i is ih =>
      intro best h
      refine ih _ ?_
      beta_reduce
      split
      · exact Nat.le_refl _
      · exact h
  exact hfold _ _ (Nat.zero_le _)

theorem eq_replicate_append {k : Nat} (h : k ≤ zeros l) : l = List.replicate k 0 ++ l.drop k := by
  have htake : l.take k = List.replicate k 0 := by
    have hle : k ≤ l.length := h.trans (List.takeWhile_prefix _).length_le
    refine List.eq_replicate_iff.mpr ⟨List.length_take_of_le hle, fun n hn => ?_⟩
    have htakeWhile : l.take k = (l.takeWhile (· = 0)).take k := by
      rw [zeros] at h
      rw [List.prefix_iff_eq_take.mp (List.takeWhile_prefix (· = 0) (l := l)), List.take_take,
        Nat.min_eq_left h]
    rw [htakeWhile] at hn
    simpa using List.mem_takeWhile_imp ((List.take_sublist _ _).mem hn)
  rw [← htake, List.take_append_drop]

/-- A row of at least two zeros is left out of the text of an address. -/
theorem exists_text (l : List Nat) : (text l).toList = row l ∨ ∃ front k back,
    2 ≤ k ∧ l = front ++ (List.replicate k 0 ++ back) ∧
      (text l).toList = row front ++ ':' :: ':' :: row back := by
  have hle := longestRow_le l
  rw [text]
  generalize longestRow l = longest at hle
  obtain ⟨start, k⟩ := longest
  simp only at hle ⊢
  split
  · exact .inl (toList_colons l)
  · next hk =>
    refine .inr ⟨l.take start, k, l.drop (start + k), by omega, ?_, ?_⟩
    · rw [← List.drop_drop, ← eq_replicate_append hle, List.take_append_drop]
    · simp [toList_colons]

/-! ### Addresses -/

theorem start?_of_ne {c : Char} {m : List Char} (hc : c ≠ ':') (hm : m ≠ []) :
    start? (c :: m) = some ({}, c :: m) := by
  unfold start?
  split
  · next heq => exact absurd (List.cons.inj heq).1 hc
  · next heq => exact absurd (List.cons.inj heq).1 hc
  · next heq => cases heq
  · next heq => exact absurd (List.cons.inj heq).2 hm
  · rfl

theorem ofText?_eq (m : List Char) :
    ofText? m = (start? m).bind fun s => (read? 17 s.1 s.2).bind Reading.filled? :=
  rfl

/-- The gap takes up the zeros that were left out. -/
theorem filled?_gap {k : Nat} (h : (front ++ (List.replicate k 0 ++ back)).length = 8) (hk : 2 ≤ k) :
    Reading.filled? ⟨back.reverse ++ 0 :: front.reverse, some (front.length + 1)⟩ =
      some (front ++ (List.replicate k 0 ++ back)) := by
  rw [List.length_append, List.length_append, List.length_replicate] at h
  have hpieces : (back.reverse ++ 0 :: front.reverse).reverse = (front ++ [0]) ++ back := by simp
  have hlength : ((front ++ [0]) ++ back).length = 9 - k := by
    rw [List.length_append, List.length_append, List.length_singleton]
    omega
  have hlast : front.length + 1 = (front ++ [0]).length := by
    rw [List.length_append, List.length_singleton]
  have hzeros : 0 :: List.replicate (8 - (9 - k)) 0 = List.replicate k 0 := by
    rw [← List.replicate_succ]
    congr 1
    omega
  simp only [Reading.filled?, hpieces, hlength, hlast]
  rw [if_pos (by omega), List.take_left, List.drop_left, List.append_assoc, List.append_assoc,
    List.singleton_append, ← List.cons_append, hzeros]

/-- The text of an address is read as the address. -/
theorem ofText?_text (hlength : l.length = 8) (hl : ∀ n ∈ l, n < 65536) :
    ofText? (text l).toList = some l := by
  rw [ofText?_eq]
  rcases exists_text l with htext | ⟨front, k, back, hk, rfl, htext⟩ <;> rw [htext]
  · obtain ⟨n, l, rfl⟩ := List.exists_cons_of_length_eq_add_one hlength
    have hne : l ≠ [] := by
      rintro rfl
      cases hlength
    obtain ⟨c, t, hrow, hc⟩ := exists_row_eq_cons (List.cons_ne_nil n l)
    have ht : t ≠ [] := by
      rintro rfl
      have hcolon : ':' ∈ row (n :: l) := by simp [row_cons n hne]
      rw [hrow] at hcolon
      exact hc (List.mem_singleton.mp hcolon).symm
    have hread := read?_row (r := {}) (i := 17) hl (by simp [hlength]) (by omega)
    rw [hrow, start?_of_ne hc ht, Option.bind_some, ← hrow, hread, Option.bind_some,
      List.append_nil]
    simp only [Reading.filled?, List.reverse_reverse, hlength, if_true]
  · obtain ⟨hfront, hl⟩ := List.forall_mem_append.mp hl
    have hback := (List.forall_mem_append.mp hl).2
    have hfilled := filled?_gap hlength hk
    rw [List.length_append, List.length_append, List.length_replicate] at hlength
    rcases eq_or_ne front [] with rfl | hne
    · have hrow : row [] = [] := rfl
      have hread := read?_row (r := ⟨[0], some 1⟩) (i := 17) hback
        (by simp at hlength ⊢; omega) (by omega)
      rw [hrow, List.nil_append, start?, Option.bind_some, hread]
      exact hfilled
    · obtain ⟨c, t, hrow, hc⟩ := exists_row_eq_cons hne
      obtain ⟨i, hi⟩ : ∃ i, 17 = front.length + 1 + i :=
        ⟨17 - (front.length + 1), by omega⟩
      have hread := read?_front (r := {}) (i := i) (m := row back) hne hfront
        (by simp; omega) rfl
      rw [hrow, List.cons_append, start?_of_ne hc (by simp), Option.bind_some, ← List.cons_append,
        ← hrow, hi, hread, List.append_nil, read?_row hback (by simp; omega) (by omega)]
      exact hfilled

/-! ### Pieces of what was read -/

theorem length_hexDigits_le (k : Nat) (m : List Char) : (hexDigits k m).length ≤ k := by
  induction k generalizing m with
  | zero => simp [hexDigits]
  | succ k ih =>
    rcases m with _ | ⟨c, m⟩
    · simp [hexDigits]
    · rw [hexDigits]
      split
      · exact Nat.succ_le_succ (ih m)
      · exact Nat.zero_le _

theorem le_of_trailing? (h : trailing? m = some l) : ∀ n ∈ l, n ≤ 255 := by
  simp only [trailing?, Option.bind_eq_bind, Option.bind_eq_some_iff] at h
  obtain ⟨numbers, hnumbers, h⟩ := h
  obtain ⟨-, h⟩ := Option.ite_none_right_eq_some.mp h
  obtain rfl := Option.some.inj h
  intro n hn
  obtain ⟨part, -, hpart⟩ := exists_of_mem_mapM hnumbers hn
  obtain ⟨-, hpart⟩ := Option.ite_none_left_eq_some.mp hpart
  exact of_decide_eq_true (Option.filter_eq_some_iff.mp hpart).2

/-- A piece of at most four digits has 16 bits. -/
theorem lt_of_digits?_hexDigits (h : Ipv4.digits? 16 (hexDigits 4 m) = some n) : n < 65536 :=
  calc n < 16 ^ (hexDigits 4 m).length := Ipv4.lt_of_digits? h
    _ ≤ 16 ^ 4 := Nat.pow_le_pow_right (by decide) (length_hexDigits_le 4 m)

theorem forall_mem_push (hn : n < 65536) (hr : ∀ n ∈ r.pieces, n < 65536) :
    ∀ k ∈ (r.push n).pieces, k < 65536 := fun k hk =>
  (List.mem_cons.mp hk).elim (fun h => h.symm ▸ hn) (hr k)

theorem lt_of_read? {r' : Reading} (h : read? i r m = some r')
    (hr : ∀ n ∈ r.pieces, n < 65536) : ∀ n ∈ r'.pieces, n < 65536 := by
  fun_induction read? i r m with
  | case1 =>
    obtain rfl := Option.some.inj h
    exact hr
  | case2 => cases h
  | case3 i r m hroom ih => exact ih h (List.forall_mem_cons.mpr ⟨by decide, hr⟩)
  | case4 => cases h
  | case5 i r c m hc text front ih =>
    obtain ⟨n, hn, h⟩ := Option.bind_eq_some_iff.mp h
    obtain ⟨-, -, h⟩ := Option.bind_eq_some_iff.mp h
    split at h
    · obtain rfl := Option.some.inj h
      exact forall_mem_push (lt_of_digits?_hexDigits hn) hr
    · split at h
      · cases h
      · exact ih n _ h (forall_mem_push (lt_of_digits?_hexDigits hn) hr)
    · obtain ⟨-, -, h⟩ := Option.bind_eq_some_iff.mp h
      obtain ⟨numbers, hnumbers, h⟩ := Option.bind_eq_some_iff.mp h
      have hle := le_of_trailing? hnumbers
      split at h
      · obtain rfl := Option.some.inj h
        simp only [List.forall_mem_cons] at hle
        exact forall_mem_push (by omega) (forall_mem_push (by omega) hr)
      · cases h
    · cases h

/-- An address that was read has eight pieces of 16 bits. -/
theorem of_ofText? (h : ofText? m = some l) : l.length = 8 ∧ ∀ n ∈ l, n < 65536 := by
  rw [ofText?_eq] at h
  obtain ⟨⟨r, rest⟩, hstart, h⟩ := Option.bind_eq_some_iff.mp h
  obtain ⟨r', hread, hfilled⟩ := Option.bind_eq_some_iff.mp h
  have hr : ∀ n ∈ r.pieces, n < 65536 := by
    unfold start? at hstart
    split at hstart
    all_goals try cases hstart
    all_goals simp
  have hpieces : ∀ n ∈ r'.pieces.reverse, n < 65536 := fun n hn =>
    lt_of_read? hread hr n (List.mem_reverse.mp hn)
  simp only [Reading.filled?] at hfilled
  split at hfilled
  · obtain ⟨hle, hl⟩ := Option.ite_none_right_eq_some.mp hfilled
    obtain rfl := Option.some.inj hl
    refine ⟨?_, ?_⟩
    · simp only [List.length_append, List.length_take, List.length_replicate, List.length_drop]
      omega
    simp only [List.forall_mem_append]
    exact ⟨⟨fun n hn => hpieces n ((List.take_sublist _ _).mem hn), by simp⟩,
      fun n hn => hpieces n ((List.drop_sublist _ _).mem hn)⟩
  · obtain ⟨hlength, hl⟩ := Option.ite_none_right_eq_some.mp hfilled
    obtain rfl := Option.some.inj hl
    exact ⟨hlength, hpieces⟩

end Ipv6

end EntityHub.Url
