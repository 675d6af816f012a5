import EntityHub.Proofs.Text.Utf8
import EntityHub.Url.Percent
/-!
# Percent-encoded texts

What an encoded text consists of (`Percent.mem_encode`), when encoding changes nothing
(`Percent.encode_eq_self`), and that a text encoded as a segment is decoded to itself
(`Percent.decode_segment`).
-/

namespace EntityHub

/-! ## Octets -/

namespace Utf8

variable {c : Char}

theorem eq_ofNat_of_octet {b : UInt8} (hc : c.toNat < 0x80) (h : UInt8.ofNat c.toNat = b) :
    c = .ofNat b.toNat := by
  rw [← h, UInt8.toNat_ofNat_of_lt' (Nat.lt_trans hc (by decide)), Char.ofNat_toNat]

/-- Only the dot is written with the octet of the dot. -/
theorem eq_of_mem_encodeChar (h : (0x2E : UInt8) ∈ encodeChar c) : c = '.' := by
  have hne : ∀ n, 0x80 ≤ n → n < 0x100 → (0x2E : UInt8) ≠ .ofNat n := by
    intro n hlow hhigh heq
    have hnat := congrArg UInt8.toNat heq
    rw [UInt8.toNat_ofNat_of_lt' hhigh] at hnat
    exact absurd hnat (by simp; omega)
  have hvalid : c.toNat < 0xD800 ∨ 0xDFFF < c.toNat ∧ c.toNat < 0x110000 := c.valid
  simp only [encodeChar] at h
  split_ifs at h with h₁ h₂ h₃
  · exact eq_ofNat_of_octet h₁ (List.mem_singleton.mp h).symm
  -- every other octet is beyond ASCII
  all_goals
    simp only [List.mem_cons, List.not_mem_nil, or_false] at h
    repeat' obtain h | h := h
    all_goals exact absurd h (hne _ (by omega) (by omega))

theorem encodeChar_ne_nil (c : Char) : encodeChar c ≠ [] := by
  simp only [encodeChar]
  split_ifs <;> simp

/-- A character of ASCII is written as itself. -/
theorem encodeChar_of_lt (h : c.toNat < 0x80) : encodeChar c = [.ofNat c.toNat] :=
  if_pos h

end Utf8

namespace Percent

variable {set : CharSet} {c : Char} {l m : List Char}

/-! ## Digits -/

/-- The characters of an octet in encoded form. -/
def isCode (c : Char) : Bool := among "%0123456789ABCDEF" c

theorem forall_isCode {p : Char → Bool} (h : "%0123456789ABCDEF".toList.all p = true) (c : Char)
    (hc : isCode c = true) : p c = true :=
  List.all_eq_true.mp h c (List.contains_iff_mem.mp hc)

theorem isCode_digit : ∀ n < 16, isCode (digit n) = true := by
  decide

theorem digit_ne_percent : ∀ n < 16, digit n ≠ '%' := by
  decide

theorem eq_of_digit_eq_two : ∀ n < 16, digit n = '2' → n = 2 := by
  decide

theorem eq_of_digit_eq_e : ∀ n < 16, digit n = 'e' ∨ digit n = 'E' → n = 14 := by
  decide

theorem digitValue?_digit : ∀ n < 16, digitValue? (.ofNat (digit n).toNat) = some n := by
  decide

theorem digit_lt : ∀ n < 16, (digit n).toNat < 0x80 := by
  decide

theorem mem_encodeOctet {b : UInt8} (h : c ∈ encodeOctet b) : isCode c = true := by
  have hb := b.toNat_lt
  simp only [encodeOctet, List.mem_cons, List.not_mem_nil, or_false] at h
  rcases h with rfl | rfl | rfl
  · decide
  · exact isCode_digit _ (by omega)
  · exact isCode_digit _ (by omega)

/-! ## Characters of encoded texts -/

theorem isControl_iff : isControl c = false ↔ ' ' ≤ c ∧ c ≤ '~' := by
  simp [isControl]

/-- A character that is no control and no blank is beyond both. -/
theorem blank_lt_of_isControl (h : isControl c = false) (hblank : c ≠ ' ') : ' ' < c :=
  Char.not_le.mp fun hle => hblank (Char.le_antisymm hle (isControl_iff.mp h).1)

theorem lt_of_isControl (h : isControl c = false) : c.toNat < 0x80 :=
  Nat.lt_succ_of_le (Nat.le_succ_of_le (isControl_iff.mp h).2)

theorem encodeChar_of_keep (h : (isControl c || set c) = false) : encodeChar set c = [c] :=
  if_neg (by rw [h]; exact Bool.false_ne_true)

theorem encodeChar_of_encode (h : (isControl c || set c) = true) :
    encodeChar set c = (Utf8.encodeChar c).flatMap encodeOctet :=
  if_pos h

theorem encode_cons : encode set (c :: l) = encodeChar set c ++ encode set l :=
  List.flatMap_cons

/-- A character of an encoded text is one that is not encoded, or belongs to one in encoded form. -/
theorem mem_encode (h : c ∈ encode set l) :
    (isControl c || set c) = false ∧ c ∈ l ∨ isCode c = true := by
  obtain ⟨d, hd, hc⟩ := List.mem_flatMap.mp h
  by_cases hset : (isControl d || set d) = true
  · rw [encodeChar_of_encode hset] at hc
    obtain ⟨b, -, hc⟩ := List.mem_flatMap.mp hc
    exact .inr (mem_encodeOctet hc)
  · have hkeep := Bool.eq_false_iff.mpr hset
    rw [encodeChar_of_keep hkeep] at hc
    obtain rfl := List.mem_singleton.mp hc
    exact .inl ⟨hkeep, hd⟩

theorem encode_eq_self (h : ∀ c ∈ l, (isControl c || set c) = false) : encode set l = l := by
  induction l with
  | nil => rfl
  | cons c l ih =>
    rw [encode_cons, encodeChar_of_keep (h c List.mem_cons_self),
      ih fun d hd => h d (List.mem_cons_of_mem c hd), List.singleton_append]

/-- If what an octet is encoded by is kept, a text in encoded form is kept. -/
theorem keep_of_mem_encode (hset : ∀ d, isCode d = true → (isControl d || set d) = false)
    (h : c ∈ encode set l) : (isControl c || set c) = false :=
  (mem_encode h).elim And.left (hset c)

theorem encodeChar_eq (set : CharSet) (c : Char) :
    encodeChar set c = [c] ∨ ∃ m, encodeChar set c = '%' :: m := by
  by_cases hset : (isControl c || set c) = true
  · obtain ⟨b, bs, hbs⟩ := List.exists_cons_of_ne_nil (Utf8.encodeChar_ne_nil c)
    rw [encodeChar_of_encode hset, hbs, List.flatMap_cons]
    exact .inr ⟨_, rfl⟩
  · exact .inl (encodeChar_of_keep (Bool.eq_false_iff.mpr hset))

/-- An encoded text that begins with another character than a mark begins as the text does. -/
theorem exists_of_encode_eq_cons (hc : c ≠ '%') (h : encode set l = c :: m) :
    ∃ l', l = c :: l' ∧ encode set l' = m := by
  cases l with
  | nil => cases h
  | cons d l =>
    rw [encode_cons] at h
    rcases encodeChar_eq set d with hd | ⟨m', hd⟩ <;> rw [hd] at h
    · obtain ⟨rfl, hl⟩ := List.cons.inj h
      exact ⟨l, rfl, hl⟩
    · exact absurd (List.cons.inj h).1.symm hc

/-- A text without a mark is no other text in encoded form. -/
theorem eq_of_encode_eq (hm : '%' ∉ m) (h : encode set l = m) : l = m := by
  induction m generalizing l with
  | nil =>
    cases l with
    | nil => rfl
    | cons d l =>
      rw [encode_cons] at h
      rcases encodeChar_eq set d with hd | ⟨m', hd⟩ <;> rw [hd] at h <;> cases h
  | cons c m ih =>
    obtain ⟨hc, hm⟩ := not_or.mp (mt List.mem_cons.mpr hm)
    obtain ⟨l', rfl, hl'⟩ := exists_of_encode_eq_cons (Ne.symm hc) h
    rw [ih hm hl']

/-! ## Segments -/

theorem decode_cons_of_ne {b : UInt8} (hb : b ≠ 0x25) (l : List UInt8) :
    decode (b :: l) = b :: decode l := by
  rw [decode]
  intro _ _ _ h
  exact absurd h hb

/-- Characters of ASCII without a mark are decoded to themselves. -/
theorem decode_eq_self (h : ∀ c ∈ l, c.toNat < 0x80 ∧ c ≠ '%') :
    decode (l.flatMap Utf8.encodeChar) = l.flatMap Utf8.encodeChar := by
  induction l with
  | nil => rw [List.flatMap_nil, decode]
  | cons c l ih =>
    obtain ⟨⟨hascii, hc⟩, hl⟩ := List.forall_mem_cons.mp h
    have hmark : UInt8.ofNat c.toNat ≠ 0x25 := fun heq => hc (Utf8.eq_ofNat_of_octet hascii heq)
    rw [List.flatMap_cons, Utf8.encodeChar_of_lt hascii, List.singleton_append,
      decode_cons_of_ne hmark, ih hl]

theorem decode_encodeOctet (b : UInt8) (l : List UInt8) :
    decode ((encodeOctet b).flatMap Utf8.encodeChar ++ l) = b :: decode l := by
  have hb := b.toNat_lt
  have hhigh : b.toNat / 16 < 16 := by omega
  have hlow : b.toNat % 16 < 16 := by omega
  have hmark : Utf8.encodeChar '%' = [0x25] := rfl
  simp only [encodeOctet, List.flatMap_cons, List.flatMap_nil, hmark,
    Utf8.encodeChar_of_lt (digit_lt _ hhigh), Utf8.encodeChar_of_lt (digit_lt _ hlow),
    List.cons_append, List.nil_append, List.append_nil]
  rw [decode, digitValue?_digit _ hhigh, digitValue?_digit _ hlow]
  simp only
  rw [show b.toNat / 16 * 16 + b.toNat % 16 = b.toNat by omega, UInt8.ofNat_toNat]

theorem decode_octets (bs l : List UInt8) :
    decode ((bs.flatMap encodeOctet).flatMap Utf8.encodeChar ++ l) = bs ++ decode l := by
  induction bs with
  | nil => rfl
  | cons b bs ih =>
    rw [List.flatMap_cons, List.flatMap_append, List.append_assoc, decode_encodeOctet, ih]
    rfl

/-- If the mark is encoded, a character is decoded to its octets. -/
theorem decode_encodeChar (hset : set '%' = true) (c : Char) (l : List UInt8) :
    decode ((encodeChar set c).flatMap Utf8.encodeChar ++ l) = Utf8.encodeChar c ++ decode l := by
  by_cases hc : (isControl c || set c) = true
  · rw [encodeChar_of_encode hc, decode_octets]
  · have hkeep := Bool.eq_false_iff.mpr hc
    have hascii := lt_of_isControl (Bool.or_eq_false_iff.mp hkeep).1
    have hmark : UInt8.ofNat c.toNat ≠ 0x25 := fun heq => by
      have hc : c = '%' := Utf8.eq_ofNat_of_octet hascii heq
      rw [hc, hset, Bool.or_true] at hkeep
      cases hkeep
    rw [encodeChar_of_keep hkeep, List.flatMap_singleton, Utf8.encodeChar_of_lt hascii,
      List.singleton_append, decode_cons_of_ne hmark, List.singleton_append]

/-- A text encoded as a segment is decoded to the octets of the text. -/
theorem decode_segment (s : String) : decode (Utf8.encode (segment s)) = Utf8.encode s := by
  rw [Utf8.encode, segment, String.toList_ofList, Utf8.encode]
  generalize s.toList = l
  induction l with
  | nil => rw [encode, List.flatMap_nil, List.flatMap_nil, decode]
  | cons c l ih =>
    rw [encode_cons, List.flatMap_append, List.flatMap_cons, decode_encodeChar (by decide), ih]

end Percent

end EntityHub
