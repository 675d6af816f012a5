import EntityHub.Codec.Der
import Mathlib.Algebra.Group.Nat.Defs
import Mathlib.Data.List.Induction
/-!
# DER read back

Elements are found again in their octets, as long as their contents have fewer than 2 ^ 32 octets
(`Der.element?_octets`). Longer ones are not read at all.
-/

namespace EntityHub

/-! ## Octets of numbers -/

namespace BigEndian

theorem length_octets_le {n k : Nat} (h : n < 256 ^ k) : (octets n).length ≤ k := by
  induction k generalizing n with
  | zero =>
    obtain rfl : n = 0 := by omega
    rw [octets, if_pos rfl]
    exact Nat.le_refl 0
  | succ k ih =>
    rw [octets]
    split
    · exact Nat.zero_le _
    · have hdiv : n / 256 < 256 ^ k := Nat.div_lt_of_lt_mul (by rwa [Nat.pow_succ, Nat.mul_comm] at h)
      rw [List.length_append, List.length_singleton]
      exact Nat.succ_le_succ (ih hdiv)

theorem length_octets_le_of_lt_shiftLeft {n k : Nat} (h : n < 1 <<< (8 * k)) :
    (octets n).length ≤ k := by
  rw [Nat.one_shiftLeft, Nat.pow_mul] at h
  exact length_octets_le h

theorem value_lt (l : List UInt8) : value l < 256 ^ l.length := by
  induction l using List.reverseRecOn with
  | nil => exact Nat.one_pos
  | append_singleton l b ih =>
    have hb := b.toNat_lt
    rw [value_concat, List.length_append, List.length_singleton, Nat.pow_succ]
    omega

end BigEndian

namespace Der

open BigEndian (octets value)

variable {e : Element} {l : List Element} {n : Nat} {rest : List UInt8}

/-! ## Lengths -/

theorem length_octets_le_four (hn : n < 2 ^ 32) : (octets n).length ≤ 4 :=
  BigEndian.length_octets_le (by simpa using hn)

theorem value_lt_of_length_le {m : List UInt8} (h : m.length ≤ 4) : value m < 2 ^ 32 := by
  have hpow : 256 ^ m.length ≤ 256 ^ 4 := Nat.pow_le_pow_right (by decide) h
  exact Nat.lt_of_lt_of_le (BigEndian.value_lt m) hpow

theorem length?_lengthOctets (hn : n < 2 ^ 32) (rest : List UInt8) :
    length? (lengthOctets n ++ rest) = some (n, rest) := by
  have hlength := length_octets_le_four hn
  by_cases hshort : n < 0x80
  · have hvalue : (UInt8.ofNat n).toNat = n := by
      rw [UInt8.toNat_ofNat']
      omega
    have hlt : UInt8.ofNat n < 0x80 := UInt8.lt_iff_toNat_lt.mpr (by rw [hvalue]; exact hshort)
    rw [lengthOctets, if_pos hshort, List.singleton_append, length?, if_pos hlt, hvalue]
  · have hvalue : (UInt8.ofNat (0x80 + (octets n).length)).toNat = 0x80 + (octets n).length := by
      rw [UInt8.toNat_ofNat']
      omega
    have hge : ¬UInt8.ofNat (0x80 + (octets n).length) < 0x80 := by
      rw [UInt8.lt_iff_toNat_lt, hvalue]
      exact Nat.not_lt.mpr (Nat.le_add_right _ _)
    have hcount : 0x80 + (octets n).length - 0x80 = (octets n).length := Nat.add_sub_cancel_left ..
    have hcanonical : lengthOctets n = UInt8.ofNat (0x80 + (octets n).length) :: octets n :=
      if_neg hshort
    rw [hcanonical, List.cons_append, length?, if_neg hge]
    simp only [hvalue, hcount, List.take_left, List.drop_left, BigEndian.value_octets]
    rw [if_pos ⟨hlength, hcanonical⟩]

/-- Only what would be written is read as a length. -/
theorem of_length? {m : List UInt8} (h : length? m = some (n, rest)) :
    m = lengthOctets n ++ rest ∧ n < 2 ^ 32 := by
  rcases m with _ | ⟨b, m⟩
  · cases h
  · rw [length?] at h
    split at h
    · next hb =>
      obtain ⟨rfl, rfl⟩ := Prod.mk.inj (Option.some.inj h)
      have hlt : b.toNat < 0x80 := UInt8.lt_iff_toNat_lt.mp hb
      refine ⟨?_, by omega⟩
      rw [lengthOctets, if_pos hlt, UInt8.ofNat_toNat]
      rfl
    · obtain ⟨⟨hcount, hcanonical⟩, hsome⟩ := Option.ite_none_right_eq_some.mp h
      obtain ⟨rfl, rfl⟩ := Prod.mk.inj (Option.some.inj hsome)
      refine ⟨?_, ?_⟩
      · rw [hcanonical, List.cons_append, List.take_append_drop]
      · exact value_lt_of_length_le (Nat.le_trans (List.length_take_le _ _) hcount)

theorem length_lengthOctets_le (hn : n < 2 ^ 32) : (lengthOctets n).length ≤ 5 := by
  have hlength := length_octets_le_four hn
  rw [lengthOctets]
  split
  · exact Nat.succ_le_succ (Nat.zero_le 4)
  · exact Nat.succ_le_succ hlength

theorem le_length_lengthOctets (hn : ¬n < 2 ^ 32) : 6 ≤ (lengthOctets n).length := by
  have hlength : 4 < (octets n).length := by
    by_contra hle
    have hvalue := value_lt_of_length_le (Nat.le_of_not_lt hle)
    rw [BigEndian.value_octets] at hvalue
    exact hn hvalue
  rw [lengthOctets, if_neg (by omega), List.length_cons]
  omega

/-! ## Elements -/

theorem Element.octets_ne_nil (e : Element) : e.octets ≠ [] := List.cons_ne_nil _ _

theorem next?_octets (htag : isTag e.tag = true) (hlength : e.contents.length < 2 ^ 32)
    (rest : List UInt8) : next? (e.octets ++ rest) = some (e, rest) := by
  rw [Element.octets, List.cons_append, List.append_assoc, next?, if_pos htag,
    length?_lengthOctets hlength]
  simp only
  rw [if_pos (by rw [List.length_append]; omega), List.take_left, List.drop_left]

theorem of_next? {m : List UInt8} (h : next? m = some (e, rest)) :
    m = e.octets ++ rest ∧ e.contents.length < 2 ^ 32 := by
  rcases m with _ | ⟨tag, m⟩
  · cases h
  · rw [next?] at h
    split at h
    · split at h
      · next n m' hlength =>
        obtain ⟨hle, hsome⟩ := Option.ite_none_right_eq_some.mp h
        obtain ⟨rfl, rfl⟩ := Prod.mk.inj (Option.some.inj hsome)
        obtain ⟨rfl, hn⟩ := of_length? hlength
        have htake : (m'.take n).length = n := List.length_take_of_le hle
        refine ⟨?_, by rwa [htake]⟩
        rw [Element.octets, htake, List.cons_append, List.append_assoc, List.take_append_drop]
      · cases h
    · cases h

theorem elements?_of_next? {m : List UInt8} (h : next? m = some (e, rest)) :
    elements? m = (elements? rest).map (e :: ·) := by
  have hne : m.isEmpty = false := by
    rcases m with _ | ⟨b, m⟩
    · cases h
    · rfl
  rw [elements?, if_neg (by rw [hne]; exact Bool.false_ne_true)]
  split
  · next heq =>
    obtain ⟨rfl, rfl⟩ := Prod.mk.inj (Option.some.inj (heq.symm.trans h))
    rfl
  · next hnone =>
    rw [hnone] at h
    cases h

theorem elements?_nil : elements? [] = some [] := by
  rw [elements?]
  rfl

/-- Contents are read as the elements that make them up. -/
theorem elements?_join (htags : ∀ e ∈ l, isTag e.tag = true) (hlength : (join l).length < 2 ^ 32) :
    elements? (join l) = some l := by
  induction l with
  | nil => exact elements?_nil
  | cons e l ih =>
    obtain ⟨htag, htags⟩ := List.forall_mem_cons.mp htags
    have hjoin : join (e :: l) = e.octets ++ join l := List.flatMap_cons
    rw [hjoin, List.length_append, Element.octets, List.length_cons, List.length_append] at hlength
    rw [hjoin, elements?_of_next? (next?_octets htag (by omega) _), ih htags (by omega),
      Option.map_some]

theorem element?_eq_some {m : List UInt8} (h : element? m = some e) :
    m = e.octets ∧ e.contents.length < 2 ^ 32 := by
  have helements : elements? m = some [e] := by
    rw [element?] at h
    split at h
    · next heq =>
      rw [heq, Option.some.inj h]
    · cases h
  rcases hnext : next? m with _ | ⟨e', rest⟩
  · rw [elements?] at helements
    split at helements
    · cases helements
    · split at helements
      · next heq =>
        rw [hnext] at heq
        cases heq
      · cases helements
  · obtain ⟨rfl, hlength⟩ := of_next? hnext
    rw [elements?_of_next? hnext] at helements
    obtain ⟨l, hl, hcons⟩ := Option.map_eq_some_iff.mp helements
    obtain ⟨rfl, rfl⟩ := List.cons.inj hcons
    have hrest : rest = [] := by
      by_contra hne
      rw [elements?, if_neg (by simpa using hne)] at hl
      split at hl
      · obtain ⟨l, -, hcons⟩ := Option.map_eq_some_iff.mp hl
        cases hcons
      · cases hl
    rw [hrest, List.append_nil]
    exact ⟨rfl, hlength⟩

/-- An element is read from its octets if its contents are not too long. -/
theorem element?_octets (htag : isTag e.tag = true) :
    element? e.octets = if e.contents.length < 2 ^ 32 then some e else none := by
  split
  · next hlength =>
    have hnext := next?_octets htag hlength []
    rw [List.append_nil] at hnext
    rw [element?, elements?_of_next? hnext, elements?_nil]
    rfl
  · next hlength =>
    refine Option.eq_none_iff_forall_ne_some.mpr fun e' he' => ?_
    obtain ⟨heq, hshort⟩ := element?_eq_some he'
    have hle := length_lengthOctets_le hshort
    have hge := le_length_lengthOctets hlength
    have htotal := congrArg List.length heq
    simp only [Element.octets, List.length_cons, List.length_append] at htotal
    omega

theorem isTag_sequence (l : List Element) : isTag (sequence l).tag = true := by
  show isTag sequenceTag = true
  decide

theorem element?_sequence (l : List Element) : element? (sequence l).octets =
    if (join l).length < 2 ^ 32 then some (sequence l) else none :=
  element?_octets (isTag_sequence l)

/-- A sequence holds its elements. -/
theorem items?_sequence (htags : ∀ e ∈ l, isTag e.tag = true) (hlength : (join l).length < 2 ^ 32) :
    (sequence l).items? = some l := by
  have hunder : (sequence l).under? sequenceTag = some (join l) := if_pos rfl
  rw [Element.items?, hunder, Option.bind_some, elements?_join htags hlength]

/-- What is in a sequence is shorter than the sequence. -/
theorem length_lt_of_mem (h : e ∈ l) : e.contents.length < (join l).length := by
  obtain ⟨x, y, rfl⟩ := List.append_of_mem h
  rw [join, List.flatMap_append, List.flatMap_cons, Element.octets]
  simp only [List.length_append, List.length_cons]
  omega

theorem length_join_lt (l : List Element) : (join l).length < (sequence l).octets.length := by
  rw [Element.octets, List.length_cons, List.length_append]
  show _ < _ + (join l).length + 1
  omega

theorem length_join_pair (e e' : Element) :
    (join [e, e']).length = e.octets.length + e'.octets.length := by
  simp [join]

theorem length_octets_le_add (hlength : e.contents.length < 2 ^ 32) :
    e.octets.length ≤ e.contents.length + 6 := by
  have hle := length_lengthOctets_le hlength
  rw [Element.octets, List.length_cons, List.length_append]
  omega

/-! ## Numbers and strings -/

theorem value_naturalContents (n : Nat) : value (naturalContents n) = n := by
  have hvalue := BigEndian.value_octets n
  rw [naturalContents]
  split
  · next heq =>
    rw [heq] at hvalue
    exact hvalue
  · next b m heq =>
    rw [heq] at hvalue
    split
    · exact hvalue
    · exact (BigEndian.value_replicate_append 1 (b :: m)).trans hvalue

theorem natural?_natural (n : Nat) : (natural n).natural? = some n := by
  have hunder : (natural n).under? integerTag = some (naturalContents n) := if_pos rfl
  rw [Element.natural?, hunder]
  simp only [Option.bind_eq_bind, Option.bind_some, value_naturalContents, if_true]

theorem length_naturalContents_le (n : Nat) :
    (naturalContents n).length ≤ (octets n).length + 1 := by
  rw [naturalContents]
  split
  · exact Nat.le_add_left _ _
  · next heq =>
    rw [heq]
    split
    · exact Nat.le_succ _
    · exact Nat.le_refl _

theorem length_natural_le (hlength : (octets n).length < 2 ^ 31) :
    (natural n).octets.length ≤ (octets n).length + 7 := by
  have hcontents : (natural n).contents.length ≤ (octets n).length + 1 :=
    length_naturalContents_le n
  have hle := length_octets_le_add (e := natural n) (by omega)
  omega

theorem bits?_bitString (m : List UInt8) : (bitString m).bits? = some m := rfl

theorem under?_octetString (m : List UInt8) : (octetString m).under? octetStringTag = some m := rfl

end Der

end EntityHub
