import EntityHub.Proofs.Failure
import EntityHub.Url.Host
/-!
# The characters of hosts

The text of a host that was read for a special scheme is not empty, and no character of it ends the
host or parts a user from it (`Url.isInner`): `Url.Host.isInner_of_special?`. For a domain name
this needs what its labels show, since a label in punycode is only checked in the form in which it
is shown.
-/

namespace EntityHub

/-! ## Lists -/

theorem mem_of_mem_intercalate {α : Type} {sep : List α} {ls : List (List α)} {a : α}
    (h : a ∈ sep.intercalate ls) : a ∈ sep ∨ ∃ l ∈ ls, a ∈ l := by
  induction ls with
  | nil => simp [List.intercalate] at h
  | cons l ls ih =>
    rcases ls with _ | ⟨l', ls⟩
    · have ha : a ∈ l := by simpa [List.intercalate] using h
      exact .inr ⟨l, List.mem_cons_self, ha⟩
    · have hsplit : a ∈ l ∨ a ∈ sep ∨ a ∈ sep.intercalate (l' :: ls) := by
        simpa [List.intercalate] using h
      rcases hsplit with ha | ha | ha
      · exact .inr ⟨l, List.mem_cons_self, ha⟩
      · exact .inl ha
      · rcases ih ha with hsep | ⟨m, hm, ham⟩
        · exact .inl hsep
        · exact .inr ⟨m, List.mem_cons_of_mem l hm, ham⟩

/-- What stands behind the last element without `p` is the whole list, or it and that element are
behind the rest. -/
theorem eq_or_eq_take_append {α : Type} (p : α → Bool) (l : List α) :
    l = (l.reverse.takeWhile p).reverse ∨ ∃ a, p a = false ∧
      l = l.take (l.length - (l.reverse.takeWhile p).reverse.length - 1) ++
        a :: (l.reverse.takeWhile p).reverse := by
  have hl : l = (l.reverse.dropWhile p).reverse ++ (l.reverse.takeWhile p).reverse := by
    rw [← List.reverse_append, List.takeWhile_append_dropWhile, List.reverse_reverse]
  generalize hback : (l.reverse.takeWhile p).reverse = back at *
  rcases hdrop : l.reverse.dropWhile p with _ | ⟨a, front⟩
  · rw [hdrop] at hl
    exact .inl hl
  · have ha : p a = false := by
      have hhead := List.head?_dropWhile_not p l.reverse
      rw [hdrop] at hhead
      simpa using hhead
    have hsplit : l = front.reverse ++ a :: back := by
      rw [hl, hdrop, List.reverse_cons, List.append_assoc, List.singleton_append]
    have hlength : l.length - back.length - 1 = front.reverse.length := by
      rw [hsplit, List.length_append, List.length_cons]
      omega
    refine .inr ⟨a, ha, ?_⟩
    rw [hlength]
    conv_rhs => rw [hsplit]
    rw [List.take_left]
    exact hsplit

/-! ## Punycode -/

namespace Punycode

/-- A number is read off its digits. -/
theorem exists_of_number? {bias position weight n m : Nat} {l rest : List Char}
    (h : number? bias position weight n l = some (m, rest)) :
    ∃ digits, l = digits ++ rest ∧ ∀ c ∈ digits, (digitValue? c).isSome = true := by
  induction l generalizing position weight n with
  | nil => cases h
  | cons c l ih =>
    simp only [number?, Option.bind_eq_bind, Option.bind_eq_some_iff] at h
    obtain ⟨d, hd, h⟩ := h
    have hc : (digitValue? c).isSome = true := by rw [hd, Option.isSome_some]
    split at h
    · obtain ⟨-, rfl⟩ := Prod.mk.inj (Option.some.inj h)
      exact ⟨[c], rfl, by simpa using hc⟩
    · split at h
      · obtain ⟨digits, rfl, hdigits⟩ := ih h
        exact ⟨c :: digits, rfl, List.forall_mem_cons.mpr ⟨hc, hdigits⟩⟩
      · cases h

/-- The characters in place stay, and all others are digits. -/
theorem mem_of_place? {n index bias : Nat} {first : Bool} {text l shown : List Char}
    (h : place? n index bias first text l = some shown) :
    text ⊆ shown ∧ ∀ c ∈ l, (digitValue? c).isSome = true := by
  fun_induction place? n index bias first text l with
  | case1 => 
    obtain rfl := Option.some.inj h
    exact ⟨List.Subset.refl _, by simp⟩
  | case2 => cases h
  | case3 n index bias first text c l steps rest hnumber count n' index' hvalid hlt ih =>
    obtain ⟨htext, hrest⟩ := ih h
    obtain ⟨digits, hl, hdigits⟩ := exists_of_number? hnumber
    refine ⟨fun a ha => htext ?_, fun a ha => ?_⟩
    · rw [← List.take_append_drop index' text] at ha
      rcases List.mem_append.mp ha with ha | ha
      · exact List.mem_append_left _ ha
      · exact List.mem_append_right _ (List.mem_cons_of_mem _ ha)
    · rw [hl] at ha
      exact (List.mem_append.mp ha).elim (hdigits a) (hrest a)
  | case4 => cases h

/-- A character in front of the last hyphen is shown, and those behind it are digits. -/
theorem mem_of_decode? {l shown : List Char} (h : decode? l = some shown) {c : Char} (hc : c ∈ l) :
    c ∈ shown ∨ c = '-' ∨ (digitValue? c).isSome = true := by
  simp only [decode?] at h
  split at h
  · obtain ⟨hfront, hback⟩ := mem_of_place? h
    rcases eq_or_eq_take_append (fun c => decide (c ≠ '-')) l with hl | ⟨a, ha, hl⟩
    · rw [hl] at hc
      exact .inr (.inr (hback c hc))
    · rw [hl] at hc
      rcases List.mem_append.mp hc with hc | hc
      · exact .inl (hfront hc)
      · rcases List.mem_cons.mp hc with rfl | hc
        · exact .inr (.inl (by simpa using ha))
        · exact .inr (.inr (hback c hc))
  · cases h

end Punycode

namespace Url

/-! ## Inner characters -/

/-- Whether a character stays within a host: it ends no part of a URL, is no blank or control and
parts no user from the host. -/
def isInner (c : Char) : Bool := !(c ≤ ' ' || Percent.among "#/?@\\" c)

theorem isInner_iff {c : Char} : isInner c = true ↔
    ' ' < c ∧ c ≠ '#' ∧ c ≠ '/' ∧ c ≠ '?' ∧ c ≠ '@' ∧ c ≠ '\\' := by
  simp [isInner, Percent.among]

theorem isInner_of_isForbiddenAscii {c : Char} (h : DomainName.isForbiddenAscii c = false) :
    isInner c = true := by
  simp only [DomainName.isForbiddenAscii, Percent.among, Bool.or_eq_false_iff] at h
  rw [isInner_iff]
  simp at h
  tauto

theorem isAlphanum_eq (c : Char) : c.isAlphanum = (c.isUpper || c.isLower || c.isDigit) := rfl

/-- A letter or digit stands behind the blank, and is one of the first characters. -/
theorem toNat_of_isAlphanum {c : Char} (h : c.isAlphanum = true) : 32 < c.toNat ∧ c.toNat < 0x80 := by
  have hnumbers : '0'.toNat = 48 ∧ '9'.toNat = 57 ∧ 'A'.val.toNat = 65 ∧ 'Z'.val.toNat = 90 ∧
    'a'.val.toNat = 97 ∧ 'z'.val.toNat = 122 := ⟨rfl, rfl, rfl, rfl, rfl, rfl⟩
  have hc : c.toNat = c.val.toNat := rfl
  rw [isAlphanum_eq, Bool.or_eq_true, Bool.or_eq_true] at h
  rcases h with (hupper | hlower) | hdigit
  · obtain ⟨hfirst, hlast⟩ := of_decide_eq_true hupper
    have hle := UInt32.le_iff_toNat_le.mp hfirst
    have hle' := UInt32.le_iff_toNat_le.mp hlast
    omega
  · obtain ⟨hfirst, hlast⟩ := Bool.and_eq_true_iff.mp hlower
    have hle := UInt32.le_iff_toNat_le.mp (of_decide_eq_true hfirst)
    have hle' := UInt32.le_iff_toNat_le.mp (of_decide_eq_true hlast)
    omega
  · have hle := Char.isDigit_iff_toNat.mp hdigit
    omega

theorem lt_of_isAlphanum {c : Char} (h : c.isAlphanum = true) : ' ' < c := by
  have hblank : ' '.val.toNat = 32 := rfl
  rw [Char.lt_def, UInt32.lt_iff_toNat_lt, hblank]
  exact (toNat_of_isAlphanum h).1

theorem isInner_of_isAlphanum {c : Char} (h : c.isAlphanum = true) : isInner c = true := by
  rw [isInner_iff]
  refine ⟨lt_of_isAlphanum h, ?_, ?_, ?_, ?_, ?_⟩ <;> rintro rfl <;> exact absurd h (by decide)

theorem isAlphanum_of_digitValue? {c : Char} (h : (Punycode.digitValue? c).isSome = true) :
    c.isAlphanum = true := by
  rw [Punycode.digitValue?] at h
  rw [isAlphanum_eq]
  split at h
  · next hc => simp [hc]
  · split at h
    · next hc => simp [hc]
    · split at h
      · next hc => simp [hc]
      · cases h

theorem isAlphanum_digitChar : ∀ n < 16, n.digitChar.isAlphanum = true := by decide

theorem isAlphanum_of_mem_toDigits {b n : Nat} (hb : 1 < b) (hb' : b ≤ 16) {c : Char}
    (hc : c ∈ Nat.toDigits b n) : c.isAlphanum = true := by
  induction n using Nat.strongRecOn with
  | ind n ih =>
    rw [Nat.toDigits_eq_if hb] at hc
    split at hc
    · next hn =>
      rw [List.mem_singleton.mp hc]
      exact isAlphanum_digitChar n (by omega)
    · next hn =>
      rcases List.mem_append.mp hc with hc | hc
      · exact ih (n / b) (Nat.div_lt_self (by omega) hb) hc
      · rw [List.mem_singleton.mp hc]
        have hmod := Nat.mod_lt n (show 0 < b by omega)
        exact isAlphanum_digitChar _ (by omega)

theorem isInner_of_mem_toString {n : Nat} {c : Char} (hc : c ∈ (toString n).toList) :
    isInner c = true := by
  have hdigits : (toString n).toList = Nat.toDigits 10 n := Nat.toList_repr
  rw [hdigits] at hc
  exact isInner_of_isAlphanum (isAlphanum_of_mem_toDigits (by decide) (by decide) hc)

/-! ## Domain names -/

end Url

namespace DomainName

open Url (isInner)

theorem Label.isWellFormed_of_ofNormalForm? {l : List Char} {label : Label}
    (h : ofNormalForm? l = some label) : isWellFormed label.shown = true := by
  simp only [ofNormalForm?] at h
  split at h
  · split at h
    · obtain ⟨shown, hs, rfl⟩ := Option.map_eq_some_iff.mp h
      exact (Option.filter_eq_some_iff.mp hs).2
    · cases h
  · split at h
    · cases h
    · next hl =>
      rw [Bool.not_eq_true, Bool.not_eq_false'] at hl
      split at h
      · obtain rfl := Option.some.inj h
        exact hl
      · split at h
        · cases h
        · split at h
          · obtain rfl := Option.some.inj h
            exact hl
          · cases h

theorem Label.isInner_of_isWellFormed {l : List Char} (h : isWellFormed l = true) {c : Char}
    (hc : c ∈ l) : isInner c = true := by
  have hany : (!l.any fun c => c = '.' || isForbiddenAscii c) = true := by
    simp only [isWellFormed, Bool.and_eq_true] at h
    exact h.1.1.2
  rw [Bool.not_eq_true', List.any_eq_false] at hany
  have hnot := hany c hc
  rw [Bool.not_eq_true, Bool.or_eq_false_iff] at hnot
  exact Url.isInner_of_isForbiddenAscii hnot.2

/-- A label travels in inner characters. -/
theorem Label.isInner_of_ofNormalForm? {l : List Char} {label : Label}
    (h : ofNormalForm? l = some label) {c : Char} (hc : c ∈ label.ascii) : isInner c = true := by
  have hshown : ∀ c ∈ label.shown, isInner c = true := fun c hc =>
    isInner_of_isWellFormed (isWellFormed_of_ofNormalForm? h) hc
  rcases decoded?_of_ofNormalForm? h with heq | ⟨encoded, heq, hdecoded⟩
  · rw [heq] at hc
    exact hshown c hc
  · rw [heq] at hc
    rcases List.mem_append.mp hc with hc | hc
    · have hmarker : marker.all isInner = true := by decide
      exact List.all_eq_true.mp hmarker c hc
    · have hdecode := (Option.filter_eq_some_iff.mp hdecoded).1
      rcases Punycode.mem_of_decode? hdecode hc with hc | rfl | hc
      · exact hshown c hc
      · decide
      · exact Url.isInner_of_isAlphanum (Url.isAlphanum_of_digitValue? hc)

/-- A domain name is made up of labels. -/
theorem exists_of_ofOctets? {l : List UInt8} {name : String} (h : ofOctets? l = .ok name) :
    ∃ (parts : List (List Char)) (labels : List Label),
      parts.mapM Label.ofNormalForm? = some labels ∧
      Direction.agree (labels.map Label.shown) = true ∧
      name.toList = ['.'].intercalate (labels.map Label.ascii) ∧ name.toList ≠ [] := by
  rw [ofOctets?] at h
  split at h
  · cases h
  · next labels hlabels =>
    split at h
    · cases h
    · next hne =>
      obtain rfl := Except.ok.inj h
      obtain ⟨text, -, htext⟩ := Option.bind_eq_some_iff.mp hlabels
      simp only [labels?, Option.bind_eq_bind, Option.bind_eq_some_iff] at htext
      obtain ⟨parts, -, labels', hmap, hagree⟩ := htext
      obtain ⟨hagree', heq⟩ := Option.ite_none_right_eq_some.mp hagree
      obtain rfl := Option.some.inj heq
      rw [String.toList_ofList]
      exact ⟨_, labels', hmap, hagree', rfl, hne⟩

/-- A domain name is not empty, and it travels in inner characters. -/
theorem isInner_of_ofOctets? {l : List UInt8} {name : String} (h : ofOctets? l = .ok name) :
    name.toList ≠ [] ∧ ∀ c ∈ name.toList, isInner c = true := by
  obtain ⟨parts, labels, hmap, -, hname, hne⟩ := exists_of_ofOctets? h
  refine ⟨hne, fun c hc => ?_⟩
  rw [hname] at hc
  rcases mem_of_mem_intercalate hc with hc | ⟨ascii, hascii, hc⟩
  · rw [List.mem_singleton.mp hc]
    decide
  · obtain ⟨label, hlabel, rfl⟩ := List.mem_map.mp hascii
    obtain ⟨part, -, hpart⟩ := exists_of_mem_mapM hmap hlabel
    exact Label.isInner_of_ofNormalForm? hpart hc

end DomainName

namespace Url

/-! ## Hosts -/

theorem Ipv4.isInner_of_mem_text {n : Nat} {c : Char} (hc : c ∈ (Ipv4.text n).toList) :
    isInner c = true := by
  rw [Ipv4.text, String.toList_intercalate] at hc
  rcases mem_of_mem_intercalate hc with hc | ⟨part, hpart, hc⟩
  · obtain rfl : c = '.' := by simpa using hc
    decide
  · simp only [List.map_map, List.mem_map, Function.comp_apply] at hpart
    obtain ⟨i, -, rfl⟩ := hpart
    exact isInner_of_mem_toString hc

theorem Ipv4.text_ne_nil (n : Nat) : (Ipv4.text n).toList ≠ [] := by
  rw [Ipv4.text, String.toList_intercalate]
  simp [List.intercalate]

theorem Ipv6.mem_colons {l : List Nat} {c : Char} (hc : c ∈ (Ipv6.colons l).toList) :
    c.isAlphanum = true ∨ c = ':' := by
  rw [Ipv6.colons, String.toList_intercalate] at hc
  rcases mem_of_mem_intercalate hc with hc | ⟨part, hpart, hc⟩
  · exact .inr (by simpa using hc)
  · simp only [List.map_map, List.mem_map, Function.comp_apply, String.toList_ofList] at hpart
    obtain ⟨n, -, rfl⟩ := hpart
    exact .inl (isAlphanum_of_mem_toDigits (by decide) (by decide) hc)

theorem Ipv6.mem_text {l : List Nat} {c : Char} (hc : c ∈ (Ipv6.text l).toList) :
    c.isAlphanum = true ∨ c = ':' := by
  simp only [Ipv6.text] at hc
  split at hc
  · exact mem_colons hc
  · rw [String.toList_append, String.toList_append] at hc
    rcases List.mem_append.mp hc with hc | hc
    · rcases List.mem_append.mp hc with hc | hc
      · exact mem_colons hc
      · exact .inr (by simpa using hc)
    · exact mem_colons hc

theorem Ipv6.isInner_of_mem_text {l : List Nat} {c : Char} (hc : c ∈ (Ipv6.text l).toList) :
    isInner c = true := by
  rcases mem_text hc with hc | rfl
  · exact isInner_of_isAlphanum hc
  · decide

namespace Host

theorem isInner_ipv6 (l : List Nat) :
    (ipv6 l).text.toList ≠ [] ∧ ∀ c ∈ (ipv6 l).text.toList, isInner c = true := by
  have htext : (ipv6 l).text.toList = '[' :: ((Ipv6.text l).toList ++ [']']) := by
    simp [text]
  rw [htext]
  refine ⟨List.cons_ne_nil _ _, fun c hc => ?_⟩
  rcases List.mem_cons.mp hc with rfl | hc
  · decide
  · rcases List.mem_append.mp hc with hc | hc
    · exact Ipv6.isInner_of_mem_text hc
    · obtain rfl := List.mem_singleton.mp hc
      decide

/-- The text of a host under a special scheme is not empty, and all of it is inner. -/
theorem isInner_of_special? {l : List Char} {host : Host} (h : special? l = .ok host) :
    host.text.toList ≠ [] ∧ ∀ c ∈ host.text.toList, isInner c = true := by
  unfold special? at h
  split at h
  · unfold ofBracketed? at h
    split at h
    · obtain rfl := Except.ok.inj h
      exact isInner_ipv6 _
    · cases h
  · obtain ⟨name, hname, h⟩ := exists_of_bind_eq_ok h
    split at h
    · split at h
      · obtain rfl := Except.ok.inj h
        exact ⟨Ipv4.text_ne_nil _, fun c hc => Ipv4.isInner_of_mem_text hc⟩
      · cases h
    · obtain rfl := Except.ok.inj h
      exact DomainName.isInner_of_ofOctets? hname

end Host

end Url

end EntityHub
