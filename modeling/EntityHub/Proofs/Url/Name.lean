import EntityHub.Proofs.Text.Ascii
import EntityHub.Proofs.Text.Split
import EntityHub.Proofs.Url.Host
import EntityHub.Proofs.Url.Percent
/-!
# Names that are read again

A name that was read travels in characters that stand for themselves (`Label.travels_of_made`), so
reading it again gives the name (`ofOctets?_encode_name`). It is refused if a label that was put into
punycode has become too long to be shown (`Label.isOverlong`).
-/

namespace EntityHub

/-! ## Punycode -/

namespace Punycode

theorem threshold_le (position bias : Nat) : threshold position bias ≤ 26 := by
  unfold threshold
  omega

theorem exists_of_mem_number {bias position n : Nat} {c : Char} (h : c ∈ number bias position n) :
    ∃ k < 36, c = digit k := by
  fun_induction number bias position n with
  | case1 position n t hn =>
    have ht : t ≤ 26 := threshold_le position bias
    exact ⟨n, by omega, List.mem_singleton.mp h⟩
  | case2 position n t hn hlt ih =>
    have ht : t ≤ 26 := threshold_le position bias
    rcases List.mem_cons.mp h with rfl | h
    · have hmod := Nat.mod_lt (n - t) (show 0 < 36 - t by omega)
      exact ⟨_, by omega, rfl⟩
    · exact ih h

theorem of_digit : ∀ k < 36, (digit k).toNat < 0x80 ∧ (digit k).isUpper = false := by
  decide

/-- The digits of a text that is being written. -/
def Progress.Digits (p : Progress) : Prop := ∀ c ∈ p.text, ∃ k < 36, c = digit k

theorem Progress.Digits.pass {p : Progress} (h : p.Digits) (n ascii : Nat) (c : Char) :
    (pass n ascii p c).Digits := by
  unfold Punycode.pass
  split
  · exact h
  · split
    · intro c hc
      exact (List.mem_append.mp hc).elim (h c) exists_of_mem_number
    · exact h

/-- A written text is made up of characters of ASCII, a hyphen and digits. -/
theorem mem_of_mem_encode {l : List Char} {c : Char} (h : c ∈ encode l) :
    (c ∈ l ∧ c.toNat < 0x80) ∨ c = '-' ∨ ∃ k < 36, c = digit k := by
  simp only [encode] at h
  rcases List.mem_append.mp h with h | h
  · rcases List.mem_append.mp h with h | h
    · obtain ⟨hc, hascii⟩ := List.mem_filter.mp h
      exact .inl ⟨hc, of_decide_eq_true hascii⟩
    · split at h
      · cases h
      · exact .inr (.inl (List.mem_singleton.mp h))
  · suffices hdigits : Progress.Digits _ from .inr (.inr (hdigits c h))
    refine List.foldlRecOn (motive := fun s : Nat × Progress => s.2.Digits) _ _ ?_ fun s hs n _ => ?_
    · exact fun _ h => absurd h List.not_mem_nil
    · exact List.foldlRecOn (motive := Progress.Digits) _ _ hs fun p hp c _ => hp.pass n _ c

theorem decode?_nil : decode? [] = some [] := by
  rw [decode?]
  simp [place?]

/-- Nothing but ASCII is shown by a text that ends in a hyphen. -/
theorem isAscii_of_decode?_concat {l shown : List Char} (h : decode? (l ++ ['-']) = some shown) :
    ∀ c ∈ shown, c.toNat < 0x80 := by
  have hnone : (l ++ ['-']).reverse.takeWhile (· ≠ '-') = [] := by simp
  simp only [decode?, hnone, List.reverse_nil, Option.ite_none_right_eq_some] at h
  obtain ⟨hascii, hshown⟩ := h
  rw [place?] at hshown
  obtain rfl := Option.some.inj hshown
  exact fun c hc => of_decide_eq_true (List.all_eq_true.mp hascii c hc)

end Punycode

namespace DomainName

variable {l : List Char} {label : Label} {c : Char}

/-! ## Characters -/

/-- Whether a character can be in a label that travels. -/
def travels (c : Char) : Bool := isAscii c && c ≠ '.' && !isForbiddenAscii c

theorem travels_iff : travels c = true ↔
    c.toNat < 0x80 ∧ c ≠ '.' ∧ isForbiddenAscii c = false := by
  simp [travels, isAscii, and_assoc]

theorem isUpper_of_isForbiddenAscii (h : isForbiddenAscii c = false) : c.isUpper = false := by
  simp only [isForbiddenAscii, Bool.or_eq_false_iff] at h
  exact h.2

theorem ne_of_isForbiddenAscii (h : isForbiddenAscii c = false) {d : Char}
    (hd : isForbiddenAscii d = true) : c ≠ d := by
  rintro rfl
  rw [h] at hd
  cases hd

theorem toLower_eq_self (h : c.isUpper = false) : c.toLower = c := by
  refine dif_neg fun hc => ?_
  have hupper : c.isUpper = true := decide_eq_true hc
  rw [h] at hupper
  cases hupper

/-- What travels is its own normal form. -/
theorem normalForm?_of_travels (h : ∀ c ∈ l, travels c = true) : normalForm? l = some l := by
  have hascii : l.all isAscii = true := List.all_eq_true.mpr fun c hc =>
    decide_eq_true (travels_iff.mp (h c hc)).1
  have hlower : l.map Char.toLower = l.map id := List.map_congr_left fun c hc =>
    toLower_eq_self (isUpper_of_isForbiddenAscii (travels_iff.mp (h c hc)).2.2)
  rw [normalForm?, if_pos hascii, hlower, List.map_id]

theorem inPlaceAfter_of_lt {before : List Char} (h : ∀ c ∈ l, c.toNat < 0x80) :
    Joining.inPlaceAfter before l = true := by
  induction l generalizing before with
  | nil => rfl
  | cons c l ih =>
    obtain ⟨hc, hl⟩ := List.forall_mem_cons.mp h
    have hjoiner : c ≠ Joining.joiner ∧ c ≠ Joining.nonJoiner :=
      ⟨fun heq => by rw [heq] at hc; exact absurd hc (by decide),
        fun heq => by rw [heq] at hc; exact absurd hc (by decide)⟩
    simp [Joining.inPlaceAfter, ih hl, hjoiner.1, hjoiner.2]

namespace Label

/-- What travels can be shown. -/
theorem isWellFormed_of_travels (h : ∀ c ∈ l, travels c = true) : isWellFormed l = true := by
  have hany : (l.any fun c => c = '.' || isForbiddenAscii c) = false := by
    refine List.any_eq_false.mpr fun c hc => ?_
    obtain ⟨-, hdot, hforbidden⟩ := travels_iff.mp (h c hc)
    simp [hdot, hforbidden]
  have hhead : l.head?.any Combining.isMark = false := by
    rcases l with _ | ⟨c, l⟩
    · rfl
    · rw [List.head?_cons, Option.any_some]
      exact Combining.isMark_of_lt (travels_iff.mp (h c List.mem_cons_self)).1
  have hjoiners : Joining.joinersInPlace l = true :=
    inPlaceAfter_of_lt fun c hc => (travels_iff.mp (h c hc)).1
  rw [isWellFormed, normalForm?_of_travels h, hany, hhead, hjoiners]
  simp

theorem of_isWellFormed (h : isWellFormed l = true) (hc : c ∈ l) :
    c ≠ '.' ∧ isForbiddenAscii c = false := by
  simp only [isWellFormed, Bool.and_eq_true, Bool.not_eq_true', List.any_eq_false, Bool.or_eq_true,
    not_or, decide_eq_true_eq, Bool.not_eq_true] at h
  exact h.1.1.2 c hc

/-! ## Labels -/

/-- How a label comes about from characters in their normal form. -/
inductive Made (l : List Char) : Label → Prop
  /-- It is in punycode already. -/
  | given {encoded shown : List Char} : l = marker ++ encoded →
      (∀ c ∈ encoded, c.toNat < 0x80 ∧ c.isUpper = false) → encoded.length ≤ maxEncoded →
      decoded? encoded = some shown → Made l ⟨shown, l⟩
  /-- It travels as it is shown. -/
  | plain : marker.isPrefixOf l = false → isWellFormed l = true → (∀ c ∈ l, c.toNat < 0x80) →
      Made l ⟨l, l⟩
  /-- It is put into punycode. -/
  | encoded : isWellFormed l = true → ¬(∀ c ∈ l, c.toNat < 0x80) →
      decoded? (Punycode.encode l) = some l → Made l ⟨l, marker ++ Punycode.encode l⟩

theorem made_of_ofNormalForm? (h : ofNormalForm? l = some label) : Made l label := by
  simp only [ofNormalForm?] at h
  split at h
  · next hmarker =>
    obtain ⟨encoded, rfl⟩ := List.isPrefixOf_iff_prefix.mp hmarker
    rw [List.drop_left] at h
    obtain ⟨hencoded, h⟩ := Option.ite_none_right_eq_some.mp h
    obtain ⟨shown, hshown, rfl⟩ := Option.map_eq_some_iff.mp h
    simp only [Bool.and_eq_true, List.all_eq_true, decide_eq_true_eq, isAscii,
      Bool.not_eq_true'] at hencoded
    exact .given rfl hencoded.1.1 hencoded.1.2 hshown
  · next hmarker =>
    obtain ⟨hwell, h⟩ := Option.ite_none_left_eq_some.mp h
    have hwell : isWellFormed l = true := by simpa using hwell
    split at h
    · next hascii =>
      obtain rfl := Option.some.inj h
      exact .plain (Bool.eq_false_iff.mpr hmarker) hwell fun c hc =>
        of_decide_eq_true (List.all_eq_true.mp hascii c hc)
    · next hascii =>
      obtain ⟨-, h⟩ := Option.ite_none_left_eq_some.mp h
      obtain ⟨hshown, h⟩ := Option.ite_none_right_eq_some.mp h
      obtain rfl := Option.some.inj h
      refine .encoded hwell (fun hall => hascii ?_) hshown
      exact List.all_eq_true.mpr fun c hc => decide_eq_true (hall c hc)

theorem travels_of_isAlphanum (hc : c.isAlphanum = true) (hupper : c.isUpper = false) :
    travels c = true := by
  have hne : ∀ d, d.isAlphanum = false → c ≠ d := by
    rintro d hd rfl
    rw [hc] at hd
    cases hd
  have hascii := (Url.toNat_of_isAlphanum hc).2
  have hamong : Percent.among "%#/:<>?@[\\]^|" c = false := by
    refine Bool.eq_false_iff.mpr fun hmem => ?_
    have hall : ("%#/:<>?@[\\]^|".toList.all fun d => !d.isAlphanum) = true := by decide
    have hc' := List.all_eq_true.mp hall c (List.contains_iff_mem.mp hmem)
    rw [hc] at hc'
    cases hc'
  refine travels_iff.mpr ⟨hascii, hne '.' (by decide), ?_⟩
  rw [isForbiddenAscii, hamong, hupper, decide_eq_false (Char.not_le.mpr (Url.lt_of_isAlphanum hc)),
    decide_eq_false (hne '\x7f' (by decide))]
  rfl

/-- What is behind the marker travels if it is shown as a label. -/
theorem travels_of_decoded? {encoded shown : List Char} (h : decoded? encoded = some shown)
    (hencoded : ∀ c ∈ encoded, c.toNat < 0x80 ∧ c.isUpper = false) :
    ∀ c ∈ marker ++ encoded, travels c = true := by
  obtain ⟨hdecode, hwell⟩ := Option.filter_eq_some_iff.mp h
  refine List.forall_mem_append.mpr ⟨List.all_eq_true.mp (by decide), fun c hc => ?_⟩
  rcases Punycode.mem_of_decode? hdecode hc with hshown | rfl | hdigit
  · obtain ⟨hdot, hforbidden⟩ := of_isWellFormed hwell hshown
    exact travels_iff.mpr ⟨(hencoded c hc).1, hdot, hforbidden⟩
  · decide
  · exact travels_of_isAlphanum (Url.isAlphanum_of_digitValue? hdigit) (hencoded c hc).2

theorem Made.travels (h : Made l label) : ∀ c ∈ label.ascii, travels c = true := by
  cases h with
  | given hl hencoded _ hshown =>
    rw [hl]
    exact travels_of_decoded? hshown hencoded
  | plain _ hwell hascii =>
    intro c hc
    obtain ⟨hdot, hforbidden⟩ := of_isWellFormed hwell hc
    exact travels_iff.mpr ⟨hascii c hc, hdot, hforbidden⟩
  | encoded hwell _ hshown =>
    refine travels_of_decoded? hshown fun c hc => ?_
    rcases Punycode.mem_of_mem_encode hc with ⟨hc, hascii⟩ | rfl | ⟨k, hk, rfl⟩
    · exact ⟨hascii, isUpper_of_isForbiddenAscii (of_isWellFormed hwell hc).2⟩
    · decide
    · exact Punycode.of_digit k hk

/-- A label that does not begin with the marker travels as it is shown. -/
theorem ofNormalForm?_of_travels (h : ∀ c ∈ l, travels c = true)
    (hmarker : marker.isPrefixOf l = false) : ofNormalForm? l = some ⟨l, l⟩ := by
  have hascii : l.all isAscii = true := List.all_eq_true.mpr fun c hc =>
    decide_eq_true (travels_iff.mp (h c hc)).1
  simp [ofNormalForm?, hmarker, isWellFormed_of_travels h, hascii]

/-- Whether a label in punycode is too long to be shown. -/
def isOverlong (l : List Char) : Bool :=
  marker.isPrefixOf l && maxEncoded < (l.drop marker.length).length

/-- A label is read again as the label, unless it has become too long. -/
theorem ofNormalForm?_ascii (h : ofNormalForm? l = some label) :
    ofNormalForm? label.ascii = if isOverlong label.ascii then none else some label := by
  cases made_of_ofNormalForm? h with
  | given heq hencoded hlength hshown =>
    have hshort : isOverlong l = false := by
      rw [isOverlong, heq, List.drop_left, decide_eq_false (Nat.not_lt.mpr hlength), Bool.and_false]
    rw [h, hshort]
    rfl
  | plain hmarker hwell hascii =>
    rw [h, isOverlong, hmarker]
    rfl
  | encoded hwell hascii hshown =>
    have hdecode := (Option.filter_eq_some_iff.mp hshown).1
    have hall : (Punycode.encode l).all (fun c => isAscii c && !c.isUpper) = true := by
      refine List.all_eq_true.mpr fun c hc => ?_
      have htravels := Made.travels (.encoded hwell hascii hshown) c (List.mem_append_right _ hc)
      obtain ⟨hc, -, hforbidden⟩ := travels_iff.mp htravels
      simp [isAscii, hc, isUpper_of_isForbiddenAscii hforbidden]
    have hlast : (Punycode.encode l).getLast?.any (· ≠ '-') = true := by
      rcases List.eq_nil_or_concat' (Punycode.encode l) with hnil | ⟨front, c, hconcat⟩
      · rw [hnil, Punycode.decode?_nil] at hdecode
        obtain rfl := Option.some.inj hdecode
        exact absurd (by simp) hascii
      · rw [hconcat, List.getLast?_concat, Option.any_some, decide_eq_true_iff]
        rintro rfl
        rw [hconcat] at hdecode
        exact hascii (Punycode.isAscii_of_decode?_concat hdecode)
    have hmarker : marker.isPrefixOf (marker ++ Punycode.encode l) = true :=
      List.isPrefixOf_iff_prefix.mpr (List.prefix_append _ _)
    simp only [ofNormalForm?, isOverlong, hmarker, List.drop_left, hall, hlast, hshown, if_true,
      Bool.true_and, Bool.and_true, Option.map_some, decide_eq_true_eq]
    split <;> split
    · omega
    · rfl
    · rfl
    · omega

end Label

/-! ## Names -/

/-- Reading labels that travel. -/
theorem labels?_intercalate {ls : List (List Char)} (hne : ls ≠ [])
    (hls : ∀ l ∈ ls, ∀ c ∈ l, travels c = true) :
    labels? (['.'].intercalate ls) = (ls.mapM Label.ofNormalForm?).bind fun labels =>
      if Direction.agree (labels.map Label.shown) then some labels else none := by
  have hdot : ∀ l ∈ ls, ∀ c ∈ l, decide (c = '.') = false := fun l hl c hc =>
    decide_eq_false (travels_iff.mp (hls l hl c hc)).2.1
  have hnormal : ls.mapM normalForm? = some ls :=
    mapM_eq_some_iff.mpr (List.forall₂_same.mpr fun l hl => normalForm?_of_travels (hls l hl))
  have hpieces : ls.flatMap (pieces (· = '.')) = ls :=
    (List.flatMap_congr fun l hl => pieces_of_forall_not (hdot l hl)).trans
      (List.flatMap_singleton' ls)
  rw [labels?, pieces_intercalate (by decide) hne hdot, hnormal]
  simp only [Option.bind_eq_bind, Option.bind_some, hpieces]

/-- What a name that was read consists of. -/
theorem exists_travels {octets : List UInt8} {name : String} (h : ofOctets? octets = .ok name) :
    ∃ labels : List Label, labels ≠ [] ∧ Direction.agree (labels.map Label.shown) = true ∧
      name.toList = ['.'].intercalate (labels.map Label.ascii) ∧ name.toList ≠ [] ∧
      ∀ label ∈ labels, (∀ c ∈ label.ascii, travels c = true) ∧ Label.ofNormalForm? label.ascii =
        if Label.isOverlong label.ascii then none else some label := by
  obtain ⟨parts, labels, hmap, hagree, hname, hne⟩ := exists_of_ofOctets? h
  refine ⟨labels, ?_, hagree, hname, hne, fun label hlabel => ?_⟩
  · rintro rfl
    exact hne hname
  · obtain ⟨part, -, hpart⟩ := exists_of_mem_mapM hmap hlabel
    exact ⟨(Label.made_of_ofNormalForm? hpart).travels, Label.ofNormalForm?_ascii hpart⟩

/-- A name that was read is read again as the name, unless one of its labels has become too long. -/
theorem ofOctets?_encode {octets : List UInt8} {name : String} (h : ofOctets? octets = .ok name) :
    ofOctets? (Utf8.encode name) =
      if (pieces (· = '.') name.toList).any Label.isOverlong then .error .invalidDomain
      else .ok name := by
  obtain ⟨labels, hlabels, hagree, hname, hne, hlabel⟩ := exists_travels h
  have hmap : labels.map Label.ascii ≠ [] := by simpa using hlabels
  have htravels : ∀ l ∈ labels.map Label.ascii, ∀ c ∈ l, travels c = true :=
    List.forall_mem_map.mpr fun label h => (hlabel label h).1
  have hdot : ∀ l ∈ labels.map Label.ascii, ∀ c ∈ l, decide (c = '.') = false := fun l hl c hc =>
    decide_eq_false (travels_iff.mp (htravels l hl c hc)).2.1
  rw [ofOctets?, Utf8.decode?_encode, Option.bind_some, hname, labels?_intercalate hmap htravels,
    pieces_intercalate (by decide) hmap hdot]
  by_cases hlong : (labels.map Label.ascii).any Label.isOverlong = true
  · have hnone : (labels.map Label.ascii).mapM Label.ofNormalForm? = none := by
      refine Option.eq_none_iff_forall_ne_some.mpr fun shown hshown => ?_
      obtain ⟨l, hl, hl'⟩ := List.any_eq_true.mp hlong
      obtain ⟨label, hmem, rfl⟩ := List.mem_map.mp hl
      obtain ⟨label', hlabel'⟩ := exists_of_forall₂ (mapM_eq_some_iff.mp hshown) _ hl
      rw [(hlabel label hmem).2, hl', if_pos rfl] at hlabel'
      cases hlabel'
    rw [hnone, if_pos hlong]
    rfl
  · have hsome : (labels.map Label.ascii).mapM Label.ofNormalForm? = some labels := by
      rw [mapM_eq_some_iff, List.forall₂_map_left_iff]
      refine List.forall₂_same.mpr fun label hmem => ?_
      have hshort : Label.isOverlong label.ascii = false := by
        refine Bool.eq_false_iff.mpr fun h => hlong (List.any_eq_true.mpr ⟨_, ?_, h⟩)
        exact List.mem_map_of_mem hmem
      rw [(hlabel label hmem).2, hshort]
      rfl
    rw [hsome, if_neg hlong, Option.bind_some, if_pos hagree]
    simp only
    rw [← hname]
    split
    · next hnil => exact absurd hnil hne
    · rw [String.ofList_toList]

theorem travels_of_mem_name {octets : List UInt8} {name : String} (h : ofOctets? octets = .ok name)
    (hc : c ∈ name.toList) : travels c = true ∨ c = '.' := by
  obtain ⟨labels, -, -, hname, -, hlabel⟩ := exists_travels h
  rw [hname] at hc
  rcases mem_of_mem_intercalate hc with hc | ⟨ascii, hascii, hc⟩
  · exact .inr (List.mem_singleton.mp hc)
  · obtain ⟨label, hmem, rfl⟩ := List.mem_map.mp hascii
    exact .inl ((hlabel label hmem).1 c hc)

end DomainName

end EntityHub
