import EntityHub.Proofs.Text.Split
import EntityHub.Proofs.Url.Percent
import EntityHub.Url.Path
import Mathlib.Data.List.DropRight
/-!
# Paths that were read

The segments of a path that was read are settled (`Url.Path.Settled`): they are no dots and are
written as they are. So they are read again as they are, also with more segments behind them
(`Url.Path.settle_settled`). A text encoded as a segment is settled as well, unless it is one dot or
two dots (`Url.Path.settled_percentSegment`): dots are written as dots.
-/

namespace EntityHub

namespace Url.Path

open Percent (encode encodeChar encodeOctet pathSet segmentSet isControl)

variable {l : List Char} {c : Char}

/-! ## Dots -/

theorem dots_cons_of_ne (hc : c ≠ '%') (l : List Char) : dots (c :: l) = c :: dots l := by
  rw [dots]
  · intro _ h
    exact absurd h hc
  · intro _ h
    exact absurd h hc

/-- An octet in encoded form is no dot, unless it is that of the dot. -/
theorem dots_encodeOctet_append {b : UInt8} (hb : b ≠ 0x2E) (l : List Char) :
    dots (encodeOctet b ++ l) = encodeOctet b ++ dots l := by
  have hlt := b.toNat_lt
  have hhigh : b.toNat / 16 < 16 := by omega
  have hlow : b.toNat % 16 < 16 := by omega
  have hdigits : ∀ d, d = 'e' ∨ d = 'E' → Percent.digit (b.toNat / 16) = '2' →
      Percent.digit (b.toNat % 16) ≠ d := by
    intro d hd htwo heq
    have h₁ := Percent.eq_of_digit_eq_two _ hhigh htwo
    have h₂ := Percent.eq_of_digit_eq_e _ hlow (by rwa [heq])
    exact hb (UInt8.toNat_inj.mp (show b.toNat = 0x2E by omega))
  have hmark : dots ('%' :: Percent.digit (b.toNat / 16) :: Percent.digit (b.toNat % 16) :: l) =
      '%' :: dots (Percent.digit (b.toNat / 16) :: Percent.digit (b.toNat % 16) :: l) := by
    rw [dots]
    · rintro l' - h
      simp only [List.cons.injEq] at h
      exact hdigits 'e' (.inl rfl) h.1 h.2.1
    · rintro l' - h
      simp only [List.cons.injEq] at h
      exact hdigits 'E' (.inr rfl) h.1 h.2.1
  simp only [encodeOctet, List.cons_append, List.nil_append, hmark,
    dots_cons_of_ne (Percent.digit_ne_percent _ hhigh),
    dots_cons_of_ne (Percent.digit_ne_percent _ hlow)]

theorem dots_octets_append {bs : List UInt8} (hbs : 0x2E ∉ bs) (l : List Char) :
    dots (bs.flatMap encodeOctet ++ l) = bs.flatMap encodeOctet ++ dots l := by
  induction bs with
  | nil => rfl
  | cons b bs ih =>
    obtain ⟨hb, hbs⟩ := not_or.mp (mt List.mem_cons.mpr hbs)
    rw [List.flatMap_cons, List.append_assoc, dots_encodeOctet_append (Ne.symm hb), ih hbs,
      List.append_assoc]

theorem dots_encodeChar_append {set : Percent.CharSet} (hset : set '.' = false)
    (hc : (isControl c || set c) = true) (l : List Char) :
    dots (encodeChar set c ++ l) = encodeChar set c ++ dots l := by
  have hdot : 0x2E ∉ Utf8.encodeChar c := by
    intro hmem
    obtain rfl := Utf8.eq_of_mem_encodeChar hmem
    rw [hset] at hc
    exact absurd hc (by decide)
  rw [Percent.encodeChar_of_encode hc, dots_octets_append hdot]

/-- Encoding makes no dots. -/
theorem dots_encode_pathSet (l : List Char) : dots (encode pathSet l) = encode pathSet (dots l) := by
  induction l using dots.induct with
  | case1 l ih | case2 l ih =>
    rw [dots]
    exact congrArg (List.cons '.') ih
  | case3 c l hlower hupper ih =>
    have hsplit : ∀ {d m}, d ≠ '%' → encode pathSet l = '2' :: d :: m → ∃ l', l = '2' :: d :: l' := by
      intro d m hd h
      obtain ⟨l₁, rfl, h₁⟩ := Percent.exists_of_encode_eq_cons (by decide) h
      obtain ⟨l₂, rfl, -⟩ := Percent.exists_of_encode_eq_cons hd h₁
      exact ⟨l₂, rfl⟩
    rw [dots, Percent.encode_cons, Percent.encode_cons, ← ih]
    · by_cases hc : (isControl c || pathSet c) = true
      · exact dots_encodeChar_append rfl hc _
      · rw [Percent.encodeChar_of_keep (Bool.eq_false_iff.mpr hc), List.singleton_append, dots]
        · rfl
        · intro m hc h
          obtain ⟨l', hl'⟩ := hsplit (by decide) h
          exact hlower l' hc hl'
        · intro m hc h
          obtain ⟨l', hl'⟩ := hsplit (by decide) h
          exact hupper l' hc hl'
    · exact hlower
    · exact hupper
  | case4 => rfl

/-- In a text encoded as a segment no dot is in encoded form. -/
theorem dots_encode_segmentSet (l : List Char) :
    dots (encode segmentSet l) = encode segmentSet l := by
  induction l with
  | nil => rfl
  | cons c l ih =>
    rw [Percent.encode_cons]
    by_cases hc : (isControl c || segmentSet c) = true
    · rw [dots_encodeChar_append rfl hc, ih]
    · have hkeep := Bool.eq_false_iff.mpr hc
      have hmark : c ≠ '%' := by
        rintro rfl
        exact absurd hkeep (by decide)
      rw [Percent.encodeChar_of_keep hkeep, List.singleton_append, dots_cons_of_ne hmark, ih]

theorem isSingleDot_encode (l : List Char) : isSingleDot (encode pathSet l) = isSingleDot l := by
  have hiff : encode pathSet (dots l) = ['.'] ↔ dots l = ['.'] :=
    ⟨Percent.eq_of_encode_eq (by decide), fun h => by rw [h]; rfl⟩
  simp only [isSingleDot, dots_encode_pathSet, hiff]

theorem isDoubleDot_encode (l : List Char) : isDoubleDot (encode pathSet l) = isDoubleDot l := by
  have hiff : encode pathSet (dots l) = ['.', '.'] ↔ dots l = ['.', '.'] :=
    ⟨Percent.eq_of_encode_eq (by decide), fun h => by rw [h]; rfl⟩
  simp only [isDoubleDot, dots_encode_pathSet, hiff]

/-! ## Settled segments -/

/-- Whether a character stands in a path as itself and parts no segments. -/
def isPlain (c : Char) : Bool := !(pathSet c || c = '/' || c = '\\')

theorem isPlain_iff : isPlain c = true ↔ pathSet c = false ∧ c ≠ '/' ∧ c ≠ '\\' := by
  simp [isPlain, and_assoc]

/-- A segment of a path that was read. -/
structure Settled (s : String) : Prop where
  plain : ∀ c ∈ s.toList, isPlain c = true
  notSingle : isSingleDot s.toList = false
  notDouble : isDoubleDot s.toList = false

theorem settled_empty : Settled "" :=
  ⟨by simp, rfl, rfl⟩

theorem settled_of_all {s : String} (hplain : s.toList.all isPlain = true)
    (hsingle : isSingleDot s.toList = false) (hdouble : isDoubleDot s.toList = false) : Settled s :=
  ⟨List.all_eq_true.mp hplain, hsingle, hdouble⟩

theorem isPlain_of_isCode (h : Percent.isCode c = true) : isPlain c = true := by
  have hall : "%0123456789ABCDEF".toList.all isPlain = true := by decide
  exact List.all_eq_true.mp hall c (List.contains_iff_mem.mp h)

/-- What a text between two slashes is kept as, unless it is dots. -/
theorem settled_segment (hl : ∀ c ∈ l, c ≠ '/' ∧ c ≠ '\\') (hsingle : isSingleDot l = false)
    (hdouble : isDoubleDot l = false) : Settled (segment l) where
  plain := by
    intro c hc
    rw [segment, String.toList_ofList] at hc
    rcases Percent.mem_encode hc with ⟨hkeep, hc⟩ | hc
    · obtain ⟨hslash, hback⟩ := hl c hc
      exact isPlain_iff.mpr ⟨(Bool.or_eq_false_iff.mp hkeep).2, hslash, hback⟩
    · exact isPlain_of_isCode hc
  notSingle := by rw [segment, String.toList_ofList, isSingleDot_encode, hsingle]
  notDouble := by rw [segment, String.toList_ofList, isDoubleDot_encode, hdouble]

/-- A settled segment is kept as it is. -/
theorem Settled.segment_eq {s : String} (h : Settled s) : segment s.toList = s := by
  have hplain : ∀ c ∈ s.toList, (isControl c || pathSet c) = false := by
    intro c hc
    have hset := (isPlain_iff.mp (h.plain c hc)).1
    rw [hset, Bool.or_false]
    simp only [pathSet, Percent.fragmentSet, Bool.or_eq_false_iff] at hset
    exact hset.1.1
  rw [segment, Percent.encode_eq_self hplain, String.ofList_toList]

theorem forall_settled_shorten {before : List String} (h : ∀ s ∈ before, Settled s) :
    ∀ s ∈ shorten before, Settled s := by
  rcases before with _ | ⟨s, before⟩
  · exact h
  · rw [shorten]
    split
    · exact h
    · exact (List.forall_mem_cons.mp h).2

theorem forall_settled_step {before : List String} (h : ∀ s ∈ before, Settled s)
    (hl : ∀ c ∈ l, c ≠ '/' ∧ c ≠ '\\') (isLast : Bool) :
    ∀ s ∈ step before l isLast, Settled s := by
  rw [step]
  split
  · next hdots =>
    simp only [Bool.and_eq_true, Bool.not_eq_true'] at hdots
    exact List.forall_mem_cons.mpr ⟨settled_segment hl hdots.2 hdots.1, h⟩
  · have hbefore : ∀ s ∈ if isDoubleDot l = true then shorten before else before, Settled s := by
      split
      · exact forall_settled_shorten h
      · exact h
    simp only
    split
    · exact List.forall_mem_cons.mpr ⟨settled_empty, hbefore⟩
    · exact hbefore

theorem forall_settled_settle {before : List String} {ls : List (List Char)}
    (h : ∀ s ∈ before, Settled s) (hls : ∀ l ∈ ls, ∀ c ∈ l, c ≠ '/' ∧ c ≠ '\\') :
    ∀ s ∈ settle before ls, Settled s := by
  induction ls generalizing before with
  | nil =>
    intro s hs
    exact h s (List.mem_reverse.mp hs)
  | cons l ls ih =>
    obtain ⟨hl, hls⟩ := List.forall_mem_cons.mp hls
    exact ih (forall_settled_step h hl ls.isEmpty) hls

/-- The segments of a path that was read are settled. -/
theorem forall_settled_ofText (l : List Char) : ∀ s ∈ ofText true l, Settled s := by
  refine forall_settled_settle (by simp) fun piece hpiece c hc => ?_
  have hslash := forall_mem_pieces _ l piece hpiece c hc
  simpa using hslash

/-! ## Paths with more behind them -/

/-- Settled segments are read as they are, whatever comes behind them. -/
theorem settle_settled {ls : List String} (hls : ∀ s ∈ ls, Settled s) (before : List String)
    (rest : List (List Char)) : settle before (ls.map String.toList ++ rest) =
      settle (ls.reverse ++ before) rest := by
  induction ls generalizing before with
  | nil => rfl
  | cons s ls ih =>
    obtain ⟨hs, hls⟩ := List.forall_mem_cons.mp hls
    have hstep : ∀ isLast, step before s.toList isLast = s :: before := by
      intro isLast
      rw [step, hs.notSingle, hs.notDouble, hs.segment_eq]
      rfl
    rw [List.map_cons, List.cons_append, settle, hstep, ih hls, List.reverse_cons,
      List.append_assoc, List.singleton_append]

theorem settle_of_settled {ls : List String} (hls : ∀ s ∈ ls, Settled s) :
    settle [] (ls.map String.toList) = ls := by
  have h := settle_settled hls [] []
  rw [List.append_nil, List.append_nil, settle, List.reverse_reverse] at h
  exact h

section Dots

variable {ls back : List String}

/-- One dot in front of more segments stands for nothing. -/
theorem settle_singleDot (hls : ∀ s ∈ ls, Settled s) (hback : ∀ s ∈ back, Settled s)
    (hne : back ≠ []) : settle [] ((ls ++ "." :: back).map String.toList) = ls ++ back := by
  obtain ⟨s, back, rfl⟩ := List.exists_cons_of_ne_nil hne
  have hdot : ∀ before, step before ".".toList false = before := fun _ => rfl
  rw [List.map_append, settle_settled hls, List.map_cons, settle, List.map_cons,
    List.isEmpty_cons, hdot, ← List.map_cons, ← settle_settled hls, ← List.map_append]
  exact settle_of_settled fun t ht => (List.mem_append.mp ht).elim (hls t) (hback t)

/-- Two dots in front of more segments take back the segment before them. -/
theorem settle_doubleDot {s : String} (hls : ∀ t ∈ ls ++ [s], Settled t)
    (hback : ∀ t ∈ back, Settled t) (hne : back ≠ []) (hs : stays s = false) :
    settle [] ((ls ++ [s] ++ ".." :: back).map String.toList) = ls ++ back := by
  obtain ⟨t, back, rfl⟩ := List.exists_cons_of_ne_nil hne
  have hdots : ∀ before, step (s :: before) "..".toList false = before := by
    intro before
    have hstep : step (s :: before) "..".toList false = shorten (s :: before) := rfl
    rw [hstep, shorten, hs]
    rfl
  have hls' : ∀ t ∈ ls, Settled t := fun t ht => hls t (List.mem_append_left [s] ht)
  rw [List.map_append, settle_settled hls, List.map_cons, settle, List.map_cons,
    List.isEmpty_cons, List.reverse_concat, List.cons_append, hdots, ← List.map_cons,
    ← settle_settled hls', ← List.map_append]
  exact settle_of_settled fun u hu => (List.mem_append.mp hu).elim (hls' u) (hback u)

end Dots

/-! ## Names as segments -/

/-- A text encoded as a segment has no character that would part or end it. -/
theorem isPlain_of_mem_segment {name : String} (h : c ∈ (Percent.segment name).toList) :
    isPlain c = true := by
  rw [Percent.segment, String.toList_ofList] at h
  rcases Percent.mem_encode h with ⟨hkeep, -⟩ | hcode
  · obtain ⟨hcontrol, hset⟩ := Bool.or_eq_false_iff.mp hkeep
    by_contra hplain
    have hmem : c ∈ " \"<>`#?\x7b\x7d/\\".toList := by
      simp [isPlain, pathSet, Percent.fragmentSet, Percent.among, hcontrol] at hplain ⊢
      tauto
    have hall : " \"<>`#?\x7b\x7d/\\".toList.all segmentSet = true := by decide
    rw [List.all_eq_true.mp hall c hmem] at hset
    cases hset
  · exact isPlain_of_isCode hcode

/-- A name encoded as a segment is settled, unless it is one dot or two dots. -/
theorem settled_percentSegment {name : String} (hsingle : name ≠ ".") (hdouble : name ≠ "..") :
    Settled (Percent.segment name) where
  plain := fun _ => isPlain_of_mem_segment
  notSingle := by
    rw [isSingleDot, Percent.segment, String.toList_ofList, dots_encode_segmentSet]
    exact decide_eq_false fun h =>
      hsingle (String.toList_inj.mp (Percent.eq_of_encode_eq (by decide) h))
  notDouble := by
    rw [isDoubleDot, Percent.segment, String.toList_ofList, dots_encode_segmentSet]
    exact decide_eq_false fun h =>
      hdouble (String.toList_inj.mp (Percent.eq_of_encode_eq (by decide) h))

/-! ## Texts of paths -/

theorem toList_text_segments (ls : List String) :
    (segments ls).text.toList = ls.flatMap fun s => '/' :: s.toList := by
  induction ls with
  | nil => rfl
  | cons s ls ih =>
    rw [text, List.map_cons, String.join_cons, String.toList_append, ← text, ih]
    simp

/-- The segments between the slashes of the text of a path. -/
theorem pieces_text_segments {ls : List String} (hls : ∀ s ∈ ls, ∀ c ∈ s.toList, isPlain c = true) :
    pieces (fun c => c = '/' || (true && c = '\\')) (ls.flatMap fun s => '/' :: s.toList) =
      [] :: ls.map String.toList := by
  induction ls with
  | nil => rfl
  | cons s ls ih =>
    obtain ⟨hs, hls⟩ := List.forall_mem_cons.mp hls
    have hsplit : ∀ c ∈ s.toList, (decide (c = '/') || (true && decide (c = '\\'))) = false := by
      intro c hc
      obtain ⟨-, hslash, hback⟩ := isPlain_iff.mp (hs c hc)
      simp [hslash, hback]
    rw [List.flatMap_cons, List.cons_append, pieces, if_pos (by simp),
      pieces_append hsplit (ih hls), List.append_nil, List.map_cons]

theorem ofText_text_segments {ls : List String} (hls : ∀ s ∈ ls, ∀ c ∈ s.toList, isPlain c = true)
    {V : List Char} (hV : (ls.flatMap fun s => '/' :: s.toList) = '/' :: V) :
    ofText true V = settle [] (ls.map String.toList) := by
  have hpieces := pieces_text_segments hls
  rw [hV, pieces, if_pos (by simp)] at hpieces
  rw [ofText, (List.cons.inj hpieces).2]

/-- Without the slashes at its end a path lacks the empty segments at its end. -/
theorem rdropWhile_text_segments {ls : List String}
    (hls : ∀ s ∈ ls, ∀ c ∈ s.toList, isPlain c = true) {X : List Char}
    (hX : X.rdropWhile (· = '/') = X) :
    (X ++ ls.flatMap fun s => '/' :: s.toList).rdropWhile (· = '/') =
      X ++ (ls.rdropWhile (· = "")).flatMap fun s => '/' :: s.toList := by
  induction ls using List.reverseRecOn with
  | nil => simpa using hX
  | append_singleton ls s ih =>
    have hls' : ∀ t ∈ ls, ∀ c ∈ t.toList, isPlain c = true := fun t ht =>
      hls t (List.mem_append_left [s] ht)
    rw [List.flatMap_append, List.flatMap_singleton]
    by_cases hs : s = ""
    · subst hs
      have hslash : '/' :: "".toList = ['/'] := rfl
      rw [hslash, ← List.append_assoc, List.rdropWhile_concat_pos _ _ '/' (by simp),
        List.rdropWhile_concat_pos _ _ "" (by simp), ih hls']
    · have hne : s.toList ≠ [] := mt String.toList_eq_nil_iff.mp hs
      obtain ⟨t, d, htd⟩ : ∃ t d, s.toList = t ++ [d] :=
        ⟨_, _, (List.dropLast_append_getLast hne).symm⟩
      have hd : d ≠ '/' := (isPlain_iff.mp (hls s (by simp) d (by simp [htd]))).2.1
      rw [List.rdropWhile_concat_neg _ _ _ (by simpa using hs), List.flatMap_append,
        List.flatMap_singleton, htd, ← List.cons_append, ← List.append_assoc, ← List.append_assoc,
        List.rdropWhile_concat_neg _ _ _ (by simpa using hd)]

end Url.Path

end EntityHub
