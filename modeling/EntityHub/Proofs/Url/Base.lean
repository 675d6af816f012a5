import EntityHub.Proofs.Url.Authority
import EntityHub.Proofs.Url.Path
/-!
# Texts under HTTP

A text under HTTP is read part by part (`Url.ofText?_append`): what stands in front of the path, the
path, the query and the fragment do not depend on each other. What was read is written in characters
that end none of these parts.
-/

namespace EntityHub

namespace Url

variable {u v : Url} {more : Bool} {a : Authority} {l A : List Char} {c : Char}

/-! ## What was read -/

/-- User name and password are kept in encoded form. -/
def encodedUser (l : List Char) : String := .ofList (Percent.encode Percent.userSet l)

/-- What is read in front of a path under a special scheme. -/
theorem withAuthority?_special (hs : isSpecial u.scheme = true) (more : Bool) (a : Authority) :
    u.withAuthority? more a = if a.host.isEmpty then .error .emptyHost else
      (Host.special? a.host).bind fun host =>
        (a.port.elim (.ok none) (port? u.scheme)).map fun port =>
          { u with
            username := encodedUser (cut (· = ':') (a.credentials.getD [])).1
            password := ((cut (· = ':') (a.credentials.getD [])).2.filter
              fun (p : List Char) => !p.isEmpty).map encodedUser
            host := some host
            port } := by
  unfold withAuthority?
  cases hempty : a.host.isEmpty
  · simp only [hs, Bool.and_false, Bool.false_and, Bool.false_eq_true, if_false, if_true]
    rcases Host.special? a.host with e | host
    · rfl
    · rcases a.port with _ | l
      · rfl
      · simp only [Option.elim_some]
        rcases port? u.scheme l with e | n <;> rfl
  · simp only [hs, Bool.and_true, Bool.true_and, if_true]
    split <;> rfl

theorem exists_of_withAuthority? (hs : isSpecial u.scheme = true)
    (h : u.withAuthority? more a = .ok v) : ∃ host port, a.host ≠ [] ∧
      Host.special? a.host = .ok host ∧
      a.port.elim (.ok none) (port? u.scheme) = .ok port ∧
      v = { u with
        username := encodedUser (cut (· = ':') (a.credentials.getD [])).1
        password := ((cut (· = ':') (a.credentials.getD [])).2.filter
          fun (p : List Char) => !p.isEmpty).map encodedUser
        host := some host
        port } := by
  rw [withAuthority?_special hs] at h
  split at h
  · cases h
  · next hne =>
    obtain ⟨host, hhost, h⟩ := exists_of_bind_eq_ok h
    rcases hport : a.port.elim (.ok none) (port? u.scheme) with e | port <;> rw [hport] at h
    · cases h
    · exact ⟨host, port, by simpa using hne, hhost, hport, (Except.ok.inj h).symm⟩

/-- What is read as a special URL with an authority and a path. -/
theorem exists_of_withHierarchy? (hs : isSpecial u.scheme = true) (h : u.withHierarchy? l = .ok v) :
    ∃ a rest more w, splitAuthority true (l.dropWhile fun c => c = '/' || c = '\\') = (a, rest) ∧
      u.withAuthority? more a = .ok w ∧
      v = { w with path := match rest with
        | [] => .segments [""]
        | _ :: l => .segments (Path.ofText true l) } := by
  simp only [withHierarchy?, hs, if_true] at h
  obtain ⟨w, hw, h⟩ := exists_of_bind_eq_ok h
  exact ⟨_, _, _, w, rfl, hw, (Except.ok.inj h).symm⟩

/-- What a URL of HTTP was read from. -/
theorem exists_of_ofText? {s : String} (h : ofText? s = .ok v)
    (hscheme : v.scheme = "http" ∨ v.scheme = "https") : ∃ rest, ∃ w : Url,
      scheme? (trimmed s) = some (v.scheme, rest) ∧ isSpecial w.scheme = true ∧
      w.withHierarchy? (visible (cut (· = '?') (cut (· = '#') rest).1).1) = .ok v := by
  obtain ⟨scheme, rest, hread, w, hw, hfile | hrest⟩ := ofText?_eq_ok h
  · obtain ⟨rfl, l, hl⟩ := hfile
    rw [scheme_of_withFile? hl, hw] at hscheme
    exact absurd hscheme (by decide)
  · have hsame := (withHierarchy?_eq_ok hrest).1
    rw [← hsame.trans hw] at hread
    exact ⟨rest, w, hread, isSpecial_of_http (hsame ▸ hscheme), hrest⟩

/-- The segments of the path of a URL that was read are settled. -/
theorem settled_of_ofText? {s : String} (h : ofText? s = .ok v)
    (hscheme : v.scheme = "http" ∨ v.scheme = "https") :
    ∃ ls, v.path = .segments ls ∧ ls ≠ [] ∧ ∀ t ∈ ls, Path.Settled t := by
  obtain ⟨rest, w, -, hspecial, hrest⟩ := exists_of_ofText? h hscheme
  obtain ⟨a, path, more, x, -, -, rfl⟩ := exists_of_withHierarchy? hspecial hrest
  rcases path with _ | ⟨c, l⟩
  · exact ⟨[""], rfl, by simp, by simpa using Path.settled_empty⟩
  · exact ⟨_, rfl, Path.ofText_ne_nil true l, Path.forall_settled_ofText l⟩

/-- No character of the query or the fragment of a URL that was read is encoded where it stands. -/
theorem kept_of_ofText? {s : String} (h : ofText? s = .ok v)
    (hscheme : v.scheme = "http" ∨ v.scheme = "https") :
    (∀ q ∈ v.query, ∀ c ∈ q.toList,
      (Percent.isControl c || Percent.specialQuerySet c) = false) ∧
    ∀ f ∈ v.fragment, ∀ c ∈ f.toList, (Percent.isControl c || Percent.fragmentSet c) = false := by
  have hencoded {set : Percent.CharSet} {part : Option (List Char)}
      (hset : ("%0123456789ABCDEF".toList.all fun c => !(Percent.isControl c || set c)) = true) :
      ∀ t ∈ part.map fun l => String.ofList (Percent.encode set (visible l)), ∀ c ∈ t.toList,
        (Percent.isControl c || set c) = false := by
    intro t ht c hc
    obtain ⟨l, -, rfl⟩ := Option.map_eq_some_iff.mp ht
    rw [String.toList_ofList] at hc
    refine Percent.keep_of_mem_encode (fun d hd => ?_) hc
    simpa using Percent.forall_isCode hset d hd
  simp only [ofText?] at h
  split at h
  · next scheme rest hread =>
    split at h
    · next hfile =>
      have hsame : v.scheme = scheme := scheme_of_withFile? h
      rw [hsame, hfile] at hscheme
      exact absurd hscheme (by decide)
    · have hsame : v.scheme = scheme := (withHierarchy?_eq_ok h).1
      have hspecial := isSpecial_of_http (hsame ▸ hscheme)
      obtain ⟨a, rest, more, w, -, hw, rfl⟩ := exists_of_withHierarchy? hspecial h
      obtain ⟨host, port, -, -, -, rfl⟩ := exists_of_withAuthority? hspecial hw
      rw [if_pos hspecial]
      exact ⟨hencoded (by decide), hencoded (by decide)⟩
  · cases h

/-- A character that is kept in some part is not in the set of that part. -/
theorem ne_of_kept {set : Percent.CharSet} (h : (Percent.isControl c || set c) = false) {d : Char}
    (hd : set d = true) : c ≠ d := by
  rintro rfl
  rw [hd, Bool.or_true] at h
  cases h

theorem blank_lt_of_kept {set : Percent.CharSet} (h : (Percent.isControl c || set c) = false)
    (hset : set ' ' = true) : ' ' < c :=
  Percent.blank_lt_of_isControl (Bool.or_eq_false_iff.mp h).1 (ne_of_kept h hset)

/-- Whether a character does not end the part of a URL in front of its path. -/
def isFront (c : Char) : Bool := isInner c || c = '@'

theorem isFront_iff : isFront c = true ↔
    ' ' < c ∧ c ≠ '#' ∧ c ≠ '/' ∧ c ≠ '?' ∧ c ≠ '\\' := by
  rw [isFront, Bool.or_eq_true, isInner_iff, decide_eq_true_iff]
  constructor
  · rintro (⟨hblank, hhash, hslash, hquestion, -, hback⟩ | rfl)
    · exact ⟨hblank, hhash, hslash, hquestion, hback⟩
    · decide
  · rintro ⟨hblank, hhash, hslash, hquestion, hback⟩
    by_cases hat : c = '@'
    · exact .inr hat
    · exact .inl ⟨hblank, hhash, hslash, hquestion, hat, hback⟩

theorem no_slash_of_isFront (h : isFront c = true) : c ≠ '/' ∧ c ≠ '\\' := by
  obtain ⟨-, -, hslash, -, hback⟩ := isFront_iff.mp h
  exact ⟨hslash, hback⟩

theorem isFront_of_isInner (h : isInner c = true) : isFront c = true := by
  rw [isFront, h]
  rfl

theorem isFront_of_mem_encode (h : c ∈ Percent.encode Percent.userSet l) : isFront c = true := by
  rcases Percent.mem_encode h with ⟨hkeep, -⟩ | hcode
  · obtain ⟨hcontrol, hset⟩ := Bool.or_eq_false_iff.mp hkeep
    have hne : ∀ d, Percent.userSet d = true → c ≠ d := by
      rintro d hd rfl
      rw [hset] at hd
      cases hd
    have hblank := Percent.blank_lt_of_isControl hcontrol (hne ' ' rfl)
    exact isFront_iff.mpr ⟨hblank, hne _ rfl, hne _ rfl, hne _ rfl, hne _ rfl⟩
  · have hall : "%0123456789ABCDEF".toList.all isFront = true := by decide
    exact List.all_eq_true.mp hall c (List.contains_iff_mem.mp hcode)

/-- The credentials of a URL that was read. -/
theorem isFront_of_mem_credentials {name : List Char} {password : Option (List Char)}
    (hname : u.username = .ofList (Percent.encode Percent.userSet name))
    (hpassword : u.password = password.map fun l => .ofList (Percent.encode Percent.userSet l))
    (h : c ∈ u.credentials.toList) : isFront c = true := by
  rw [credentials, hname, hpassword] at h
  split at h
  · simp at h
  · rcases password with _ | password
    · have hcases : c ∈ Percent.encode Percent.userSet name ∨ c = '@' := by simpa using h
      rcases hcases with hc | rfl
      · exact isFront_of_mem_encode hc
      · decide
    · have hcases : c ∈ Percent.encode Percent.userSet name ∨ c = ':' ∨
          c ∈ Percent.encode Percent.userSet password ∨ c = '@' := by simpa [or_assoc] using h
      rcases hcases with hc | rfl | hc | rfl
      · exact isFront_of_mem_encode hc
      · decide
      · exact isFront_of_mem_encode hc
      · decide

/-- The text of a URL that was read, in front of its path. -/
theorem exists_authority_of_ofText? {s : String} (h : ofText? s = .ok v)
    (hscheme : v.scheme = "http" ∨ v.scheme = "https") :
    ∃ A, A ≠ [] ∧ (∀ c ∈ A, isFront c = true) ∧ v.authority.toList = "//".toList ++ A := by
  obtain ⟨rest, w, -, hspecial, hrest⟩ := exists_of_ofText? h hscheme
  obtain ⟨a, path, more, x, -, hx, hv⟩ := exists_of_withHierarchy? hspecial hrest
  obtain ⟨-, host, hhost, hread, -, name, password, hname, hpassword⟩ := withAuthority?_eq_ok hx
  obtain ⟨hne, hinner⟩ := Host.isInner_of_special? (hread hspecial)
  have hhost : v.host = some host := by rw [hv, hhost]
  have hname : v.username = .ofList (Percent.encode Percent.userSet name) := by rw [hv, hname]
  have hpassword : v.password =
      password.map fun l => .ofList (Percent.encode Percent.userSet l) := by rw [hv, hpassword]
  obtain ⟨port, hport, hauthority⟩ := exists_toList_authority hhost
  refine ⟨_, ?_, fun c hc => ?_, hauthority⟩
  · exact List.append_ne_nil_of_right_ne_nil _ (List.append_ne_nil_of_left_ne_nil hne _)
  · rcases List.mem_append.mp hc with hc | hc
    · exact isFront_of_mem_credentials hname hpassword hc
    · exact isFront_of_isInner ((List.mem_append.mp hc).elim (hinner c) (hport c))

/-! ## Texts that are read -/

theorem trimmed_eq_self {s : String} {X : List Char} {c d : Char} (hc : ' ' < c) (hd : ' ' < d)
    (hs : s.toList = c :: X ++ [d]) : trimmed s = s.toList := by
  have hkeep : ∀ {a : Char}, ' ' < a → decide (a ≤ ' ') ≠ true := fun ha => by
    rw [decide_eq_false (Char.not_le.mpr ha)]
    exact Bool.false_ne_true
  simp only [trimmed]
  rw [hs, List.cons_append, List.dropWhile_cons_of_neg (p := (· ≤ ' ')) (hkeep hc), ← List.cons_append,
    List.reverse_concat, List.dropWhile_cons_of_neg (p := (· ≤ ' ')) (hkeep hd), List.reverse_cons,
    List.reverse_reverse]

/-- A text under HTTP that does not end in a blank is read up to its end. -/
theorem scheme?_trimmed {s scheme : String} (hscheme : scheme = "http" ∨ scheme = "https")
    {X : List Char} {d : Char} (hd : ' ' < d)
    (hs : s.toList = scheme.toList ++ ':' :: (X ++ [d])) :
    scheme? (trimmed s) = some (scheme, X ++ [d]) := by
  obtain ⟨Y, hY⟩ := exists_toList_of_http hscheme
  rw [trimmed_eq_self (c := 'h') (X := Y ++ ':' :: X) (by decide) hd (by rw [hs, hY]; simp), hs,
    scheme?_of_http hscheme]

theorem mem_of_mem_splitPort {bracketed : Bool}
    (h : c ∈ (splitPort bracketed l).2.getD []) : c ∈ l := by
  induction l generalizing bracketed with
  | nil => simp [splitPort] at h
  | cons d l ih =>
    rw [splitPort] at h
    split at h
    · exact List.mem_cons_of_mem d h
    · exact List.mem_cons_of_mem d (ih h)

theorem mem_of_mem_splitCredentials (h : c ∈ (splitCredentials l).2) : c ∈ l := by
  simp only [splitCredentials] at h
  split at h
  · exact h
  · exact List.mem_reverse.mp ((List.takeWhile_sublist _).mem (List.mem_reverse.mp h))

/-- The path begins with the first slash, and what is in front of it is read as it is by itself. -/
theorem splitAuthority_append (hA : ∀ c ∈ A, isFront c = true) (V : List Char) :
    splitAuthority true (A ++ '/' :: V) = ((splitAuthority true A).1, '/' :: V) := by
  have hslash : ∀ c ∈ A, c ≠ '/' ∧ c ≠ '\\' := fun c hc => no_slash_of_isFront (hA c hc)
  have hself : A.takeWhile (fun c => !(c = '/' || (true && c = '\\'))) = A := by
    refine List.takeWhile_eq_self_iff.mpr fun c hc => ?_
    simp [hslash c hc]
  obtain ⟨htake, hdrop⟩ := span_authority hslash V
  have hextra : ((splitPort false (splitCredentials A).2).2.getD []).dropWhile (· ≠ '\\') = [] := by
    refine List.dropWhile_eq_nil_iff.mpr fun c hc => ?_
    have hmem := mem_of_mem_splitCredentials (mem_of_mem_splitPort hc)
    exact decide_eq_true (hslash c hmem).2
  simp only [splitAuthority, htake, hself, hdrop, hextra]
  rfl

theorem of_isPlain (h : Path.isPlain c = true) : ' ' < c ∧ c ≠ '#' ∧ c ≠ '?' := by
  obtain ⟨hset, -, -⟩ := Path.isPlain_iff.mp h
  have hne : ∀ d, Percent.pathSet d = true → c ≠ d := by
    rintro d hd rfl
    rw [hset] at hd
    cases hd
  have hcontrol : Percent.isControl c = false := by
    simp only [Percent.pathSet, Percent.fragmentSet, Bool.or_eq_false_iff] at hset
    exact hset.1.1
  exact ⟨Percent.blank_lt_of_isControl hcontrol (hne ' ' rfl), hne _ rfl, hne _ rfl⟩

/-- A part of a URL that may be missing, behind its mark. -/
def marked (c : Char) (part : Option (List Char)) : List Char := part.elim [] (c :: ·)

/-- The text of a URL under HTTP: `A` in front of the path, the segments of the path, query and
fragment. -/
def Written (s scheme : String) (A : List Char) (ls : List String) (q f : Option (List Char)) :
    Prop :=
  s.toList = scheme.toList ++ ("://".toList ++ (A ++ ((ls.flatMap fun t => '/' :: t.toList) ++
    (marked '?' q ++ marked '#' f))))

theorem cut_append_marked {X : List Char} (hX : ∀ d ∈ X, d ≠ c) (part : Option (List Char)) :
    cut (· = c) (X ++ marked c part) = (X, part) := by
  have hcut : ∀ d ∈ X, decide (d = c) = false := fun d hd => decide_eq_false (hX d hd)
  cases part with
  | none => rw [marked, Option.elim_none, List.append_nil, cut_of_forall_not hcut]
  | some l => exact cut_append_cons (p := (· = c)) (decide_eq_true rfl) hcut l

theorem mem_marked {part : Option (List Char)} {d : Char} (h : d ∈ marked c part) :
    d = c ∨ ∃ l ∈ part, d ∈ l := by
  cases part with
  | none => cases h
  | some l => exact (List.mem_cons.mp h).imp_right fun hd => ⟨l, rfl, hd⟩

theorem visible_eq_self (h : ∀ d ∈ l, ' ' < d) : visible l = l :=
  List.filter_eq_self.mpr fun d hd => by
    rw [isBreak_of_blank_lt (h d hd)]
    rfl

/-- What is read in front of a path does not depend on what stands behind it. -/
theorem withAuthority?_query (hs : isSpecial u.scheme = true) (more : Bool) (a : Authority)
    (query fragment : Option String) :
    ({ u with query, fragment } : Url).withAuthority? more a =
      (u.withAuthority? more a).map fun w => { w with query, fragment } := by
  rw [withAuthority?_special (u := { u with query, fragment }) hs, withAuthority?_special hs]
  split
  · rfl
  · rcases Host.special? a.host with e | host
    · rfl
    · rcases a.port with _ | l
      · rfl
      · simp only [Except.bind, Option.elim_some]
        rcases port? u.scheme l with e | n <;> rfl

/-- What is read from a text under HTTP with a path. What is in front of the path, in the path and
behind it is read by itself. -/
theorem ofText?_append {s scheme : String} {ls : List String} {q f : Option (List Char)}
    (hscheme : scheme = "http" ∨ scheme = "https") (hne : A ≠ [])
    (hA : ∀ c ∈ A, isFront c = true) (hls : ∀ t ∈ ls, ∀ c ∈ t.toList, Path.isPlain c = true)
    (hlsne : ls ≠ []) (hq : ∀ l ∈ q, ∀ d ∈ l, ' ' < d ∧ d ≠ '#') (hf : ∀ l ∈ f, ∀ d ∈ l, ' ' < d)
    (hs : Written s scheme A ls q f) :
    ofText? s =
      (({ scheme, path := .segments [] } : Url).withAuthority? true (splitAuthority true A).1).map
        fun w => { w with
          path := .segments (Path.settle [] (ls.map String.toList))
          query := q.map fun l => .ofList (Percent.encode Percent.specialQuerySet l)
          fragment := f.map fun l => .ofList (Percent.encode Percent.fragmentSet l) } := by
  obtain ⟨V, hV⟩ : ∃ V, (ls.flatMap fun t => '/' :: t.toList) = '/' :: V := by
    obtain ⟨t, ls, rfl⟩ := List.exists_cons_of_ne_nil hlsne
    exact ⟨_, List.flatMap_cons⟩
  rw [Written, hV] at hs
  have hpath : ∀ c ∈ '/' :: V, ' ' < c ∧ c ≠ '#' ∧ c ≠ '?' := by
    rw [← hV]
    intro c hc
    obtain ⟨t, ht, hc⟩ := List.mem_flatMap.mp hc
    rcases List.mem_cons.mp hc with rfl | hc
    · decide
    · exact of_isPlain (hls t ht c hc)
  have hfront : ∀ c ∈ "//".toList ++ (A ++ '/' :: V), ' ' < c ∧ c ≠ '#' ∧ c ≠ '?' := by
    intro c hc
    have hcases : c = '/' ∨ c ∈ A ∨ c ∈ '/' :: V := by
      rcases List.mem_append.mp hc with hc | hc
      · exact .inl (by simpa using hc)
      · exact .inr (List.mem_append.mp hc)
    rcases hcases with rfl | hc | hc
    · decide
    · obtain ⟨hblank, hhash, -, hquestion, -⟩ := isFront_iff.mp (hA c hc)
      exact ⟨hblank, hhash, hquestion⟩
    · exact hpath c hc
  have htail : ∀ c ∈ marked '?' q ++ marked '#' f, ' ' < c := by
    intro c hc
    rcases List.mem_append.mp hc with hc | hc
    · rcases mem_marked hc with rfl | ⟨l, hl, hc⟩
      · decide
      · exact (hq l hl c hc).1
    · rcases mem_marked hc with rfl | ⟨l, hl, hc⟩
      · decide
      · exact hf l hl c hc
  have htrimmed : scheme? (trimmed s) =
      some (scheme, "//".toList ++ (A ++ '/' :: V) ++ marked '?' q ++ marked '#' f) := by
    have hne' : '/' :: V ++ (marked '?' q ++ marked '#' f) ≠ [] := by simp
    obtain ⟨W, d, hd⟩ : ∃ W d, '/' :: V ++ (marked '?' q ++ marked '#' f) = W ++ [d] :=
      ⟨_, _, (List.dropLast_append_getLast hne').symm⟩
    have hblank : ' ' < d := by
      have hmem : d ∈ '/' :: V ++ (marked '?' q ++ marked '#' f) := by rw [hd]; simp
      exact (List.mem_append.mp hmem).elim (fun h => (hpath d h).1) (htail d)
    have hsplit : "//".toList ++ (A ++ '/' :: V) ++ marked '?' q ++ marked '#' f =
        "//".toList ++ (A ++ W) ++ [d] := by
      have hassoc : "//".toList ++ (A ++ '/' :: V) ++ marked '?' q ++ marked '#' f =
          "//".toList ++ (A ++ ('/' :: V ++ (marked '?' q ++ marked '#' f))) := by simp
      rw [hassoc, hd]
      simp
    rw [hsplit]
    refine scheme?_trimmed hscheme hblank ?_
    rw [hs, ← hsplit]
    simp
  have hdrop := dropWhile_slashes (fun c hc => no_slash_of_isFront (hA c hc)) hne ('/' :: V)
  have hfile : scheme ≠ "file" := by rcases hscheme with rfl | rfl <;> decide
  have hfragment : ∀ c ∈ "//".toList ++ (A ++ '/' :: V) ++ marked '?' q, c ≠ '#' := by
    intro c hc
    rcases List.mem_append.mp hc with hc | hc
    · exact (hfront c hc).2.1
    · rcases mem_marked hc with rfl | ⟨l, hl, hc⟩
      · decide
      · exact (hq l hl c hc).2
  simp only [ofText?, htrimmed]
  rw [cut_append_marked hfragment]
  simp only
  rw [cut_append_marked fun c hc => (hfront c hc).2.2]
  simp only [hfile, if_false, isSpecial_of_http hscheme, if_true]
  rw [visible_eq_self fun c hc => (hfront c hc).1]
  unfold withHierarchy?
  simp only [isSpecial_of_http hscheme, if_true, hdrop, splitAuthority_append hA, 
    List.isEmpty_cons, Bool.not_false, Bool.or_true, Path.ofText_text_segments hls hV]
  have hquery : (q.map fun l => String.ofList (Percent.encode Percent.specialQuerySet (visible l))) =
      q.map fun l => .ofList (Percent.encode Percent.specialQuerySet l) :=
    Option.map_congr fun l hl => by rw [visible_eq_self fun d hd => (hq l hl d hd).1]
  have hfragment : (f.map fun l => String.ofList (Percent.encode Percent.fragmentSet (visible l))) =
      f.map fun l => .ofList (Percent.encode Percent.fragmentSet l) :=
    Option.map_congr fun l hl => by rw [visible_eq_self (hf l hl)]
  rw [hquery, hfragment, withAuthority?_query (u := { scheme, path := .segments [] })
    (isSpecial_of_http hscheme)]
  rcases Url.withAuthority? _ true (splitAuthority true A).1 with e | w <;> rfl

/-- A query and a fragment that are written as they are kept are read as they are. -/
theorem ofText?_kept {s scheme : String} {ls : List String} {q f : Option String}
    (hscheme : scheme = "http" ∨ scheme = "https") (hne : A ≠ [])
    (hA : ∀ c ∈ A, isFront c = true) (hls : ∀ t ∈ ls, ∀ c ∈ t.toList, Path.isPlain c = true)
    (hlsne : ls ≠ [])
    (hq : ∀ t ∈ q, ∀ d ∈ t.toList, (Percent.isControl d || Percent.specialQuerySet d) = false)
    (hf : ∀ t ∈ f, ∀ d ∈ t.toList, (Percent.isControl d || Percent.fragmentSet d) = false)
    (hs : Written s scheme A ls (q.map String.toList) (f.map String.toList)) :
    ofText? s =
      (({ scheme, path := .segments [] } : Url).withAuthority? true (splitAuthority true A).1).map
        fun w => { w with
          path := .segments (Path.settle [] (ls.map String.toList)), query := q, fragment := f } := by
  have hencode {set : Percent.CharSet} {part : Option String}
      (h : ∀ t ∈ part, ∀ d ∈ t.toList, (Percent.isControl d || set d) = false) :
      ((part.map String.toList).map fun l => String.ofList (Percent.encode set l)) = part := by
    rcases part with _ | t
    · rfl
    · simp only [Option.map_some, Percent.encode_eq_self (h t rfl), String.ofList_toList]
  rw [ofText?_append hscheme hne hA hls hlsne ?_ ?_ hs, hencode hq, hencode hf]
  · intro l hl d hd
    obtain ⟨t, ht, rfl⟩ := Option.map_eq_some_iff.mp hl
    exact ⟨blank_lt_of_kept (hq t ht d hd) rfl, ne_of_kept (hq t ht d hd) rfl⟩
  · intro l hl d hd
    obtain ⟨t, ht, rfl⟩ := Option.map_eq_some_iff.mp hl
    exact blank_lt_of_kept (hf t ht d hd) rfl

end Url

end EntityHub
