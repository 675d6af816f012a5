import EntityHub.Client.Options
import EntityHub.Proofs.Url.Host
import Mathlib.Data.List.Induction
import Mathlib.Data.List.TakeWhile
/-!
# URLs below an address

A URL that was read with a special scheme has a host and a path (`Url.housed_of_ofText?`). If it
names no user, neither does a URL that is read from its text with a path behind it, whatever the
path has in it: the host ends before the path, so no `@` of the path can part a user from the host
(`Client.credentials_of_requestUrl`).
-/

namespace EntityHub

namespace Url

variable {u v : Url} {more : Bool} {a : Authority} {l : List Char}

theorem withAuthority?_eq_ok (h : u.withAuthority? more a = .ok v) :
    v.scheme = u.scheme ∧ ∃ host, v.host = some host ∧
      (isSpecial u.scheme = true → Host.special? a.host = .ok host) ∧
      (a.credentials = none → v.username = "" ∧ v.password = none) ∧
      ∃ (name : List Char) (password : Option (List Char)),
        v.username = .ofList (Percent.encode Percent.userSet name) ∧
        v.password = password.map fun l => .ofList (Percent.encode Percent.userSet l) := by
  simp only [withAuthority?] at h
  split at h
  · cases h
  · split at h
    · cases h
    · split at h <;> rename_i hs
      all_goals
        obtain ⟨host, hhost, h⟩ := exists_of_bind_eq_ok h
        have hspecial : isSpecial u.scheme = true → Host.special? a.host = .ok host := by
          intro hs'
          first
          | exact hhost
          | exact absurd hs' hs
        split at h
        · cases h
        · split at h
          · obtain ⟨port, -, h⟩ := exists_of_bind_eq_ok h
            obtain rfl := Except.ok.inj h
            exact ⟨rfl, host, rfl, hspecial, fun ha => by rw [ha]; exact ⟨rfl, rfl⟩, _, _, rfl, rfl⟩
          · obtain rfl := Except.ok.inj h
            exact ⟨rfl, host, rfl, hspecial, fun ha => by rw [ha]; exact ⟨rfl, rfl⟩, _, _, rfl, rfl⟩

theorem Path.settle_ne_nil (before : List String) (s : List Char) (rest : List (List Char)) :
    Path.settle before (s :: rest) ≠ [] := by
  induction rest generalizing before s with
  | nil =>
    simp only [Path.settle, Path.step, List.isEmpty_nil, if_true]
    split <;> simp
  | cons s' rest ih => exact ih _ s'

theorem Path.ofText_ne_nil (special : Bool) (l : List Char) : Path.ofText special l ≠ [] := by
  rw [Path.ofText]
  rcases hpieces : pieces (fun c => c = '/' || (special && c = '\\')) l with _ | ⟨s, rest⟩
  · exact absurd hpieces (pieces_ne_nil _ _)
  · exact Path.settle_ne_nil [] s rest

/-- What a URL with a special scheme is made of. -/
structure Housed (u : Url) : Prop where
  host : ∃ host, u.host = some host ∧ host.text.toList ≠ [] ∧
    ∀ c ∈ host.text.toList, isInner c = true
  path : ∃ s l, u.path = .segments (s :: l)

theorem withHierarchy?_eq_ok (h : u.withHierarchy? l = .ok v) :
    v.scheme = u.scheme ∧ (isSpecial u.scheme = true → v.Housed ∧
      ((splitAuthority true (l.dropWhile fun c => c = '/' || c = '\\')).1.credentials = none →
        v.username = "" ∧ v.password = none)) := by
  simp only [withHierarchy?] at h
  split at h
  · obtain ⟨w, hw, h⟩ := exists_of_bind_eq_ok h
    obtain rfl := Except.ok.inj h
    obtain ⟨hscheme, host, hhost, hspecial, hcredentials, -⟩ := withAuthority?_eq_ok hw
    refine ⟨hscheme, fun hs =>
      ⟨⟨⟨host, hhost, Host.isInner_of_special? (hspecial hs)⟩, ?_⟩, hcredentials⟩⟩
    simp only
    split
    · exact ⟨"", [], rfl⟩
    · obtain ⟨s, l, hl⟩ := List.exists_cons_of_ne_nil (Path.ofText_ne_nil _ _)
      exact ⟨s, l, congrArg Path.segments hl⟩
  · next hs =>
    refine ⟨?_, fun h => absurd h hs⟩
    split at h
    · obtain ⟨w, hw, h⟩ := exists_of_bind_eq_ok h
      obtain rfl := Except.ok.inj h
      exact (withAuthority?_eq_ok hw).1
    · obtain rfl := Except.ok.inj h
      rfl
    · obtain rfl := Except.ok.inj h
      rfl

theorem scheme_of_withFile? (h : u.withFile? l = .ok v) : v.scheme = u.scheme := by
  simp only [withFile?] at h
  split at h
  · split at h
    · split at h
      · obtain rfl := Except.ok.inj h
        rfl
      · obtain ⟨host, -, h⟩ := exists_of_bind_eq_ok h
        obtain rfl := Except.ok.inj h
        rfl
    · obtain rfl := Except.ok.inj h
      rfl
  · obtain rfl := Except.ok.inj h
    rfl

section Http

variable {scheme : String} (h : scheme = "http" ∨ scheme = "https")

include h

theorem isSpecial_of_http : isSpecial scheme = true := by
  rcases h with rfl | rfl <;> decide

theorem scheme?_of_http (rest : List Char) :
    scheme? (scheme.toList ++ ':' :: rest) = some (scheme, rest) := by
  rcases h with rfl | rfl <;> rfl

theorem exists_toList_of_http : ∃ X, scheme.toList = 'h' :: X := by
  rcases h with rfl | rfl <;> exact ⟨_, rfl⟩

end Http

/-- Dropping from the end stops at an element without `p`. -/
theorem exists_rstrip_append (p : Char → Bool) (X Y : List Char) {d : Char} (hd : p d = false) :
    ∃ Z, Z <+: Y ∧ ((X ++ d :: Y).reverse.dropWhile p).reverse = X ++ d :: Z := by
  induction Y using List.reverseRecOn with
  | nil =>
    refine ⟨[], List.prefix_refl _, ?_⟩
    rw [List.reverse_append, List.reverse_cons, List.reverse_nil, List.nil_append,
      List.singleton_append, List.dropWhile_cons_of_neg (by rw [hd]; exact Bool.false_ne_true),
      List.reverse_cons, List.reverse_reverse]
  | append_singleton Y y ih =>
    have hreverse : (X ++ d :: (Y ++ [y])).reverse = y :: (X ++ d :: Y).reverse := by simp
    rw [hreverse]
    by_cases hy : p y = true
    · obtain ⟨Z, hZ, hstrip⟩ := ih
      refine ⟨Z, hZ.trans (List.prefix_append Y [y]), ?_⟩
      rw [List.dropWhile_cons_of_pos hy, hstrip]
    · refine ⟨Y ++ [y], List.prefix_refl _, ?_⟩
      rw [List.dropWhile_cons_of_neg hy, ← hreverse, List.reverse_reverse]

/-- Only what stands behind the last mark is trimmed. -/
theorem exists_trimmed_append {s : String} {X V : List Char} {c d : Char} (hc : ' ' < c)
    (hd : ' ' < d) (hs : s.toList = c :: X ++ d :: V) : ∃ V', trimmed s = c :: X ++ d :: V' := by
  have hkeep : ∀ {a : Char}, ' ' < a → decide (a ≤ ' ') = false := fun ha =>
    decide_eq_false (Char.not_le.mpr ha)
  obtain ⟨V', -, hV'⟩ := exists_rstrip_append (· ≤ ' ') (c :: X) V (hkeep hd)
  refine ⟨V', ?_⟩
  simp only [trimmed]
  rw [hs, List.cons_append,
    List.dropWhile_cons_of_neg (by rw [hkeep hc]; exact Bool.false_ne_true), ← List.cons_append]
  exact hV'

theorem exists_cut_append (p : Char → Bool) {X V : List Char} (hX : ∀ c ∈ X, p c = false) :
    ∃ V', (cut p (X ++ V)).1 = X ++ V' := by
  induction X with
  | nil => exact ⟨_, rfl⟩
  | cons c X ih =>
    obtain ⟨V', hV'⟩ := ih fun c hc => hX c (List.mem_cons_of_mem _ hc)
    refine ⟨V', ?_⟩
    rw [List.cons_append, cut, if_neg (by simp [hX c List.mem_cons_self])]
    exact congrArg (c :: ·) hV'

theorem splitCredentials_of_notMem (h : '@' ∉ l) : splitCredentials l = (none, l) := by
  have hall : l.reverse.takeWhile (· ≠ '@') = l.reverse := by
    rw [List.takeWhile_eq_self_iff]
    intro c hc
    rw [List.mem_reverse] at hc
    exact decide_eq_true fun heq => h (heq ▸ hc)
  rw [splitCredentials, hall, List.reverse_reverse]
  exact if_pos rfl

section Slashes

variable {A : List Char} (hA : ∀ c ∈ A, c ≠ '/' ∧ c ≠ '\\')

include hA

/-- The slashes in front of an authority end where it begins. -/
theorem dropWhile_slashes (hne : A ≠ []) (V : List Char) :
    ("//".toList ++ (A ++ V)).dropWhile (fun c => c = '/' || c = '\\') = A ++ V := by
  obtain ⟨a, A, rfl⟩ := List.exists_cons_of_ne_nil hne
  obtain ⟨hslash, hback⟩ := hA a List.mem_cons_self
  have hslashes : "//".toList ++ (a :: A ++ V) = '/' :: '/' :: (a :: A ++ V) := rfl
  rw [hslashes, List.dropWhile_cons_of_pos (by decide), List.dropWhile_cons_of_pos (by decide),
    List.cons_append, List.dropWhile_cons_of_neg (by simp [hslash, hback])]

/-- An authority ends where a path begins. -/
theorem span_authority (V : List Char) :
    (A ++ '/' :: V).takeWhile (fun c => !(c = '/' || (true && c = '\\'))) = A ∧
      (A ++ '/' :: V).dropWhile (fun c => !(c = '/' || (true && c = '\\'))) = '/' :: V := by
  have hinside : ∀ c ∈ A, (!(c = '/' || (true && c = '\\'))) = true := by
    intro c hc
    obtain ⟨hslash, hback⟩ := hA c hc
    simp [hslash, hback]
  rw [List.takeWhile_append_of_pos hinside, List.takeWhile_cons_of_neg (by decide),
    List.append_nil, List.dropWhile_append_of_pos hinside, List.dropWhile_cons_of_neg (by decide)]
  exact ⟨rfl, rfl⟩

end Slashes

theorem no_slash_of_isInner {c : Char} (h : isInner c = true) : c ≠ '/' ∧ c ≠ '\\' := by
  obtain ⟨-, -, hslash, -, -, hback⟩ := isInner_iff.mp h
  exact ⟨hslash, hback⟩

theorem splitAuthority_credentials {A : List Char} (hA : ∀ c ∈ A, isInner c = true)
    (V : List Char) : (splitAuthority true (A ++ '/' :: V)).1.credentials = none := by
  have hat : '@' ∉ A := fun hmem => (isInner_iff.mp (hA '@' hmem)).2.2.2.2.1 rfl
  simp only [splitAuthority]
  rw [(span_authority (fun c hc => no_slash_of_isInner (hA c hc)) V).1,
    splitCredentials_of_notMem hat]

theorem isBreak_of_blank_lt {c : Char} (h : ' ' < c) : isBreak c = false := by
  refine Bool.eq_false_iff.mpr fun hbreak => ?_
  have hbreak' : c = '\t' ∨ c = '\n' ∨ c = '\r' := by
    simpa [isBreak, Percent.among] using hbreak
  rcases hbreak' with rfl | rfl | rfl <;> exact absurd h (by decide)

theorem plain_of_isInner {c : Char} (h : isInner c = true) :
    c ≠ '#' ∧ c ≠ '?' ∧ isBreak c = false := by
  obtain ⟨hblank, hhash, -, hquestion, -, -⟩ := isInner_iff.mp h
  exact ⟨hhash, hquestion, isBreak_of_blank_lt hblank⟩

/-- Neither the query nor the fragment nor a line break is found in front of a mark. -/
theorem exists_visible_append {X V : List Char}
    (hX : ∀ c ∈ X, c ≠ '#' ∧ c ≠ '?' ∧ isBreak c = false) :
    ∃ V', visible (cut (· = '?') (cut (· = '#') (X ++ V)).1).1 = X ++ V' := by
  obtain ⟨V₁, hV₁⟩ := exists_cut_append (· = '#') (V := V) fun c hc => decide_eq_false (hX c hc).1
  obtain ⟨V₂, hV₂⟩ := exists_cut_append (· = '?') (V := V₁) fun c hc =>
    decide_eq_false (hX c hc).2.1
  refine ⟨visible V₂, ?_⟩
  rw [hV₁, hV₂, visible, List.filter_append, List.filter_eq_self.mpr]
  · rfl
  · intro c hc
    rw [(hX c hc).2.2]
    rfl

/-- An authority of inner characters, with a slash behind it, has no name and password. -/
theorem credentials_of_withHierarchy? {A V : List Char} (hne : A ≠ [])
    (hA : ∀ c ∈ A, isInner c = true) (hs : isSpecial u.scheme = true)
    (h : u.withHierarchy?
      (visible (cut (· = '?') (cut (· = '#') ("//".toList ++ (A ++ '/' :: V))).1).1) = .ok v) :
    v.username = "" ∧ v.password = none := by
  have hplain : ∀ c ∈ "//".toList ++ (A ++ ['/']), c ≠ '#' ∧ c ≠ '?' ∧ isBreak c = false := by
    intro c hc
    have hfront : c = '/' ∨ c ∈ A := by simpa [or_comm] using hc
    rcases hfront with rfl | hc
    · decide
    · exact plain_of_isInner (hA c hc)
  have hsplit : ∀ W, "//".toList ++ (A ++ '/' :: W) = "//".toList ++ (A ++ ['/']) ++ W := by simp
  obtain ⟨V', hV'⟩ := exists_visible_append (V := V) hplain
  rw [hsplit, hV', ← hsplit] at h
  refine ((withHierarchy?_eq_ok h).2 hs).2 ?_
  rw [dropWhile_slashes (fun c hc => no_slash_of_isInner (hA c hc)) hne]
  exact splitAuthority_credentials hA _

/-- A text is read as a file or as what has an authority. -/
theorem ofText?_eq_ok {s : String} (h : ofText? s = .ok v) : ∃ scheme rest,
    scheme? (trimmed s) = some (scheme, rest) ∧ ∃ w : Url, w.scheme = scheme ∧
      (scheme = "file" ∧ (∃ l, w.withFile? l = .ok v) ∨
        w.withHierarchy? (visible (cut (· = '?') (cut (· = '#') rest).1).1) = .ok v) := by
  simp only [ofText?] at h
  split at h
  · next scheme rest hscheme =>
    refine ⟨scheme, rest, hscheme, ?_⟩
    split at h
    · next hfile => exact ⟨_, rfl, .inl ⟨hfile, _, h⟩⟩
    · exact ⟨_, rfl, .inr h⟩
  · cases h

/-- A URL of HTTP has a host and a path of segments. -/
theorem housed_of_ofText? {s : String} (h : ofText? s = .ok v)
    (hscheme : v.scheme = "http" ∨ v.scheme = "https") : v.Housed := by
  obtain ⟨scheme, rest, -, w, hw, hfile | hrest⟩ := ofText?_eq_ok h
  · obtain ⟨rfl, l, hl⟩ := hfile
    rw [scheme_of_withFile? hl, hw] at hscheme
    exact absurd hscheme (by decide)
  · obtain ⟨hsame, hspecial⟩ := withHierarchy?_eq_ok hrest
    exact (hspecial (hsame ▸ isSpecial_of_http hscheme)).1

/-- What is read from an authority of inner characters under HTTP has no name and password. -/
theorem credentials_of_ofText? {s scheme : String} {A V : List Char}
    (hscheme : scheme = "http" ∨ scheme = "https") (hne : A ≠ [])
    (hA : ∀ c ∈ A, isInner c = true)
    (hs : s.toList = scheme.toList ++ ("://".toList ++ (A ++ '/' :: V))) (h : ofText? s = .ok v) :
    v.username = "" ∧ v.password = none := by
  obtain ⟨V', hread⟩ : ∃ V', scheme? (trimmed s) =
      some (scheme, "//".toList ++ (A ++ '/' :: V')) := by
    obtain ⟨X, hX⟩ := exists_toList_of_http hscheme
    obtain ⟨V', hV'⟩ := exists_trimmed_append (X := X ++ ("://".toList ++ A)) (V := V)
      (show ' ' < 'h' by decide) (show ' ' < '/' by decide) (by rw [hs, hX]; simp)
    have hsplit : 'h' :: (X ++ ("://".toList ++ A)) ++ '/' :: V' =
        scheme.toList ++ ':' :: ("//".toList ++ (A ++ '/' :: V')) := by
      rw [hX]
      simp
    exact ⟨V', by rw [hV', hsplit, scheme?_of_http hscheme]⟩
  obtain ⟨scheme', rest, hread', w, hw, hfile | hrest⟩ := ofText?_eq_ok h
  · obtain ⟨rfl, rfl⟩ := Prod.mk.inj (Option.some.inj (hread.symm.trans hread'))
    obtain ⟨rfl, -⟩ := hfile
    exact absurd hscheme (by decide)
  · obtain ⟨rfl, rfl⟩ := Prod.mk.inj (Option.some.inj (hread.symm.trans hread'))
    exact credentials_of_withHierarchy? hne hA (hw ▸ isSpecial_of_http hscheme) hrest

/-- The authority of a URL with a host. -/
theorem exists_toList_authority {host : Host} (hhost : u.host = some host) :
    ∃ port, (∀ c ∈ port, isInner c = true) ∧ u.authority.toList =
      "//".toList ++ (u.credentials.toList ++ (host.text.toList ++ port)) := by
  rw [authority, hhost]
  rcases u.port with _ | n
  · exact ⟨[], by simp, by simp⟩
  · refine ⟨':' :: (toString n).toList, fun c hc => ?_, by simp⟩
    rcases List.mem_cons.mp hc with rfl | hc
    · decide
    · exact isInner_of_mem_toString hc

/-- The text of a URL with a host and without name and password. -/
theorem Housed.toList_text (hu : u.Housed) (hname : u.username = "")
    (hpassword : u.password = none) :
    ∃ A rest, A ≠ [] ∧ (∀ c ∈ A, isInner c = true) ∧
      u.text.toList = u.scheme.toList ++ ("://".toList ++ (A ++ '/' :: rest)) := by
  obtain ⟨⟨host, hhost, hne, hinner⟩, s, l, hpath⟩ := hu
  have hnone : u.credentials = "" := by
    rw [credentials, hname, hpassword]
    rfl
  obtain ⟨port, hport, hauthority⟩ := exists_toList_authority hhost
  rw [hnone, String.toList_empty, List.nil_append] at hauthority
  obtain ⟨tail, htext⟩ : ∃ tail, u.text = u.scheme ++ ":" ++ u.authority ++ u.path.text ++ tail :=
    ⟨_, String.append_assoc⟩
  refine ⟨host.text.toList ++ port,
    s.toList ++ (Path.segments l).text.toList ++ tail.toList, ?_, ?_, ?_⟩
  · exact List.append_ne_nil_of_left_ne_nil hne _
  · intro c hc
    exact (List.mem_append.mp hc).elim (hinner c) (hport c)
  · rw [htext, hpath, Path.text, List.map_cons, String.join_cons]
    simp [hauthority, Path.text]

end Url

namespace Client

variable {τ : Type} {c : Client τ} {u : Url} {address path : String}

/-- An address is a URL of HTTP. -/
theorem ofText?_of_serverUrl? {v : Url} (h : ClientOptions.serverUrl? address = .ok v) :
    Url.ofText? address = .ok v ∧ (v.scheme = "http" ∨ v.scheme = "https") := by
  rw [ClientOptions.serverUrl?] at h
  split at h
  · cases h
  · split at h
    · cases h
    · next w hw =>
      split at h
      · next hscheme =>
        obtain rfl := Except.ok.inj h
        exact ⟨hw, by simpa using hscheme⟩
      · cases h

theorem ofText?_of_requestUrl (h : c.requestUrl path = .ok u) :
    Url.ofText? (dropTrailingSlashes c.url.text ++ path) = .ok u := by
  rw [requestUrl] at h
  split at h
  · next v hv =>
    obtain rfl := Except.ok.inj h
    exact hv
  · cases h

/-- Slashes are dropped up to the end of an authority at most, and a path begins with another. -/
theorem exists_toList_append {s : String} {X A rest : List Char} (hne : A ≠ [])
    (hA : ∀ c ∈ A, Url.isInner c = true) (hs : s.toList = X ++ (A ++ '/' :: rest))
    (hpath : path.toList.head? = some '/') :
    ∃ V, (dropTrailingSlashes s ++ path).toList = X ++ (A ++ '/' :: V) := by
  obtain ⟨A', d, rfl⟩ : ∃ A' d, A = A' ++ [d] := ⟨_, _, (List.dropLast_append_getLast hne).symm⟩
  have hd : decide (d = '/') = false :=
    decide_eq_false (Url.isInner_iff.mp (hA d (by simp))).2.2.1
  obtain ⟨Z, hZ, hstrip⟩ := Url.exists_rstrip_append (· = '/') (X ++ A') ('/' :: rest) hd
  obtain ⟨V, hV⟩ : ∃ V, Z ++ path.toList = '/' :: V := by
    rcases Z with _ | ⟨z, Z⟩
    · obtain ⟨V, hV⟩ := List.head?_eq_some_iff.mp hpath
      exact ⟨V, hV⟩
    · obtain rfl : z = '/' := by
        obtain ⟨t, ht⟩ := hZ
        exact (List.cons.inj ht).1
      exact ⟨Z ++ path.toList, rfl⟩
  have hsplit : s.toList = X ++ A' ++ d :: '/' :: rest := by
    rw [hs]
    simp
  refine ⟨V, ?_⟩
  rw [String.toList_append, dropTrailingSlashes, String.toList_ofList, hsplit, hstrip, ← hV]
  simp

/-- Below an address without name and password no URL has them. -/
theorem credentials_of_requestUrl (haddress : ClientOptions.serverUrl? address = .ok c.url)
    (hname : c.url.username = "") (hpassword : c.url.password = none)
    (hpath : path.toList.head? = some '/') (h : c.requestUrl path = .ok u) :
    u.username = "" ∧ u.password = none := by
  obtain ⟨hread, hscheme⟩ := ofText?_of_serverUrl? haddress
  obtain ⟨A, rest, hne, hA, htext⟩ :=
    (Url.housed_of_ofText? hread hscheme).toList_text hname hpassword
  rw [← List.append_assoc] at htext
  obtain ⟨V, hV⟩ := exists_toList_append hne hA htext hpath
  rw [List.append_assoc] at hV
  exact Url.credentials_of_ofText? hscheme hne hA hV (ofText?_of_requestUrl h)

end Client

end EntityHub
