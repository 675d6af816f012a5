import EntityHub.Proofs.Url.Base
import EntityHub.Proofs.Url.RoundTrip
/-!
# Paths below an address

The text of an address with a path behind it is read as the address with the path added to what stands
last in the text (`Client.requestUrl_eq_ok_iff`). If that is the path of the address, the empty
segments at its end give way to the added ones (`Url.Path.basis`), which are settled as in any path
that is read. A query or a fragment takes up whatever comes behind it, and the path of the address
stays as it is (`Url.below`).
-/

namespace EntityHub

/-- Dropping from the end stops at an element without `p`. -/
theorem rdropWhile_append_cons {α : Type} {p : α → Bool} {a : α} (ha : p a = false) (x y : List α) :
    (x ++ a :: y).rdropWhile p = x ++ a :: y.rdropWhile p := by
  induction y using List.reverseRecOn with
  | nil => rw [List.rdropWhile_concat_neg _ _ _ (by rw [ha]; exact Bool.false_ne_true)]; rfl
  | append_singleton y b ih =>
    rw [← List.cons_append, ← List.append_assoc]
    by_cases hb : p b = true
    · rw [List.rdropWhile_concat_pos _ _ _ hb, List.rdropWhile_concat_pos _ _ _ hb, ih]
    · rw [List.rdropWhile_concat_neg _ _ _ hb, List.rdropWhile_concat_neg _ _ _ hb]
      simp

theorem toList_dropTrailingSlashes (s : String) :
    (dropTrailingSlashes s).toList = s.toList.rdropWhile (· = '/') := by
  rw [dropTrailingSlashes, String.toList_ofList]
  rfl

/-- A text is not the same with something behind it in place of slashes. -/
theorem dropTrailingSlashes_append_ne {s t : String} {a : Char} (hmem : a ∈ t.toList)
    (ha : a ≠ '/') : dropTrailingSlashes s ++ t ≠ s := by
  intro h
  obtain ⟨x, y, ht⟩ := List.append_of_mem hmem
  have hs : s.toList = (dropTrailingSlashes s).toList ++ x ++ a :: y := by
    rw [List.append_assoc, ← ht, ← String.toList_append, h]
  have hdrop := congrArg List.length (toList_dropTrailingSlashes s)
  rw [congrArg (List.rdropWhile (· = '/')) hs,
    rdropWhile_append_cons (p := (· = '/')) (decide_eq_false ha)] at hdrop
  simp only [List.length_append, List.length_cons] at hdrop
  omega

namespace Url

variable {u v : Url} {ls : List String}

/-- The segments of a path without the empty ones at its end. -/
def Path.basis : Path → List String
  | .segments l => l.rdropWhile (· = "")
  | .custom _ => []

/-- The URL with segments added behind its text. -/
def below (u : Url) (ls : List String) : Url :=
  let added := (Path.segments ls).text
  match u.query, u.fragment with
  | none, none =>
    { u with path := .segments (Path.settle [] ((u.path.basis ++ ls).map String.toList)) }
  | some q, none =>
    { u with query := some (dropTrailingSlashes q ++
        .ofList (Percent.encode Percent.specialQuerySet added.toList)) }
  | _, some f => { u with fragment := some (dropTrailingSlashes f ++ added) }

theorem query_below (u : Url) (ls : List String) : (u.below ls).query =
    match u.query, u.fragment with
    | some q, none => some (dropTrailingSlashes q ++
        .ofList (Percent.encode Percent.specialQuerySet (Path.segments ls).text.toList))
    | query, _ => query := by
  obtain ⟨_, _, _, _, _, _, _ | q, _ | f⟩ := u <;> rfl

/-- A path that is read as it is would be kept in a fragment too. -/
theorem kept_of_mem_text {d : Char} (hls : ∀ t ∈ ls, ∀ d ∈ t.toList, Path.isPlain d = true)
    (hd : d ∈ (Path.segments ls).text.toList) :
    (Percent.isControl d || Percent.fragmentSet d) = false ∧ d ≠ '#' := by
  rw [Path.toList_text_segments] at hd
  obtain ⟨t, ht, hd⟩ := List.mem_flatMap.mp hd
  rcases List.mem_cons.mp hd with rfl | hd
  · decide
  · have hset := (Path.isPlain_iff.mp (hls t ht d hd)).1
    simp only [Percent.pathSet, Bool.or_eq_false_iff] at hset
    have hcontrol : Percent.isControl d = false := by
      simp only [Percent.fragmentSet, Bool.or_eq_false_iff] at hset
      exact hset.1.1
    exact ⟨Bool.or_eq_false_iff.mpr ⟨hcontrol, hset.1⟩, (of_isPlain (hls t ht d hd)).2.1⟩

/-! ## Texts with something added -/

namespace Written

variable {s scheme : String} {A : List Char} {segments : List String} {q f : Option (List Char)}

/-- Slashes are dropped up to the last mark at most. -/
theorem toList_append {X Y : List Char} {a : Char} (ha : a ≠ '/') (hs : s.toList = X ++ a :: Y)
    (t : String) :
    (dropTrailingSlashes s ++ t).toList = X ++ a :: (Y.rdropWhile (· = '/') ++ t.toList) := by
  rw [String.toList_append, toList_dropTrailingSlashes, hs,
    rdropWhile_append_cons (p := (· = '/')) (decide_eq_false ha), List.append_assoc,
    List.cons_append]

theorem add_fragment {l : List Char} (h : Written s scheme A segments q (some l)) (t : String) :
    Written (dropTrailingSlashes s ++ t) scheme A segments q
      (some (l.rdropWhile (· = '/') ++ t.toList)) := by
  have hs : s.toList = scheme.toList ++ ("://".toList ++ (A ++
      ((segments.flatMap fun t => '/' :: t.toList) ++ marked '?' q))) ++ '#' :: l := by
    rw [h]
    simp [marked]
  rw [Written, toList_append (by decide) hs t]
  simp [marked]

theorem add_query {l : List Char} (h : Written s scheme A segments (some l) none) (t : String) :
    Written (dropTrailingSlashes s ++ t) scheme A segments
      (some (l.rdropWhile (· = '/') ++ t.toList)) none := by
  have hs : s.toList = scheme.toList ++ ("://".toList ++ (A ++
      (segments.flatMap fun t => '/' :: t.toList))) ++ '?' :: l := by
    rw [h]
    simp [marked]
  rw [Written, toList_append (by decide) hs t]
  simp [marked]

/-- Slashes are dropped up to the end of an authority at most. -/
theorem add_path (hA : A ≠ []) (hfront : ∀ d ∈ A, isFront d = true)
    (hplain : ∀ t ∈ segments, ∀ d ∈ t.toList, Path.isPlain d = true)
    (h : Written s scheme A segments none none) (ls : List String) :
    Written (dropTrailingSlashes s ++ (Path.segments ls).text) scheme A
      (segments.rdropWhile (· = "") ++ ls) none none := by
  obtain ⟨A', d, rfl⟩ : ∃ A' d, A = A' ++ [d] := ⟨_, _, (List.dropLast_append_getLast hA).symm⟩
  have hslash : d ≠ '/' := (isFront_iff.mp (hfront d (by simp))).2.2.1
  have hdrop := Path.rdropWhile_text_segments hplain
    (List.rdropWhile_concat_neg (· = '/') (scheme.toList ++ ("://".toList ++ A')) d
      (by simpa using hslash))
  have hs : s.toList = scheme.toList ++ ("://".toList ++ A') ++ [d] ++
      segments.flatMap fun t => '/' :: t.toList := by
    rw [h]
    simp [marked]
  rw [Written, String.toList_append, toList_dropTrailingSlashes, hs, hdrop,
    Path.toList_text_segments]
  simp [marked]

end Written

end Url

namespace Client

variable {τ : Type} {c : Client τ} {u w : Url} {address : String} {ls : List String}

theorem exists_segments (haddress : ClientOptions.serverUrl? address = .ok c.url) :
    ∃ ls, c.url.path = .segments ls ∧ ls ≠ [] ∧ ∀ s ∈ ls, Url.Path.Settled s := by
  obtain ⟨hread, hscheme⟩ := ofText?_of_serverUrl? haddress
  exact Url.settled_of_ofText? hread hscheme

theorem settled_basis (haddress : ClientOptions.serverUrl? address = .ok c.url) :
    ∀ s ∈ c.url.path.basis, Url.Path.Settled s := by
  obtain ⟨ls, hpath, -, hls⟩ := exists_segments haddress
  rw [hpath]
  exact fun s hs => hls s ((List.rdropWhile_prefix _ ls).sublist.mem hs)

/-- The basis of a path is the path without the slashes at its end. -/
theorem text_basis (haddress : ClientOptions.serverUrl? address = .ok c.url) :
    (Url.Path.segments c.url.path.basis).text = dropTrailingSlashes c.url.path.text := by
  obtain ⟨ls, hpath, -, hls⟩ := exists_segments haddress
  have hdrop := Url.Path.rdropWhile_text_segments (fun s hs => (hls s hs).plain)
    (show [].rdropWhile (· = '/') = [] from rfl)
  rw [← String.toList_inj, Url.Path.toList_text_segments, hpath, toList_dropTrailingSlashes,
    Url.Path.toList_text_segments]
  exact hdrop.symm

/-- The text of an address, part by part. -/
theorem exists_written (haddress : ClientOptions.serverUrl? address = .ok c.url) :
    ∃ A ls, A ≠ [] ∧ (∀ d ∈ A, Url.isFront d = true) ∧ c.url.path = .segments ls ∧ ls ≠ [] ∧
      (∀ s ∈ ls, Url.Path.Settled s) ∧ Url.Written c.url.text c.url.scheme A ls
        (c.url.query.map String.toList) (c.url.fragment.map String.toList) := by
  obtain ⟨hread, hscheme⟩ := ofText?_of_serverUrl? haddress
  obtain ⟨A, hA, hfront, hauthority⟩ := Url.exists_authority_of_ofText? hread hscheme
  obtain ⟨ls, hpath, hls, hsettled⟩ := exists_segments haddress
  refine ⟨A, ls, hA, hfront, hpath, hls, hsettled, ?_⟩
  rw [Url.Written, Url.text, ← Url.Path.toList_text_segments, ← hpath]
  rcases c.url.query with _ | q <;> rcases c.url.fragment with _ | f <;>
    simp [hauthority, Url.marked]

/-- An address is read part by part from its text, and so is the address with a path added. -/
theorem exists_front (haddress : ClientOptions.serverUrl? address = .ok c.url)
    (hls : ∀ t ∈ ls, ∀ d ∈ t.toList, Url.Path.isPlain d = true) (hne : ls ≠ []) :
    ∃ front : Except Url.Fault Url,
      Url.ofText? c.url.text = front.map (fun w =>
        { w with path := c.url.path, query := c.url.query, fragment := c.url.fragment }) ∧
      Url.ofText? (dropTrailingSlashes c.url.text ++ (Url.Path.segments ls).text) =
        front.map fun w => ({ w with
          path := c.url.path, query := c.url.query, fragment := c.url.fragment } : Url).below ls := by
  obtain ⟨hread, hscheme⟩ := ofText?_of_serverUrl? haddress
  obtain ⟨A, segments, hA, hfront, hpath, hsegments, hsettled, htext⟩ := exists_written haddress
  obtain ⟨hquery, hfragment⟩ := Url.kept_of_ofText? hread hscheme
  have hplain : ∀ s ∈ segments, ∀ d ∈ s.toList, Url.Path.isPlain d = true := fun s hs =>
    (hsettled s hs).plain
  have hsettle := Url.Path.settle_of_settled hsettled
  refine ⟨({ scheme := c.url.scheme, path := .segments [] } : Url).withAuthority? true
    (Url.splitAuthority true A).1, ?_, ?_⟩
  · rw [Url.ofText?_kept hscheme hA hfront hplain hsegments hquery hfragment htext, hsettle, hpath]
  · rcases hf : c.url.fragment with _ | f <;> rw [hf] at htext hfragment
    · rcases hq : c.url.query with _ | q <;> rw [hq] at htext hquery
      · have hbasis : ∀ s ∈ segments.rdropWhile (· = "") ++ ls, ∀ d ∈ s.toList,
            Url.Path.isPlain d = true := fun s hs => (List.mem_append.mp hs).elim
          (fun hs => hplain s ((List.rdropWhile_prefix _ segments).sublist.mem hs)) (hls s)
        rw [Url.ofText?_kept hscheme hA hfront hbasis (by simp [hne]) hquery hfragment
          (htext.add_path hA hfront hplain ls), hpath]
        rfl
      · have hkept : ∀ d ∈ q.toList.rdropWhile (· = '/'),
            (Percent.isControl d || Percent.specialQuerySet d) = false := fun d hd =>
          hquery q rfl d ((List.rdropWhile_prefix _ _).sublist.mem hd)
        have hread : ∀ d ∈ q.toList.rdropWhile (· = '/') ++ (Url.Path.segments ls).text.toList,
            ' ' < d ∧ d ≠ '#' := fun d hd => (List.mem_append.mp hd).elim
          (fun hd => ⟨Url.blank_lt_of_kept (hkept d hd) rfl, Url.ne_of_kept (hkept d hd) rfl⟩)
          fun hd => (Url.kept_of_mem_text hls hd).imp_left fun h => Url.blank_lt_of_kept h rfl
        have hencode : Percent.encode Percent.specialQuerySet
            (q.toList.rdropWhile (· = '/') ++ (Url.Path.segments ls).text.toList) =
              (dropTrailingSlashes q).toList ++
                Percent.encode Percent.specialQuerySet (Url.Path.segments ls).text.toList := by
          rw [Percent.encode, List.flatMap_append, toList_dropTrailingSlashes]
          exact congrArg (· ++ _) (Percent.encode_eq_self hkept)
        rw [Url.ofText?_append hscheme hA hfront hplain hsegments (by simpa using hread) (by simp)
          (htext.add_query _), hsettle]
        simp [Url.below, hencode, hpath]
    · have hkept : ∀ d ∈ f.toList.rdropWhile (· = '/') ++ (Url.Path.segments ls).text.toList,
          (Percent.isControl d || Percent.fragmentSet d) = false := fun d hd =>
        (List.mem_append.mp hd).elim
          (fun hd => hfragment f rfl d ((List.rdropWhile_prefix _ _).sublist.mem hd))
          fun hd => (Url.kept_of_mem_text hls hd).1
      have hadded : some (f.toList.rdropWhile (· = '/') ++ (Url.Path.segments ls).text.toList) =
          (some (dropTrailingSlashes f ++ (Url.Path.segments ls).text)).map String.toList := by
        simp [toList_dropTrailingSlashes]
      have htext := htext.add_fragment (Url.Path.segments ls).text
      rw [hadded] at htext
      rw [Url.ofText?_kept hscheme hA hfront hplain hsegments hquery
        (by simpa [toList_dropTrailingSlashes, or_imp, forall_and] using hkept) htext, hsettle]
      cases c.url.query <;> simp [Url.below, hpath]

/-- A path below an address is read if the text of the address is, and added to what was read of
that, which differs from the address at most in front of the path. -/
theorem requestUrl_eq_ok_iff_below (haddress : ClientOptions.serverUrl? address = .ok c.url)
    (hls : ∀ t ∈ ls, ∀ d ∈ t.toList, Url.Path.isPlain d = true) (hne : ls ≠ []) :
    c.requestUrl (Url.Path.segments ls).text = .ok u ↔ ∃ w, Url.ofText? c.url.text = .ok w ∧
      w.path = c.url.path ∧ w.query = c.url.query ∧ w.fragment = c.url.fragment ∧
      u = w.below ls := by
  obtain ⟨front, hown, hbelow⟩ := exists_front haddress hls hne
  rw [requestUrl, hbelow, hown]
  rcases front with f | w
  · simp [Except.map]
  · simp [Except.map, eq_comm]

/-- The URL of a path below an address is the address with the path added, unless the host of the address
is too long to be shown. -/
theorem requestUrl_eq (haddress : ClientOptions.serverUrl? address = .ok c.url)
    (hls : ∀ t ∈ ls, ∀ d ∈ t.toList, Url.Path.isPlain d = true) (hne : ls ≠ []) :
    c.requestUrl (Url.Path.segments ls).text =
      if c.url.isOverlong then
        .error (.ofFault (.requestPathInvalid (Url.Path.segments ls).text) (.url .invalidDomain))
      else .ok (c.url.below ls) := by
  obtain ⟨hread, hscheme⟩ := ofText?_of_serverUrl? haddress
  obtain ⟨front, hown, hbelow⟩ := exists_front haddress hls hne
  have hself := Url.ofText?_text hread hscheme
  rw [hown] at hself
  rw [requestUrl, hbelow]
  rcases front with f | w
  · split at hself
    · next hlong =>
      obtain rfl := Except.error.inj hself
      rw [if_pos hlong]
      rfl
    · cases hself
  · split at hself
    · cases hself
    · next hlong =>
      rw [if_neg hlong]
      exact congrArg (fun v : Url => Except.ok (v.below ls)) (Except.ok.inj hself)

/-- Without a query and a fragment it is the path that is added to. -/
theorem requestUrl_eq_ok_iff (haddress : ClientOptions.serverUrl? address = .ok c.url)
    (hquery : c.url.query = none) (hfragment : c.url.fragment = none)
    (hls : ∀ t ∈ ls, ∀ d ∈ t.toList, Url.Path.isPlain d = true) (hne : ls ≠ []) :
    c.requestUrl (Url.Path.segments ls).text = .ok u ↔ ∃ w, Url.ofText? c.url.text = .ok w ∧
      u = { w with path := .segments (Url.Path.settle []
        ((c.url.path.basis ++ ls).map String.toList)) } := by
  rw [requestUrl_eq_ok_iff_below haddress hls hne]
  refine exists_congr fun w => and_congr_right fun hread => ?_
  obtain ⟨front, hown, -⟩ := exists_front haddress hls hne
  rw [hown] at hread
  rcases front with f | w'
  · cases hread
  · obtain rfl := Except.ok.inj hread
    simp [Url.below, hquery, hfragment]

end Client

end EntityHub
