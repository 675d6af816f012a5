import EntityHub.Key.Directory
import EntityHub.Proofs.File.Tree
import EntityHub.Proofs.Key.Pem
import EntityHub.Proofs.Text.Utf8
/-!
# Pairs in a directory

A pair is saved by two writes. Where the first is done and the second is not, the new private key
stands beside the public key that was there (`KeyDirectory.Progress.half`), and since loading compares
nothing, that is the pair that is loaded (`KeyDirectory.load_after_saves`).
-/

namespace EntityHub.KeyDirectory

open File (Tree)
open File.Tree (Alike Plain Puts Same join)

variable {directory path text : String} {pair : KeyPair} {t t' : Tree}

/-! ## Files -/

theorem plain_privateName : Plain privateName := ⟨by decide, by decide, by decide, by decide⟩

theorem plain_publicName : Plain publicName := ⟨by decide, by decide, by decide, by decide⟩

/-- The two files of a directory stand at different places. -/
theorem place_ne {p q : File.Path} (hp : t.resolve? (join directory privateName) = some p)
    (hq : t.resolve? (join directory publicName) = some q) : p ≠ q :=
  plain_privateName.place_ne plain_publicName (by decide) hp hq

/-! ## Steps -/

theorem run_get (t : Tree) : (get : Action Tree).run.run t = (.ok t, t) := rfl

theorem run_check (directory : String) (t : Tree) : (check directory).run.run t =
    (if directory = "" then .error (.of .keyLocationRequired)
      else if t.isDirectory directory then .ok ()
      else .error (.of (.keyLocationNotADirectory directory)), t) := by
  unfold check
  split
  · rfl
  · rw [run_bind, run_get]
    simp only
    split <;> rfl

theorem run_change (path : String) (operation : Tree → Bool × Tree) (t : Tree) :
    (change path operation).run.run t =
      (if (operation t).1 then .ok () else .error (.ofFault (.keyFileUnwritable path) .file),
        (operation t).2) := by
  rw [change, run_bind, run_get]
  simp only
  rcases operation t with ⟨_ | _, t'⟩ <;> rfl

theorem run_readFile (path : String) (t : Tree) : (readFile path).run.run t =
    (((t.read? path).bind Utf8.decode?).elim
      (.error (.ofFault (.keyFileUnreadable path) .file)) .ok, t) := by
  rw [readFile, run_bind, run_get]
  simp only
  rcases (t.read? path).bind Utf8.decode? with _ | text <;> rfl

/-- A key file is written, or what the directory holds stays as it is. -/
theorem run_writeFile_cases (path text : String) (t : Tree) :
    (∃ p t', (writeFile path text).run.run t = (.ok (), t') ∧ t.resolve? path = some p ∧
      t.get? p ≠ some .directory ∧ t.Puts t' p (.file (Utf8.encode text) ownerOnly)) ∨
    ∃ t', (writeFile path text).run.run t =
      (.error (.ofFault (.keyFileUnwritable path) .file), t') ∧ t.Same t' := by
  rw [writeFile, run_bind, run_change]
  rcases t.write?_cases path (Utf8.encode text) ownerOnly with
    ⟨p, kept, hp, hfile, hdone, hputs⟩ | ⟨hdone, hsame⟩
  · left
    rw [hdone]
    have hp' := ((hputs.alike hfile).resolve? path).trans hp
    obtain ⟨hset, hputs'⟩ := Tree.setMode?_of_file hp' hputs.here ownerOnly
    refine ⟨p, _, ?_, hp, hfile, hputs.trans hputs'⟩
    simp only [if_true]
    rw [run_change, hset]
    rfl
  · right
    rw [hdone]
    exact ⟨_, rfl, hsame⟩

/-- What is read of a file comes from its text alone. -/
theorem run_readFile_bind {α : Type} (path : String) (read : String → Except Error α) (t : Tree) :
    (readFile path >>= fun text => (MonadExcept.ofExcept (read text) : Action α)).run.run t =
      (((t.read? path).bind Utf8.decode?).elim
        (.error (.ofFault (.keyFileUnreadable path) .file)) read, t) := by
  rw [run_bind, run_readFile]
  rcases (t.read? path).bind Utf8.decode? with _ | text
  · rfl
  · exact run_ofExcept _ t

theorem run_readPrivate (path : String) (t : Tree) : (readPrivate path).run.run t =
    (((t.read? path).bind Utf8.decode?).elim
      (.error (.ofFault (.keyFileUnreadable path) .file)) PrivateKey.ofPem?, t) :=
  run_readFile_bind path PrivateKey.ofPem? t

theorem run_readPublic (path : String) (t : Tree) : (readPublic path).run.run t =
    (((t.read? path).bind Utf8.decode?).elim
      (.error (.ofFault (.keyFileUnreadable path) .file)) PublicKey.ofPem?, t) :=
  run_readFile_bind path PublicKey.ofPem? t

/-! ## Saving -/

/-- How far a save comes: it writes nothing, or the private key alone, or both keys. -/
inductive Progress where
  | nothing
  | half
  | whole
deriving DecidableEq

/-- How far the save of a pair comes. -/
def progress (directory : String) (pair : KeyPair) (t : Tree) : Progress :=
  match ((check directory).run.run t).1, pair.privateKey.pem? with
  | .ok (), .ok text =>
    let first := (writeFile (join directory privateName) text).run.run t
    let second := (writeFile (join directory publicName) pair.publicKey.pem).run.run first.2
    match first.1, second.1 with
    | .ok (), .ok () => .whole
    | .ok (), .error _ => .half
    | .error _, _ => .nothing
  | _, _ => .nothing

/-- The private key of a pair is in the directory, which was there before. -/
structure Keeps (directory : String) (pair : KeyPair) (t : Tree) : Prop where
  named : directory ≠ ""
  there : t.isDirectory directory = true
  file : ∃ text, pair.privateKey.pem? = .ok text ∧
    t.read? (join directory privateName) = some (Utf8.encode text)

/-- What a save comes to, and what it leaves behind. -/
inductive Saves (directory : String) (pair : KeyPair) (t t' : Tree) :
    Progress → Except Error Unit → Prop
  | nothing (e : Error) (hsame : t.Same t') : Saves directory pair t t' .nothing (.error e)
  | half (e : Error) (hkeeps : Keeps directory pair t')
      (hpublic : t'.read? (join directory publicName) = t.read? (join directory publicName)) :
      Saves directory pair t t' .half (.error e)
  | whole (hkeeps : Keeps directory pair t')
      (hpublic : t'.read? (join directory publicName) = some (Utf8.encode pair.publicKey.pem)) :
      Saves directory pair t t' .whole (.ok ())

/-- A save comes as far as its writes. -/
theorem saves_save (directory : String) (pair : KeyPair) (t : Tree) :
    Saves directory pair t ((save directory pair).run.run t).2 (progress directory pair t)
      ((save directory pair).run.run t).1 := by
  rw [save, progress, run_bind, run_check]
  by_cases hnamed : directory = ""
  · rw [if_pos hnamed]
    exact .nothing _ fun _ => rfl
  by_cases hthere : t.isDirectory directory = true
  swap
  · rw [if_neg hnamed, if_neg hthere]
    exact .nothing _ fun _ => rfl
  rw [if_neg hnamed, if_pos hthere]
  simp only
  rw [run_bind, run_ofExcept]
  rcases hpem : pair.privateKey.pem? with e | text
  · exact .nothing e fun _ => rfl
  simp only
  rw [run_bind]
  rcases run_writeFile_cases (join directory privateName) text t with
    ⟨p, t', hrun, hp, hfile, hputs⟩ | ⟨t', hrun, hsame⟩ <;> rw [hrun]
  swap
  · exact .nothing _ hsame
  -- The private key is written. The second write cannot take it back: it is to another place.
  have halike := hputs.alike hfile
  have hthere' := (halike.isDirectory directory).trans hthere
  have hprivate := hputs.read?_here hfile hp
  simp only
  rcases run_writeFile_cases (join directory publicName) pair.publicKey.pem t' with
    ⟨q, t'', hrun', hq, hfile', hputs'⟩ | ⟨t'', hrun', hsame'⟩ <;> rw [hrun']
  · have halike' := hputs'.alike hfile'
    have hne : t'.resolve? (join directory privateName) ≠ some q := by
      rw [halike.resolve?, hp]
      rintro ⟨⟩
      exact place_ne hp ((halike.resolve? _).symm.trans hq) rfl
    exact .whole ⟨hnamed, (halike'.isDirectory directory).trans hthere', text, hpem,
      (hputs'.read?_elsewhere hfile' hne).trans hprivate⟩ (hputs'.read?_here hfile' hq)
  · refine .half _ ⟨hnamed, (hsame'.alike.isDirectory directory).trans hthere', text, hpem,
      (hsame'.read? _).trans hprivate⟩ ?_
    rw [hsame'.read?]
    exact hputs.read?_elsewhere hfile fun hq => place_ne hp hq rfl

/-! ## Histories -/

/-- The saves of a directory in order, and how far each came. -/
abbrev History := List (KeyPair × Progress)

/-- The last save that wrote a private key. -/
def History.begun? (h : History) : Option (KeyPair × Progress) :=
  (h.filter fun s => s.2 ≠ .nothing).getLast?

/-- The last save that wrote both keys. -/
def History.finished? (h : History) : Option (KeyPair × Progress) :=
  (h.filter fun s => s.2 = .whole).getLast?

/-- The directory holds the private key of the last save that wrote one, and the public key of the
last one that wrote both. -/
structure Holds (directory : String) (h : History) (t : Tree) : Prop where
  unwritten : h.begun? = none → t.read? (join directory privateName) = none
  written : ∀ s, h.begun? = some s → Keeps directory s.1 t
  publicFile : t.read? (join directory publicName) =
    h.finished?.map fun s => Utf8.encode s.1.publicKey.pem

section Histories

variable {h : History}

theorem History.begun?_concat (pair : KeyPair) (x : Progress) :
    begun? (h ++ [(pair, x)]) = if x = .nothing then h.begun? else some (pair, x) := by
  cases x <;> simp [begun?]

theorem History.finished?_concat (pair : KeyPair) (x : Progress) :
    finished? (h ++ [(pair, x)]) = if x = .whole then some (pair, x) else h.finished? := by
  cases x <;> simp [finished?]

theorem Keeps.of_same (hkeeps : Keeps directory pair t) (hsame : t.Same t') :
    Keeps directory pair t' := by
  obtain ⟨hnamed, hthere, text, hpem, hread⟩ := hkeeps
  exact ⟨hnamed, (hsame.alike.isDirectory directory).trans hthere, text, hpem,
    (hsame.read? _).trans hread⟩

theorem Holds.of_keeps {s : KeyPair × Progress} (hbegun : h.begun? = some s)
    (hkeeps : Keeps directory s.1 t) (hpublic : t.read? (join directory publicName) =
      h.finished?.map fun s => Utf8.encode s.1.publicKey.pem) : Holds directory h t where
  unwritten hnone := by
    rw [hbegun] at hnone
    cases hnone
  written s' hs := by
    obtain rfl := Option.some.inj (hbegun.symm.trans hs)
    exact hkeeps
  publicFile := hpublic

/-- One more save. -/
theorem Holds.saves (hholds : Holds directory h t) {x : Progress} {r : Except Error Unit}
    (hsaves : Saves directory pair t t' x r) : Holds directory (h ++ [(pair, x)]) t' := by
  cases hsaves with
  | nothing e hsame =>
    have hbegun : History.begun? (h ++ [(pair, .nothing)]) = h.begun? :=
      (History.begun?_concat pair .nothing).trans (if_pos rfl)
    have hfinished : History.finished? (h ++ [(pair, .nothing)]) = h.finished? :=
      (History.finished?_concat pair .nothing).trans (if_neg (by decide))
    refine ⟨fun hnone => ?_, fun s hs => ?_, ?_⟩
    · rw [hsame.read?]
      exact hholds.unwritten (hbegun ▸ hnone)
    · exact (hholds.written s (hbegun ▸ hs)).of_same hsame
    · rw [hfinished, hsame.read?]
      exact hholds.publicFile
  | half e hkeeps hpublic =>
    have hbegun : History.begun? (h ++ [(pair, .half)]) = some (pair, .half) :=
      (History.begun?_concat pair .half).trans (if_neg (by decide))
    have hfinished : History.finished? (h ++ [(pair, .half)]) = h.finished? :=
      (History.finished?_concat pair .half).trans (if_neg (by decide))
    refine .of_keeps hbegun hkeeps ?_
    rw [hfinished, hpublic]
    exact hholds.publicFile
  | whole hkeeps hpublic =>
    have hbegun : History.begun? (h ++ [(pair, .whole)]) = some (pair, .whole) :=
      (History.begun?_concat pair .whole).trans (if_neg (by decide))
    have hfinished : History.finished? (h ++ [(pair, .whole)]) = some (pair, .whole) :=
      (History.finished?_concat pair .whole).trans (if_pos rfl)
    refine .of_keeps hbegun hkeeps ?_
    rw [hfinished, hpublic]
    rfl

end Histories

/-! ## Runs -/

/-- What is done with a key directory. -/
inductive Act where
  | save (pair : KeyPair)
  | load

/-- What the acts leave behind, and the history of their saves. -/
def run (directory : String) : List Act → Tree → History × Tree
  | [], t => ([], t)
  | .save pair :: acts, t =>
    let (h, left) := run directory acts ((save directory pair).run.run t).2
    ((pair, progress directory pair t) :: h, left)
  | .load :: acts, t => run directory acts ((load directory).run.run t).2

/-- A pair is loaded from both files, and nothing changes. -/
theorem run_load (directory : String) (t : Tree) : (load directory).run.run t =
    (((check directory).run.run t).1.bind fun _ =>
      (((readPrivate (join directory privateName)).run.run t).1.bind fun k =>
        (((readPublic (join directory publicName)).run.run t).1.map fun k' => ⟨k, k'⟩)), t) := by
  rw [load, run_bind, run_check]
  generalize (if directory = "" then _ else _ : Except Error Unit) = x
  rcases x with e | _
  · rfl
  simp only
  rw [run_bind, run_readPrivate]
  generalize ((t.read? (join directory privateName)).bind Utf8.decode?).elim _ _ = x
  rcases x with e | k
  · rfl
  simp only
  rw [run_bind, run_readPublic]
  generalize ((t.read? (join directory publicName)).bind Utf8.decode?).elim _ _ = x
  rcases x with e | k' <;> rfl

/-- A step keeps account of what the directory holds. -/
theorem Holds.run {h : History} (hholds : Holds directory h t) (acts : List Act) :
    Holds directory (h ++ (run directory acts t).1) (run directory acts t).2 := by
  induction acts generalizing h t with
  | nil =>
    rw [KeyDirectory.run, List.append_nil]
    exact hholds
  | cons act acts ih =>
    cases act with
    | save pair =>
      have hstep := ih (hholds.saves (saves_save directory pair t))
      rw [List.append_assoc] at hstep
      exact hstep
    | load =>
      rw [KeyDirectory.run, run_load]
      exact ih hholds

/-- What is loaded is the private key of the last save that wrote one, with the public key of the last
that wrote both, if both can be read. -/
theorem Holds.load_eq_ok_iff {h : History} (hholds : Holds directory h t) (p : KeyPair) :
    ((load directory).run.run t).1 = .ok p ↔ ∃ s s', h.begun? = some s ∧ h.finished? = some s' ∧
      s.1.privateKey.isShort = true ∧ s'.1.publicKey.modulus < 1 <<< 4096 ∧
      p = ⟨s.1.privateKey, s'.1.publicKey⟩ := by
  have hpublic := hholds.publicFile
  rw [run_load, run_check, run_readPrivate, run_readPublic]
  rcases hbegun : h.begun? with _ | s
  · rw [hholds.unwritten hbegun]
    constructor
    · generalize (if directory = "" then _ else _ : Except Error Unit) = x
      intro h
      rcases x with e | _ <;> cases h
    · rintro ⟨s, s', ⟨⟩, -⟩
  · obtain ⟨hnamed, hthere, text, hpem, hread⟩ := hholds.written s hbegun
    -- The private key is read first, so what is left depends on the public file.
    rw [if_neg hnamed, if_pos hthere, hread, hpublic, Option.bind_some, Utf8.decode?_encode,
      Option.elim_some, PrivateKey.ofPem?_pem? hpem]
    rcases h.finished? with _ | s'
    · constructor
      · intro h
        split at h <;> cases h
      · rintro ⟨s, s', -, ⟨⟩, -⟩
    · rw [Option.map_some, Option.bind_some, Utf8.decode?_encode, Option.elim_some,
        PublicKey.ofPem?_pem]
      constructor
      · intro h
        split at h
        · next hshort =>
          split at h
          · next hmodulus => exact ⟨s, s', rfl, rfl, hshort, hmodulus, (Except.ok.inj h).symm⟩
          · cases h
        · cases h
      · rintro ⟨s, s', ⟨⟩, ⟨⟩, hshort, hmodulus, rfl⟩
        rw [if_pos hshort, if_pos hmodulus]
        rfl

/-! ## Mixed pairs -/

/-- A history begins without keys. -/
theorem holds_nil (hprivate : t.read? (join directory privateName) = none)
    (hpublic : t.read? (join directory publicName) = none) : Holds directory [] t where
  unwritten _ := hprivate
  written s hs := by cases hs
  publicFile := hpublic

theorem History.mem_of_begun? {h : History} {s : KeyPair × Progress} (hs : h.begun? = some s) :
    s ∈ h ∧ s.2 ≠ .nothing := by
  simpa using List.mem_of_getLast? hs

theorem History.mem_of_finished? {h : History} {s : KeyPair × Progress}
    (hs : h.finished? = some s) : s ∈ h ∧ s.2 = .whole := by
  simpa using List.mem_of_getLast? hs

/-- If the last save that wrote a private key wrote both, it is the last that did. -/
theorem History.finished?_of_begun? {h : History} {s : KeyPair × Progress} (hs : h.begun? = some s)
    (hwhole : s.2 = .whole) : h.finished? = some s := by
  obtain ⟨l, hl⟩ := List.getLast?_eq_some_iff.mp hs
  have hfilter : h.filter (fun s => s.2 = .whole) =
      (h.filter fun s => s.2 ≠ .nothing).filter fun s => s.2 = .whole := by
    rw [List.filter_filter]
    refine List.filter_congr fun s _ => ?_
    rcases s with ⟨pair, _ | _ | _⟩ <;> rfl
  rw [finished?, hfilter, hl, List.filter_append, List.filter_singleton, decide_eq_true hwhole,
    cond_true, List.getLast?_concat]

theorem save_mem_of_mem_run {acts : List Act} {s : KeyPair × Progress}
    (hs : s ∈ (run directory acts t).1) : .save s.1 ∈ acts := by
  induction acts generalizing t with
  | nil => cases hs
  | cons act acts ih =>
    cases act with
    | save pair =>
      rcases List.mem_cons.mp hs with rfl | hs
      · exact List.mem_cons_self
      · exact List.mem_cons_of_mem _ (ih hs)
    | load => exact List.mem_cons_of_mem _ (ih hs)

/-- A directory that starts without key files and sees saves and loads in any order, any write of which
the system may refuse. What is loaded then is the private key of the last save that wrote one with the
public key of the last that wrote both. So a mixed pair is loaded if and only if the last save that
wrote a private key did not come to the public key, an earlier one that wrote both is of another
public key, and both keys can be read. -/
theorem load_after_saves (hprivate : t.read? (join directory privateName) = none)
    (hpublic : t.read? (join directory publicName) = none) (acts : List Act)
    (hmatches : ∀ pair, .save pair ∈ acts → pair.Matches) :
    (∀ pair t', ((save directory pair).run.run t').1 = .ok () ↔
      progress directory pair t' = .whole) ∧
    let h := (run directory acts t).1
    let loaded := ((load directory).run.run (run directory acts t).2).1
    (∀ p, loaded = .ok p ↔ ∃ s s', h.begun? = some s ∧ h.finished? = some s' ∧
      s.1.privateKey.isShort = true ∧ s'.1.publicKey.modulus < 1 <<< 4096 ∧
      p = ⟨s.1.privateKey, s'.1.publicKey⟩) ∧
    ((∃ p, loaded = .ok p ∧ ¬p.Matches) ↔ ∃ pair pair', h.begun? = some (pair, .half) ∧
      h.finished? = some (pair', .whole) ∧ pair.publicKey ≠ pair'.publicKey ∧
      pair.privateKey.isShort = true ∧ pair'.publicKey.modulus < 1 <<< 4096) := by
  have hholds := (holds_nil hprivate hpublic).run acts
  rw [List.nil_append] at hholds
  have hload := hholds.load_eq_ok_iff
  refine ⟨fun pair t' => ?_, hload, ?_, ?_⟩
  · have hsaves := saves_save directory pair t'
    generalize progress directory pair t' = x, ((save directory pair).run.run t').1 = r at hsaves
    cases hsaves <;> simp
  · rintro ⟨p, hp, hmixed⟩
    obtain ⟨⟨pair, x⟩, ⟨pair', x'⟩, hbegun, hfinished, hshort, hmodulus, rfl⟩ := (hload p).mp hp
    obtain ⟨hmem, hwrote⟩ := History.mem_of_begun? hbegun
    obtain rfl : x' = .whole := (History.mem_of_finished? hfinished).2
    have hpair : pair.Matches := hmatches pair (save_mem_of_mem_run hmem)
    have hne : pair.publicKey ≠ pair'.publicKey := fun heq => hmixed (heq ▸ hpair)
    cases x with
    | nothing => exact absurd rfl hwrote
    | half => exact ⟨pair, pair', hbegun, hfinished, hne, hshort, hmodulus⟩
    | whole =>
      have heq := (History.finished?_of_begun? hbegun rfl).symm.trans hfinished
      obtain rfl := (Prod.mk.inj (Option.some.inj heq)).1
      exact absurd rfl hne
  · rintro ⟨pair, pair', hbegun, hfinished, hne, hshort, hmodulus⟩
    refine ⟨⟨pair.privateKey, pair'.publicKey⟩,
      (hload _).mpr ⟨_, _, hbegun, hfinished, hshort, hmodulus, rfl⟩, fun hmixed => hne ?_⟩
    have hpair : pair.Matches := hmatches pair (save_mem_of_mem_run (History.mem_of_begun? hbegun).1)
    exact hpair.trans hmixed.symm

/-- A pair of small keys. -/
def smallPair : KeyPair := .ofPrivate ⟨⟨33, 3, by decide⟩, 7, 3, 11, by decide⟩

/-- Another pair of small keys. -/
def otherPair : KeyPair := .ofPrivate ⟨⟨55, 3, by decide⟩, 7, 5, 11, by decide⟩

/-- An empty directory, in a system that will refuse the fourth write. -/
def refusing : Tree where
  nodes := [(["keys"], .directory)]
  refusals := [false, false, false, true]

/-- The second pair is saved by half, and a mixed pair is loaded. -/
theorem load_after_saves_refusing :
    refusing.read? (join "keys" privateName) = none ∧
      refusing.read? (join "keys" publicName) = none ∧
      (∀ pair, .save pair ∈ [Act.save smallPair, .save otherPair] → pair.Matches) ∧
      ∃ p, ((load "keys").run.run
          (run "keys" [.save smallPair, .save otherPair] refusing).2).1 = .ok p ∧ ¬p.Matches := by
  have hprivate : refusing.read? (join "keys" privateName) = none := by decide +kernel
  have hpublic : refusing.read? (join "keys" publicName) = none := by decide +kernel
  have hmatches : ∀ pair, .save pair ∈ [Act.save smallPair, .save otherPair] → pair.Matches := by
    intro pair hpair
    rcases List.mem_cons.mp hpair with hpair | hpair
    · rw [Act.save.inj hpair]
      exact KeyPair.ofPrivate_matches _
    · rw [Act.save.inj (List.mem_singleton.mp hpair)]
      exact KeyPair.ofPrivate_matches _
  have hrun : (run "keys" [.save smallPair, .save otherPair] refusing).1 =
      [(smallPair, .whole), (otherPair, .half)] := by decide +kernel
  obtain ⟨-, -, hmixed⟩ := load_after_saves hprivate hpublic _ hmatches
  refine ⟨hprivate, hpublic, hmatches, hmixed.mpr ⟨otherPair, smallPair, ?_, ?_, ?_, ?_, ?_⟩⟩
  · rw [hrun]
    rfl
  · rw [hrun]
    rfl
  · decide
  · decide +kernel
  · decide +kernel

end EntityHub.KeyDirectory
