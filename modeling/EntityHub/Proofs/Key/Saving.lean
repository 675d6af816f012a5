import EntityHub.Proofs.Key.Directory
/-!
# Pairs saved and loaded

A save that is done has put the files of both keys, for their owner alone, and nothing else
(`KeyDirectory.stored_of_save`). From these files the pair is loaded if the texts of its keys are read
as the keys (`KeyPair.ReadsBack`): `KeyDirectory.save_protects`.
-/

namespace EntityHub

/-! ## Texts of keys -/

/-- The texts of both keys of a pair are read as the keys. -/
structure KeyPair.ReadsBack (pair : KeyPair) : Prop where
  privateKey : ∀ text, pair.privateKey.pem? = .ok text → PrivateKey.ofPem? text = .ok pair.privateKey
  publicKey : PublicKey.ofPem? pair.publicKey.pem = .ok pair.publicKey

/-- The texts of keys are read as the keys up to the greatest length that is accepted. -/
theorem KeyPair.readsBack_iff (pair : KeyPair) : pair.ReadsBack ↔
    (∀ text, pair.privateKey.pem? = .ok text → pair.privateKey.isShort = true) ∧
      pair.publicKey.modulus < 1 <<< 4096 := by
  have hprivate : ∀ text, pair.privateKey.pem? = .ok text →
      (PrivateKey.ofPem? text = .ok pair.privateKey ↔ pair.privateKey.isShort = true) := by
    intro text htext
    rw [PrivateKey.ofPem?_pem? htext]
    exact ite_eq_left_iff.trans (by simp)
  have hpublic : PublicKey.ofPem? pair.publicKey.pem = .ok pair.publicKey ↔
      pair.publicKey.modulus < 1 <<< 4096 := by
    rw [PublicKey.ofPem?_pem]
    exact ite_eq_left_iff.trans (by simp)
  constructor
  · rintro ⟨h, h'⟩
    exact ⟨fun text htext => (hprivate text htext).mp (h text htext), hpublic.mp h'⟩
  · rintro ⟨h, h'⟩
    exact ⟨fun text htext => (hprivate text htext).mpr (h text htext), hpublic.mpr h'⟩

namespace KeyDirectory

open File (Tree)
open File.Tree (join)

variable {directory path text : String} {pair : KeyPair} {t t' : Tree}

/-! ## Steps that succeed -/

theorem of_check (h : (check directory).run.run t = (.ok (), t')) :
    directory ≠ "" ∧ t.isDirectory directory = true ∧ t' = t := by
  rw [run_check] at h
  obtain ⟨hcheck, rfl⟩ := Prod.mk.inj h
  split at hcheck
  · cases hcheck
  · next hnamed =>
    split at hcheck
    · next hthere => exact ⟨hnamed, hthere, rfl⟩
    · cases hcheck

/-- A key file that is written stands where its path leads. -/
theorem puts_of_writeFile (h : (writeFile path text).run.run t = (.ok (), t')) :
    ∃ p, t.resolve? path = some p ∧ t.get? p ≠ some .directory ∧
      t.Puts t' p (.file (Utf8.encode text) ownerOnly) := by
  rcases run_writeFile_cases path text t with ⟨p, t'', hrun, hp, hfile, hputs⟩ | ⟨t'', hrun, -⟩
  · obtain ⟨-, rfl⟩ := Prod.mk.inj (hrun.symm.trans h)
    exact ⟨p, hp, hfile, hputs⟩
  · cases hrun.symm.trans h

/-! ## What a save leaves -/

/-- What a save that is done leaves: the files of both keys, and everything else as it was. -/
structure Stored (directory : String) (pair : KeyPair) (t t' : Tree) : Prop where
  there : directory ≠ "" ∧ t'.isDirectory directory = true
  privateFile : ∃ p text, t'.resolve? (join directory privateName) = some p ∧
    pair.privateKey.pem? = .ok text ∧ t'.get? p = some (.file (Utf8.encode text) ownerOnly)
  publicFile : ∃ p, t'.resolve? (join directory publicName) = some p ∧
    t'.get? p = some (.file (Utf8.encode pair.publicKey.pem) ownerOnly)
  elsewhere : ∀ p, t.resolve? (join directory privateName) ≠ some p →
    t.resolve? (join directory publicName) ≠ some p → t'.get? p = t.get? p

/-- A save that is done has written both files, each in its own place. -/
theorem stored_of_save (h : (save directory pair).run.run t = (.ok (), t')) :
    Stored directory pair t t' := by
  obtain ⟨_, t₀, hcheck, hpem⟩ := exists_of_run_bind_eq_ok h
  obtain ⟨hnamed, hthere, rfl⟩ := of_check hcheck
  obtain ⟨text, t₁, htext, hwrites⟩ := exists_of_run_bind_eq_ok hpem
  rw [run_ofExcept] at htext
  obtain ⟨hkey, rfl⟩ := Prod.mk.inj htext
  obtain ⟨_, t₂, hfirst, hsecond⟩ := exists_of_run_bind_eq_ok hwrites
  obtain ⟨p, hp, hfile, hputs⟩ := puts_of_writeFile hfirst
  obtain ⟨q, hq, hfile', hputs'⟩ := puts_of_writeFile hsecond
  have halike := hputs.alike hfile
  have halike' := hputs'.alike hfile'
  have hne : p ≠ q := place_ne hp (halike.resolve? _ ▸ hq)
  refine ⟨⟨hnamed, ?_⟩, ⟨p, text, ?_, hkey, ?_⟩, ⟨q, ?_, hputs'.here⟩, fun r hr hr' => ?_⟩
  · rw [halike'.isDirectory, halike.isDirectory, hthere]
  · rw [halike'.resolve?, halike.resolve?, hp]
  · rw [hputs'.elsewhere p hne, hputs.here]
  · rw [halike'.resolve?, hq]
  · have hr₂ : r ≠ q := fun heq => hr' (halike.resolve? _ ▸ heq ▸ hq)
    rw [hputs'.elsewhere r hr₂, hputs.elsewhere r fun heq => hr (heq ▸ hp)]

theorem Stored.load (hstored : Stored directory pair t t') (hback : pair.ReadsBack) :
    (load directory).run.run t' = (.ok pair, t') := by
  obtain ⟨⟨hnamed, hthere⟩, ⟨p, text, hp, hpem, hprivate⟩, ⟨q, hq, hpublic⟩, -⟩ := hstored
  rw [run_load, run_check, run_readPrivate, run_readPublic, if_neg hnamed, if_pos hthere,
    (Tree.seen_of_file hp hprivate).1, (Tree.seen_of_file hq hpublic).1,
    Option.bind_some, Option.bind_some, Utf8.decode?_encode, Utf8.decode?_encode,
    Option.elim_some, Option.elim_some, hback.privateKey text hpem, hback.publicKey]
  rfl

/-- Each of the two files is there, for its owner alone. -/
theorem Stored.ownerOnly (hstored : Stored directory pair t t') {name : String}
    (hname : name = privateName ∨ name = publicName) :
    (t'.read? (join directory name)).isSome = true ∧
      t'.mode? (join directory name) = some 0o600 := by
  obtain ⟨-, ⟨p, text, hp, -, hprivate⟩, ⟨q, hq, hpublic⟩, -⟩ := hstored
  rcases hname with rfl | rfl
  · obtain ⟨hread, hmode⟩ := Tree.seen_of_file hp hprivate
    exact ⟨hread ▸ rfl, hmode⟩
  · obtain ⟨hread, hmode⟩ := Tree.seen_of_file hq hpublic
    exact ⟨hread ▸ rfl, hmode⟩

/-- A pair is saved into any tree of files. If the save is done, the pair is loaded again, its keys
being read from their texts. Both files are there then, for their owner alone, whatever stood in their
places and with whatever permissions, and everything else is as it was. Where the path is empty or
leads to no directory, the save fails for its parameter and changes nothing. -/
theorem save_protects (directory : String) (pair : KeyPair) (t : Tree) :
    (∀ t', (save directory pair).run.run t = (.ok (), t') →
      (pair.ReadsBack → (load directory).run.run t' = (.ok pair, t')) ∧
      (∀ name, name = privateName ∨ name = publicName →
        (t'.read? (join directory name)).isSome = true ∧
          t'.mode? (join directory name) = some 0o600) ∧
      ∀ p, t.resolve? (join directory privateName) ≠ some p →
        t.resolve? (join directory publicName) ≠ some p → t'.get? p = t.get? p) ∧
    (directory = "" ∨ t.isDirectory directory = false →
      ∃ e, (save directory pair).run.run t = (.error e, t) ∧ e.kind = .parameter) := by
  refine ⟨fun t' h => ?_, fun h => ?_⟩
  · have hstored := stored_of_save h
    exact ⟨hstored.load, fun name => hstored.ownerOnly, hstored.elsewhere⟩
  · rw [save, run_bind, run_check]
    by_cases hnamed : directory = ""
    · rw [if_pos hnamed]
      exact ⟨_, rfl, rfl⟩
    · have hthere : ¬t.isDirectory directory = true := by simp [h.resolve_left hnamed]
      rw [if_neg hnamed, if_neg hthere]
      exact ⟨_, rfl, rfl⟩

/-- A directory whose private key everybody may read, in a file longer than that of a small key. The
public key is missing, and there is a file of another kind. -/
def exposed : Tree where
  nodes := [(["keys"], .directory), (["keys", "node_key"], .file (List.replicate 500 0x41) 0o644),
    (["keys", "notes"], .file [0x68, 0x69] 0o640)]

/-- The small pair is saved there and loaded again, and is not saved where the notes are. -/
theorem save_protects_exposed :
    (∃ t', (save "keys" smallPair).run.run exposed = (.ok (), t') ∧ smallPair.ReadsBack ∧
      (load "keys").run.run t' = (.ok smallPair, t') ∧
      t'.mode? (join "keys" privateName) = some 0o600 ∧
      t'.get? ["keys", "notes"] = exposed.get? ["keys", "notes"]) ∧
    exposed.isDirectory "keys/notes" = false ∧
      ∃ e, (save "keys/notes" smallPair).run.run exposed = (.error e, exposed) ∧
        e.kind = .parameter := by
  have hok : ((save "keys" smallPair).run.run exposed).1.isOk = true := by decide +kernel
  have hback : smallPair.ReadsBack := by
    refine smallPair.readsBack_iff.mpr ⟨fun _ _ => ?_, ?_⟩ <;> decide +kernel
  have hthere : exposed.isDirectory "keys/notes" = false := by decide +kernel
  refine ⟨?_, hthere, (save_protects "keys/notes" smallPair exposed).2 (.inr hthere)⟩
  rcases hrun : (save "keys" smallPair).run.run exposed with ⟨e | _, t'⟩
  · rw [hrun] at hok
    cases hok
  · obtain ⟨hload, hmode, helsewhere⟩ := (save_protects "keys" smallPair exposed).1 t' hrun
    refine ⟨t', rfl, hback, hload hback, (hmode _ (.inl rfl)).2, helsewhere _ ?_ ?_⟩ <;>
      decide +kernel

end KeyDirectory

end EntityHub
