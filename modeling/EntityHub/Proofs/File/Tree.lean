import EntityHub.File.Tree
import EntityHub.Proofs.Text.Split
/-!
# Files that are written

To write a file puts it at the place where its path leads, or changes nothing but what the system
will refuse (`Tree.write?_cases`). No directory comes or goes with it, so every path leads to where it
led (`Tree.Alike.resolve?`), and two files of a directory stay apart by their names
(`Tree.Plain.place_ne`).
-/

namespace EntityHub.File.Tree

variable {t t' t'' : Tree} {p : Path} {n : Node}

/-! ## Trees with the same directories -/

/-- Directories stand at the same places. -/
def Alike (t t' : Tree) : Prop := ∀ p, t.get? p = some .directory ↔ t'.get? p = some .directory

/-- Paths lead to the same places. -/
theorem Alike.resolve? (h : t.Alike t') (text : String) : t'.resolve? text = t.resolve? text := by
  have henter : t'.enter? = t.enter? := by
    funext p part
    simp only [enter?, h p]
  rw [Tree.resolve?, Tree.resolve?, henter]

theorem Alike.isDirectory (h : t.Alike t') (text : String) :
    t'.isDirectory text = t.isDirectory text := by
  rw [Tree.isDirectory, Tree.isDirectory, h.resolve?]
  rcases t.resolve? text with _ | p
  · rfl
  · exact decide_eq_decide.mpr (h p).symm

/-! ## Changes at a place -/

/-- The trees are the same, but for what the system will refuse. -/
def Same (t t' : Tree) : Prop := ∀ p, t'.get? p = t.get? p

/-- The second tree is the first with something else at a place. -/
structure Puts (t t' : Tree) (p : Path) (n : Node) : Prop where
  here : t'.get? p = some n
  elsewhere : ∀ q, q ≠ p → t'.get? q = t.get? q

theorem Same.alike (h : t.Same t') : t.Alike t' := fun p => by rw [h p]

theorem puts_put (h : p ≠ []) (t : Tree) (n : Node) : t.Puts (t.put p n) p n where
  here := t.get?_put_self n h
  elsewhere _ := t.get?_put_ne n

/-- What is put twice at one place is there the second time. -/
theorem Puts.trans {m : Node} (h : t.Puts t' p m) (h' : t'.Puts t'' p n) : t.Puts t'' p n where
  here := h'.here
  elsewhere q hq := (h'.elsewhere q hq).trans (h.elsewhere q hq)

theorem Same.puts (h : t.Same t') (h' : t'.Puts t'' p n) : t.Puts t'' p n where
  here := h'.here
  elsewhere q hq := (h'.elsewhere q hq).trans (h q)

/-- A file that takes the place of no directory leaves the directories. -/
theorem Puts.alike {contents : List UInt8} {mode : Nat} (h : t.Puts t' p (.file contents mode))
    (hp : t.get? p ≠ some .directory) : t.Alike t' := by
  intro q
  by_cases hq : q = p
  · rw [hq, h.here]
    simp [hp]
  · rw [h.elsewhere q hq]

/-- The file that was put is read. -/
theorem Puts.read?_here {contents : List UInt8} {mode : Nat} {text : String}
    (h : t.Puts t' p (.file contents mode)) (hp : t.get? p ≠ some .directory)
    (htext : t.resolve? text = some p) : t'.read? text = some contents := by
  rw [read?, (h.alike hp).resolve?, htext, Option.bind_some, h.here]

/-- Another file is read as before. -/
theorem Puts.read?_elsewhere {contents : List UInt8} {mode : Nat} {text : String}
    (h : t.Puts t' p (.file contents mode)) (hp : t.get? p ≠ some .directory)
    (htext : t.resolve? text ≠ some p) : t'.read? text = t.read? text := by
  rw [read?, read?, (h.alike hp).resolve?]
  rcases hq : t.resolve? text with _ | q
  · rfl
  · rw [Option.bind_some, Option.bind_some, h.elsewhere q fun heq => htext (heq ▸ hq)]

theorem Same.read? (h : t.Same t') (text : String) : t'.read? text = t.read? text := by
  rw [Tree.read?, Tree.read?, h.alike.resolve?]
  rcases t.resolve? text with _ | q
  · rfl
  · rw [Option.bind_some, Option.bind_some, h q]

/-! ## Writing -/

/-- What is seen of a file where a path leads to it. -/
theorem seen_of_file {text : String} {contents : List UInt8} {mode : Nat}
    (hp : t.resolve? text = some p) (hfile : t.get? p = some (.file contents mode)) :
    t.read? text = some contents ∧ t.mode? text = some mode := by
  rw [read?, mode?, hp, Option.bind_some, hfile]
  exact ⟨rfl, rfl⟩

theorem ne_nil_of_get? (h : t.get? p ≠ some .directory) : p ≠ [] := by
  rintro rfl
  exact h (if_pos rfl)

/-- A file is put where its path leads, or nothing is written. -/
theorem write?_cases (t : Tree) (text : String) (contents : List UInt8) (mode : Nat) :
    (∃ p kept, t.resolve? text = some p ∧ t.get? p ≠ some .directory ∧
      (t.write? text contents mode).1 = true ∧
      t.Puts (t.write? text contents mode).2 p (.file contents kept)) ∨
    ((t.write? text contents mode).1 = false ∧ t.Same (t.write? text contents mode).2) := by
  have hsame : t.Same t.attempt.2 := fun _ => rfl
  have hresolve : t.attempt.2.resolve? text = t.resolve? text := hsame.alike.resolve? text
  unfold write?
  simp only
  split
  · next p hrefused hp =>
    split
    · exact .inr ⟨rfl, hsame⟩
    · next old kept hold =>
      have hfile : t.get? p ≠ some .directory := by
        rw [← hsame p, hold]
        simp
      exact .inl ⟨p, kept, hresolve ▸ hp, hfile, rfl,
        hsame.puts (puts_put (ne_nil_of_get? hfile) _ _)⟩
    · next hnone =>
      have hfile : t.get? p ≠ some .directory := by
        rw [← hsame p, hnone]
        simp
      exact .inl ⟨p, permissions mode, hresolve ▸ hp, hfile, rfl,
        hsame.puts (puts_put (ne_nil_of_get? hfile) _ _)⟩
  · exact .inr ⟨rfl, hsame⟩

/-- The permissions of a file can be set. -/
theorem setMode?_of_file {text : String} {contents : List UInt8} {kept : Nat}
    (hp : t.resolve? text = some p) (hfile : t.get? p = some (.file contents kept)) (mode : Nat) :
    (t.setMode? text mode).1 = true ∧
      t.Puts (t.setMode? text mode).2 p (.file contents (permissions mode)) := by
  have hne : p ≠ [] := ne_nil_of_get? (by rw [hfile]; simp)
  rw [setMode?, hp]
  simp only [hfile]
  exact ⟨trivial, puts_put hne t _⟩

/-! ## Files of a directory -/

/-- The name of a file is the last part of its path. -/
theorem exists_parts_join (directory : String) {name : String} (hname : '/' ∉ name.toList) :
    ∃ l, parts (join directory name) = l ++ [name] := by
  have hpieces : pieces (· = '/') name.toList = [name.toList] :=
    pieces_of_forall_not fun c hc => decide_eq_false (ne_of_mem_of_not_mem hc hname)
  have hslash : ∀ l : List Char, ∃ m,
      (pieces (· = '/') (l ++ '/' :: name.toList)).map String.ofList = m ++ [name] := by
    intro l
    refine ⟨(pieces (· = '/') l).map .ofList, ?_⟩
    rw [pieces_append_cons (p := (· = '/')) (decide_eq_true rfl), hpieces, List.map_append,
      List.map_singleton, String.ofList_toList]
  rw [join, parts]
  split
  · next hdirectory =>
    rw [Bool.or_eq_true, decide_eq_true_eq, decide_eq_true_eq] at hdirectory
    rcases hdirectory with rfl | hlast
    · refine ⟨[], ?_⟩
      rw [String.empty_append, hpieces]
      simp
    · obtain ⟨l, hl⟩ := List.getLast?_eq_some_iff.mp hlast
      rw [String.toList_append, hl, List.append_assoc, List.singleton_append]
      exact hslash l
  · rw [String.toList_append, String.toList_append, List.append_assoc]
    exact hslash directory.toList

/-- A single part that leads on. -/
structure Plain (name : String) : Prop where
  slash : '/' ∉ name.toList
  empty : name ≠ ""
  single : name ≠ "."
  double : name ≠ ".."

/-- A path to a file leads to a place of its name. -/
theorem Plain.getLast? {directory name : String} (hname : Plain name)
    (h : t.resolve? (join directory name) = some p) : p.getLast? = some name := by
  obtain ⟨l, hl⟩ := exists_parts_join directory hname.slash
  have hfold := (Option.ite_none_right_eq_some.mp h).2
  rw [hl, List.foldlM_append, Option.bind_eq_bind, Option.bind_eq_some_iff] at hfold
  obtain ⟨q, -, hq⟩ := hfold
  obtain ⟨q', hq', hp⟩ := Option.bind_eq_some_iff.mp (show (t.enter? q name).bind some = some p from hq)
  obtain rfl := Option.some.inj hp
  obtain ⟨-, heq⟩ := Option.ite_none_right_eq_some.mp hq'
  rw [if_neg (by simp [hname.empty, hname.single]), if_neg hname.double] at heq
  rw [← Option.some.inj heq, List.getLast?_concat]

/-- Files of different names stand at different places of a directory. -/
theorem Plain.place_ne {directory name other : String} (hname : Plain name) (hother : Plain other)
    (hne : name ≠ other) {q : Path} (hp : t.resolve? (join directory name) = some p)
    (hq : t.resolve? (join directory other) = some q) : p ≠ q := by
  rintro rfl
  exact hne (Option.some.inj ((hname.getLast? hp).symm.trans (hother.getLast? hq)))

end EntityHub.File.Tree
