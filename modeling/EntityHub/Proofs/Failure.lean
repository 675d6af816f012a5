import EntityHub.Error.Basic
import Mathlib.Data.List.Forall2
/-!
# Computations that may fail

Where the failure of a chain of computations comes from, and what a list of computations, one for
each element, comes to. `Error.Unread` is what all errors of reading have in common.
-/

namespace EntityHub

variable {ε α β : Type}

/-! ## Results or errors -/

theorem eq_ok_of_toOption {x : Except ε α} {a : α} (h : x.toOption = some a) : x = .ok a := by
  rcases x with e | a'
  · cases h
  · exact congrArg Except.ok (Option.some.inj h)

theorem exists_of_bind_eq_ok {x : Except ε α} {f : α → Except ε β} {b : β}
    (h : x >>= f = .ok b) : ∃ a, x = .ok a ∧ f a = .ok b := by
  rcases x with e | a
  · cases h
  · exact ⟨a, rfl, h⟩

theorem eq_or_exists_of_bind_eq_error {e : ε} {x : Except ε α} {f : α → Except ε β}
    (h : x.bind f = .error e) : x = .error e ∨ ∃ a, x = .ok a ∧ f a = .error e := by
  cases x with
  | error e' => exact .inl (congrArg Except.error (Except.error.inj h))
  | ok a => exact .inr ⟨a, rfl, h⟩

theorem exists_of_mapM_eq_error {e : ε} {f : α → Except ε β} {l : List α}
    (h : l.mapM f = .error e) : ∃ a ∈ l, f a = .error e := by
  induction l with
  | nil => cases h
  | cons a l ih =>
    rw [List.mapM_cons] at h
    rcases eq_or_exists_of_bind_eq_error h with ha | ⟨b, -, h⟩
    · exact ⟨a, List.mem_cons_self, ha⟩
    · rcases eq_or_exists_of_bind_eq_error h with hl | ⟨bs, -, h⟩
      · obtain ⟨a', ha', hf⟩ := ih hl
        exact ⟨a', List.mem_cons_of_mem a ha', hf⟩
      · cases h

/-- The computations all succeed, and these are their results in order. -/
theorem mapM_eq_ok_iff {f : α → Except ε β} {l : List α} {m : List β} :
    l.mapM f = .ok m ↔ List.Forall₂ (fun a b => f a = .ok b) l m := by
  induction l generalizing m with
  | nil =>
    rw [List.mapM_nil, List.forall₂_nil_left_iff]
    exact ⟨fun h => (Except.ok.inj h).symm, fun h => congrArg Except.ok h.symm⟩
  | cons a l ih =>
    rw [List.mapM_cons, List.forall₂_cons_left_iff]
    constructor
    · intro h
      obtain ⟨b, hb, h⟩ := exists_of_bind_eq_ok h
      obtain ⟨bs, hbs, h⟩ := exists_of_bind_eq_ok h
      exact ⟨b, bs, hb, ih.mp hbs, (Except.ok.inj h).symm⟩
    · rintro ⟨b, bs, hb, hbs, rfl⟩
      rw [hb, ih.mpr hbs]
      rfl

/-! ## Computations with a state -/

section Run

variable {σ : Type}

theorem run_bind_of_run {x : StateM σ α} {p q : σ} {y : α} (h : x.run p = (y, q))
    (f : α → StateM σ β) : (x >>= f).run p = (f y).run q := by
  rw [StateT.run_bind, h]
  rfl

theorem run_ofExcept (x : Except Error α) (s : σ) :
    (MonadExcept.ofExcept x : ExceptT Error (StateM σ) α).run.run s = (x, s) := by
  cases x <;> rfl

theorem run_bind (x : ExceptT Error (StateM σ) α) (f : α → ExceptT Error (StateM σ) β) (s : σ) :
    (x >>= f).run.run s = match x.run.run s with
      | (.ok a, s) => (f a).run.run s
      | (.error e, s) => (.error e, s) := by
  rw [ExceptT.run_bind, StateT.run_bind]
  rcases x.run.run s with ⟨e | a, s'⟩ <;> rfl

theorem exists_of_run_bind_eq_ok {x : ExceptT Error (StateM σ) α}
    {f : α → ExceptT Error (StateM σ) β} {s s' : σ} {b : β}
    (h : (x >>= f).run.run s = (.ok b, s')) :
    ∃ a s₁, x.run.run s = (.ok a, s₁) ∧ (f a).run.run s₁ = (.ok b, s') := by
  rw [run_bind] at h
  rcases hx : x.run.run s with ⟨e | a, s₁⟩ <;> rw [hx] at h
  · cases h
  · exact ⟨a, s₁, rfl, h⟩

theorem run_map (f : α → β) (x : ExceptT Error (StateM σ) α) (s : σ) :
    (f <$> x).run.run s = ((x.run.run s).1.map f, (x.run.run s).2) := by
  rw [map_eq_pure_bind, run_bind]
  rcases x.run.run s with ⟨e | a, s'⟩ <;> rfl

end Run

/-! ## Results or nothing -/

/-- The computations all come to something, and that is it in order. -/
theorem mapM_eq_some_iff {f : α → Option β} {l : List α} {m : List β} :
    l.mapM f = some m ↔ List.Forall₂ (fun a b => f a = some b) l m := by
  induction l generalizing m with
  | nil =>
    rw [List.mapM_nil, List.forall₂_nil_left_iff]
    exact ⟨fun h => (Option.some.inj h).symm, fun h => congrArg some h.symm⟩
  | cons a l ih =>
    rw [List.mapM_cons, List.forall₂_cons_left_iff]
    simp only [Option.bind_eq_bind, Option.bind_eq_some_iff, Option.pure_def, Option.some.injEq, ih]
    constructor
    · rintro ⟨b, hb, bs, hbs, h⟩
      exact ⟨b, bs, hb, hbs, h.symm⟩
    · rintro ⟨b, bs, hb, hbs, h⟩
      exact ⟨b, hb, bs, hbs, h.symm⟩

theorem exists_of_mem_mapM {f : α → Option β} {l : List α} {m : List β}
    (h : l.mapM f = some m) {b : β} (hb : b ∈ m) : ∃ a ∈ l, f a = some b := by
  induction l generalizing m with
  | nil =>
    obtain rfl : [] = m := Option.some.inj h
    cases hb
  | cons a l ih =>
    obtain ⟨b', m', hb', hm', rfl⟩ := List.forall₂_cons_left_iff.mp (mapM_eq_some_iff.mp h)
    rcases List.mem_cons.mp hb with rfl | hb
    · exact ⟨a, List.mem_cons_self, hb'⟩
    · obtain ⟨a', ha', hfa⟩ := ih (mapM_eq_some_iff.mpr hm') hb
      exact ⟨a', List.mem_cons_of_mem a ha', hfa⟩

theorem mapM_congr {f g : α → Option β} {l : List α} (h : ∀ a ∈ l, f a = g a) :
    l.mapM f = l.mapM g := by
  induction l with
  | nil => rfl
  | cons a l ih =>
    rw [List.mapM_cons, List.mapM_cons, h a List.mem_cons_self,
      ih fun a' ha' => h a' (List.mem_cons_of_mem a ha')]

section Forall₂

variable {R : α → β → Prop} {l : List α}

theorem exists_forall₂ (h : ∀ a ∈ l, ∃ b, R a b) : ∃ m, List.Forall₂ R l m := by
  induction l with
  | nil => exact ⟨[], .nil⟩
  | cons a l ih =>
    obtain ⟨b, hb⟩ := h a List.mem_cons_self
    obtain ⟨m, hm⟩ := ih fun a' ha' => h a' (List.mem_cons_of_mem a ha')
    exact ⟨b :: m, .cons hb hm⟩

theorem exists_of_forall₂ {m : List β} (h : List.Forall₂ R l m) : ∀ a ∈ l, ∃ b, R a b := by
  induction h with
  | nil => simp
  | @cons a b l m hab _ ih => exact List.forall_mem_cons.mpr ⟨⟨b, hab⟩, ih⟩

end Forall₂

/-! ## Errors -/

/-- The error of a body that cannot be read. It tells no status. -/
structure Error.Unread (e : Error) : Prop where
  kind : e.kind = .clientProcessing
  status : e.status = none

end EntityHub
