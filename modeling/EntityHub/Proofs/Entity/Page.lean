import EntityHub.Entity.Page
import EntityHub.Proofs.Json.Levels
import EntityHub.Proofs.Json.RoundTrip
/-!
# The format of entity pages

Octets are read as an entity page exactly if they are an array in the format of pages
(`EntityPage.Format`), and what they are read as is the page that the array holds
(`EntityPage.Holds`): `EntityPage.reads_format`. Where the context and the continuation stand among
the entities makes no difference, since of three kinds of elements the order matters within a kind
only (`EntityPage.Moved`).
-/

namespace EntityHub

open Json (Decoder Value)

/-! ## Lists of what was read -/

section Lists

variable {α β γ : Type} {R : α → β → Prop} {l : List α}

/-- Of two lists that go together the elements of one kind go together, if the kind of an element
can be told on both sides. -/
theorem forall₂_filter {S : α → γ → Prop} {P : α → Prop} [DecidablePred P] {f : β → Option γ}
    (hkind : ∀ {a b}, R a b → (∃ c, f b = some c ∧ P a ∧ S a c) ∨ (f b = none ∧ ¬P a))
    {m : List β} (h : List.Forall₂ R l m) :
    List.Forall₂ S (l.filter fun a => P a) (m.filterMap f) := by
  induction h with
  | nil => exact .nil
  | @cons a b l m hab _ ih =>
    rcases hkind hab with ⟨c, hc, ha, hac⟩ | ⟨hc, ha⟩
    · rw [List.filter_cons_of_pos (by simpa using ha), List.filterMap_cons_some hc]
      exact .cons hac ih
    · rw [List.filter_cons_of_neg (by simpa using ha), List.filterMap_cons_none hc]
      exact ih

/-- The last of some results is the result for the last. -/
theorem bind_getLast?_of_forall₂ {f : α → Option β} {m : List β}
    (h : List.Forall₂ (fun a b => f a = some b) l m) : l.getLast?.bind f = m.getLast? := by
  have hmap : l.map f = m.map some := by
    rwa [← List.forall₂_eq_eq_eq, List.forall₂_map_left_iff, List.forall₂_map_right_iff]
  calc l.getLast?.bind f = (l.map f).getLast?.bind id := by
        rw [List.getLast?_map, Option.bind_map, Function.id_comp]
    _ = (m.map some).getLast?.bind id := by rw [hmap]
    _ = m.getLast? := by
        rw [List.getLast?_map, Option.bind_map, Function.id_comp]
        exact Option.bind_fun_some _

end Lists

namespace EntityPage

/-! ## The format -/

/-- The element is an object whose member `id` is that string. -/
def Bears (id : String) (v : Value) : Prop := v.get? "id" = some (.string id)

theorem bears_iff {id : String} {v : Value} :
    Bears id v ↔ (v.get? "id").bind Value.string? = some id := by
  unfold Bears
  rcases v.get? "id" with _ | w
  · simp
  · cases w <;> simp [Value.string?]

instance (id : String) (v : Value) : Decidable (Bears id v) := decidable_of_iff' _ bears_iff

theorem not_bears_continuationId {v : Value} (h : Bears contextId v) : ¬Bears continuationId v := by
  intro h'
  have heq : contextId = continuationId := Value.string.inj (Option.some.inj (h.symm.trans h'))
  exact absurd heq (by decide)

/-- The element is neither a context nor a continuation by its identifier. -/
def IsOther (v : Value) : Prop := ¬Bears contextId v ∧ ¬Bears continuationId v

instance (v : Value) : Decidable (IsOther v) := inferInstanceAs (Decidable (_ ∧ _))

/-- An array in the format of pages: each element can be read as what its identifier says, and each
other element as an entity. -/
structure Format (vs : List Value) : Prop where
  contexts : ∀ v ∈ vs, Bears contextId v → ∃ c, Context.decoder.ofValue? v = some c
  continuations : ∀ v ∈ vs, Bears continuationId v → ∃ k, Continuation.decoder.ofValue? v = some k
  entities : ∀ v ∈ vs, IsOther v → ∃ e, Entity.decoder.ofValue? v = some e

/-- The page holds what an array gives: the other elements in order, none left out, and of contexts
and continuations the last one. -/
structure Holds (p : EntityPage) (vs : List Value) : Prop where
  context : p.context = ((vs.filter fun v => Bears contextId v).getLast?.bind
    Context.decoder.ofValue?).getD {}
  continuation : p.continuation = (vs.filter fun v => Bears continuationId v).getLast?.bind
    Continuation.decoder.ofValue?
  entities : List.Forall₂ (fun v e => Entity.decoder.ofValue? v = some e)
    (vs.filter fun v => IsOther v) p.entities

/-- The second array has the elements of the first one, of which at most one is a context and at
most one a continuation, and these may stand elsewhere. -/
structure Moved (vs vs' : List Value) : Prop where
  perm : vs.Perm vs'
  others : (vs.filter fun v => IsOther v) = vs'.filter fun v => IsOther v
  contexts : (vs.filter fun v => Bears contextId v).length ≤ 1
  continuations : (vs.filter fun v => Bears continuationId v).length ≤ 1

/-! ## Elements -/

/-- What an element is read as. -/
inductive Element.Reads (v : Value) : Element → Prop
  | context {c : Context} : Bears contextId v → Context.decoder.ofValue? v = some c →
      Reads v (.context c)
  | continuation {k : Continuation} : Bears continuationId v →
      Continuation.decoder.ofValue? v = some k → Reads v (.continuation k)
  | entity {e : Entity} : IsOther v → Entity.decoder.ofValue? v = some e → Reads v (.entity e)

namespace Element

variable {v : Value} {el : Element} {e : Error}

theorem read_eq_ok_iff {α : Type} {d : Decoder α} {form : α → Element} {problem : Problem} :
    ofValue?.read v d form problem = .ok el ↔ ∃ x, d.ofValue? v = some x ∧ el = form x := by
  unfold ofValue?.read
  rcases d.ofValue? v with _ | x
  · simp
  · simp [eq_comm]

theorem ofValue?_eq_ok_iff : ofValue? v = .ok el ↔ Reads v el := by
  simp only [ofValue?, ← bears_iff]
  split
  · next hcontext =>
    rw [read_eq_ok_iff]
    constructor
    · rintro ⟨c, hc, rfl⟩
      exact .context hcontext hc
    · rintro (⟨-, hc⟩ | ⟨h, -⟩ | ⟨h, -⟩)
      · exact ⟨_, hc, rfl⟩
      · exact absurd h (not_bears_continuationId hcontext)
      · exact absurd hcontext h.1
  · next hcontext =>
    split
    · next hcontinuation =>
      rw [read_eq_ok_iff]
      constructor
      · rintro ⟨k, hk, rfl⟩
        exact .continuation hcontinuation hk
      · rintro (⟨h, -⟩ | ⟨-, hk⟩ | ⟨h, -⟩)
        · exact absurd h hcontext
        · exact ⟨_, hk, rfl⟩
        · exact absurd hcontinuation h.2
    · next hcontinuation =>
      rw [read_eq_ok_iff]
      constructor
      · rintro ⟨e, he, rfl⟩
        exact .entity ⟨hcontext, hcontinuation⟩ he
      · rintro (⟨h, -⟩ | ⟨h, -⟩ | ⟨-, he⟩)
        · exact absurd h hcontext
        · exact absurd h hcontinuation
        · exact ⟨_, he, rfl⟩

theorem unread_of_ofValue? (h : ofValue? v = .error e) : e.Unread := by
  have hread : ∀ {α : Type} {d : Decoder α} {form : α → Element} {problem : Problem},
      problem.kind = .clientProcessing → ofValue?.read v d form problem = .error e →
      e.Unread := by
    intro α d form problem hkind h
    unfold ofValue?.read at h
    split at h
    · cases h
    · obtain rfl := Except.error.inj h
      exact ⟨hkind, rfl⟩
  unfold ofValue? at h
  simp only at h
  split at h
  · exact hread rfl h
  · split at h
    · exact hread rfl h
    · exact hread rfl h

/-- The context that the element is. -/
def context? : Element → Option Context
  | context c => some c
  | _ => none

/-- The continuation that the element is. -/
def continuation? : Element → Option Continuation
  | continuation k => some k
  | _ => none

/-- The entity that the element is. -/
def entity? : Element → Option Entity
  | entity e => some e
  | _ => none

end Element

theorem format_iff {vs : List Value} : Format vs ↔ ∀ v ∈ vs, ∃ el, Element.Reads v el := by
  constructor
  · intro h v hv
    by_cases hcontext : Bears contextId v
    · obtain ⟨c, hc⟩ := h.contexts v hv hcontext
      exact ⟨_, .context hcontext hc⟩
    · by_cases hcontinuation : Bears continuationId v
      · obtain ⟨k, hk⟩ := h.continuations v hv hcontinuation
        exact ⟨_, .continuation hcontinuation hk⟩
      · obtain ⟨e, he⟩ := h.entities v hv ⟨hcontext, hcontinuation⟩
        exact ⟨_, .entity ⟨hcontext, hcontinuation⟩ he⟩
  · intro h
    refine ⟨fun v hv hid => ?_, fun v hv hid => ?_, fun v hv hid => ?_⟩ <;>
      obtain ⟨el, ⟨hcontext, hc⟩ | ⟨hcontinuation, hk⟩ | ⟨hother, he⟩⟩ := h v hv
    · exact ⟨_, hc⟩
    · exact absurd hcontinuation (not_bears_continuationId hid)
    · exact absurd hid hother.1
    · exact absurd hid (not_bears_continuationId hcontext)
    · exact ⟨_, hk⟩
    · exact absurd hid hother.2
    · exact absurd hcontext hid.1
    · exact absurd hcontinuation hid.2
    · exact ⟨_, he⟩

/-! ## Pages -/

section Push

variable (p : EntityPage) (els : List Element)

theorem context_foldl_push :
    (els.foldl push p).context = (els.filterMap Element.context?).getLast?.getD p.context := by
  induction els generalizing p with
  | nil => rfl
  | cons el els ih =>
    rw [List.foldl_cons, ih]
    cases el with
    | context c => simp [push, Element.context?, List.getLast?_cons]
    | continuation k => rfl
    | entity e => rfl

theorem continuation_foldl_push : (els.foldl push p).continuation =
    (els.filterMap Element.continuation?).getLast?.or p.continuation := by
  induction els generalizing p with
  | nil => rfl
  | cons el els ih =>
    rw [List.foldl_cons, ih]
    cases el with
    | context c => rfl
    | continuation k =>
      simp [push, Element.continuation?, List.getLast?_cons]
    | entity e => rfl

theorem entities_foldl_push :
    (els.foldl push p).entities = p.entities ++ els.filterMap Element.entity? := by
  induction els generalizing p with
  | nil => exact (List.append_nil _).symm
  | cons el els ih =>
    rw [List.foldl_cons, ih]
    cases el with
    | context c => rfl
    | continuation k => rfl
    | entity e => simp [push, Element.entity?]

end Push

variable {p q : EntityPage} {vs vs' : List Value} {l : List UInt8} {e : Error}

/-- The page made of what the elements are read as holds what they give. -/
theorem holds_of_reads {els : List Element} (h : List.Forall₂ Element.Reads vs els) :
    (els.foldl push {}).Holds vs where
  context := by
    rw [context_foldl_push, bind_getLast?_of_forall₂ (forall₂_filter (fun hel => ?_) h)]
    rcases hel with ⟨hid, hc⟩ | ⟨hid, -⟩ | ⟨hid, -⟩
    · exact .inl ⟨_, rfl, hid, hc⟩
    · exact .inr ⟨rfl, fun hid' => not_bears_continuationId hid' hid⟩
    · exact .inr ⟨rfl, hid.1⟩
  continuation := by
    rw [continuation_foldl_push, bind_getLast?_of_forall₂ (forall₂_filter (fun hel => ?_) h),
      Option.or_none]
    rcases hel with ⟨hid, -⟩ | ⟨hid, hk⟩ | ⟨hid, -⟩
    · exact .inr ⟨rfl, not_bears_continuationId hid⟩
    · exact .inl ⟨_, rfl, hid, hk⟩
    · exact .inr ⟨rfl, hid.2⟩
  entities := by
    rw [entities_foldl_push, List.nil_append]
    refine forall₂_filter (fun hel => ?_) h
    rcases hel with ⟨hid, -⟩ | ⟨hid, -⟩ | ⟨hid, he⟩
    · exact .inr ⟨rfl, fun hother => hother.1 hid⟩
    · exact .inr ⟨rfl, fun hother => hother.2 hid⟩
    · exact .inl ⟨_, rfl, hid, he⟩

theorem Holds.unique (hp : p.Holds vs) (hq : q.Holds vs) : p = q := by
  have hentities : some p.entities = some q.entities :=
    (mapM_eq_some_iff.mpr hp.entities).symm.trans (mapM_eq_some_iff.mpr hq.entities)
  exact EntityPage.ext (hp.context.trans hq.context.symm) (Option.some.inj hentities)
    (hp.continuation.trans hq.continuation.symm)

theorem ofValues?_eq_ok_iff : ofValues? vs = .ok p ↔ Format vs ∧ p.Holds vs := by
  have hreads : ∀ els, vs.mapM Element.ofValue? = .ok els ↔ List.Forall₂ Element.Reads vs els := by
    intro els
    simp only [mapM_eq_ok_iff, Element.ofValue?_eq_ok_iff]
  constructor
  · intro h
    obtain ⟨els, hels, h⟩ := exists_of_bind_eq_ok h
    obtain rfl := Except.ok.inj h
    have hels := (hreads els).mp hels
    exact ⟨format_iff.mpr (exists_of_forall₂ hels), holds_of_reads hels⟩
  · rintro ⟨hformat, hp⟩
    obtain ⟨els, hels⟩ := exists_forall₂ (format_iff.mp hformat)
    rw [hp.unique (holds_of_reads hels), ofValues?, (hreads els).mpr hels]
    rfl

theorem ofOctets?_eq_ok_iff : ofOctets? l = .ok p ↔
    ∃ vs, Decoder.value.ofOctets? l = some (.array vs) ∧ Format vs ∧ p.Holds vs := by
  simp only [← Decoder.ofOctets?_list_value, ← ofValues?_eq_ok_iff]
  unfold ofOctets?
  rcases (Decoder.list Decoder.value).ofOctets? l with _ | vs
  · simp
  · simp

theorem unread_of_ofOctets? (h : ofOctets? l = .error e) : e.Unread := by
  unfold ofOctets? at h
  split at h
  · rcases eq_or_exists_of_bind_eq_error h with hl | ⟨elements, -, h⟩
    · obtain ⟨v, -, hv⟩ := exists_of_mapM_eq_error hl
      exact Element.unread_of_ofValue? hv
    · cases h
  · obtain rfl := Except.error.inj h
    exact ⟨rfl, rfl⟩

/-! ## Elements in other places -/

theorem eq_of_perm_of_length_le_one {α : Type} {l m : List α} (h : l.Perm m)
    (hlength : l.length ≤ 1) : l = m := by
  match l, hlength with
  | [], _ => exact (List.nil_perm.mp h).symm
  | [a], _ => exact List.singleton_perm.mp h

theorem Moved.format_iff (h : Moved vs vs') : Format vs ↔ Format vs' := by
  simp only [EntityPage.format_iff, h.perm.mem_iff]

theorem Moved.holds_iff (h : Moved vs vs') : p.Holds vs ↔ p.Holds vs' := by
  have hcontexts := eq_of_perm_of_length_le_one (h.perm.filter _) h.contexts
  have hcontinuations := eq_of_perm_of_length_le_one (h.perm.filter _) h.continuations
  constructor
  · rintro ⟨hcontext, hcontinuation, hentities⟩
    exact ⟨hcontexts ▸ hcontext, hcontinuations ▸ hcontinuation, h.others ▸ hentities⟩
  · rintro ⟨hcontext, hcontinuation, hentities⟩
    exact ⟨hcontexts ▸ hcontext, hcontinuations ▸ hcontinuation, h.others ▸ hentities⟩

/-- Octets are read as a page exactly if they are an array in the format of pages, and then as the
page that the array holds. What cannot be read fails as unreadable. With at most one context and at
most one continuation, it makes no difference where these stand. -/
theorem reads_format (l : List UInt8) :
    ((∃ p, ofOctets? l = .ok p) ↔
      ∃ vs, Decoder.value.ofOctets? l = some (.array vs) ∧ Format vs) ∧
    (∀ p vs, ofOctets? l = .ok p → Decoder.value.ofOctets? l = some (.array vs) → p.Holds vs) ∧
    (∀ e, ofOctets? l = .error e → e.kind = .clientProcessing) ∧
    (∀ l' vs vs', Decoder.value.ofOctets? l = some (.array vs) →
      Decoder.value.ofOctets? l' = some (.array vs') → Moved vs vs' →
      ∀ p, ofOctets? l = .ok p ↔ ofOctets? l' = .ok p) := by
  refine ⟨⟨?_, ?_⟩, ?_, fun e h => (unread_of_ofOctets? h).kind, ?_⟩
  · rintro ⟨p, hp⟩
    obtain ⟨vs, hvs, hformat, -⟩ := ofOctets?_eq_ok_iff.mp hp
    exact ⟨vs, hvs, hformat⟩
  · rintro ⟨vs, hvs, hformat⟩
    obtain ⟨els, hels⟩ := exists_forall₂ (format_iff.mp hformat)
    exact ⟨_, ofOctets?_eq_ok_iff.mpr ⟨vs, hvs, hformat, holds_of_reads hels⟩⟩
  · intro p vs hp hvs
    obtain ⟨vs', hvs', -, hholds⟩ := ofOctets?_eq_ok_iff.mp hp
    obtain rfl := Value.array.inj (Option.some.inj (hvs.symm.trans hvs'))
    exact hholds
  · intro l' vs vs' hvs hvs' hmoved p
    have hread : ∀ {l vs}, Decoder.value.ofOctets? l = some (.array vs) →
        (ofOctets? l = .ok p ↔ Format vs ∧ p.Holds vs) := by
      intro l vs hvs
      simp only [ofOctets?_eq_ok_iff, hvs, Option.some.injEq, Value.array.injEq, exists_eq_left']
    rw [hread hvs, hread hvs', hmoved.format_iff, hmoved.holds_iff]

/-- A context before and a continuation behind an entity may change places. -/
theorem reads_format_turned :
    let context : Value := .object [("id", .string "@context"),
      ("namespaces", .object [("a", .string "http://a/")])]
    let entity : Value := .object [("id", .string "a:1")]
    let continuation : Value := .object [("id", .string "@continuation"), ("token", .string "t")]
    let l := Utf8.encode (Value.array [context, entity, continuation]).text
    let l' := Utf8.encode (Value.array [continuation, entity, context]).text
    ∃ p, ofOctets? l = .ok p ∧ ofOctets? l' = .ok p ∧ p.entities = [{ id := "a:1" }] ∧
      p.continuation = some ⟨"t"⟩ ∧ p.context ≠ {} := by
  intro context entity continuation l l'
  have hcontext : context.Readable := ⟨trivial, ⟨trivial, trivial⟩, trivial⟩
  have hentity : entity.Readable := ⟨trivial, trivial⟩
  have hcontinuation : continuation.Readable := ⟨trivial, trivial, trivial⟩
  have hl : Decoder.value.ofOctets? l = some (.array [context, entity, continuation]) := by
    have hreadable : (Value.array [context, entity, continuation]).Readable :=
      ⟨hcontext, hentity, hcontinuation, trivial⟩
    rw [Decoder.ofOctets?, Json.Raw.ofOctets?_encode_text hreadable]
    rfl
  have hl' : Decoder.value.ofOctets? l' = some (.array [continuation, entity, context]) := by
    have hreadable : (Value.array [continuation, entity, context]).Readable :=
      ⟨hcontinuation, hentity, hcontext, trivial⟩
    rw [Decoder.ofOctets?, Json.Raw.ofOctets?_encode_text hreadable]
    rfl
  have hformat : Format [context, entity, continuation] := by
    simp only [format_iff, List.forall_mem_cons]
    exact ⟨⟨_, .context rfl rfl⟩, ⟨_, .entity (by decide) rfl⟩, ⟨_, .continuation rfl rfl⟩, by simp⟩
  have hmoved : Moved [context, entity, continuation] [continuation, entity, context] :=
    ⟨List.reverse_perm [continuation, entity, context], rfl, by decide, by decide⟩
  obtain ⟨p, hp⟩ := (reads_format l).1.mpr ⟨_, hl, hformat⟩
  have hholds := (reads_format l).2.1 p _ hp hl
  refine ⟨p, hp, ((reads_format l).2.2.2 l' _ _ hl hl' hmoved p).mp hp, ?_, ?_, ?_⟩
  · exact Option.some.inj (mapM_eq_some_iff.mpr hholds.entities).symm
  · exact hholds.continuation
  · rw [hholds.context]
    decide

end EntityPage

end EntityHub
