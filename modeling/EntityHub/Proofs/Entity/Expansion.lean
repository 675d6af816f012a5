import EntityHub.Entity.Page
import EntityHub.Proofs.Dict
import EntityHub.Proofs.Text.Order
import Mathlib.Data.List.Forall2
/-!
# Expansion as a relation

What an expanded entity looks like, said without the way in which it is made: an identifier is rewritten
at its first colon or stays (`Context.Expands`), the targets of a relation are rewritten in arrays of
any depth and nowhere else (`Entity.Retargets`), and of the entries whose keys are rewritten to one
key, the entry of the greatest key is kept (`Entity.Gathers`). `Entity.expand_eq_iff` says that
expansion is that and nothing else.

So entries can be lost. `Entity.lossless_iff` says when: if and only if two keys are rewritten to one.
-/

namespace EntityHub

open Json (Value)

/-! ## Identifiers -/

namespace Context

variable {c : Context} {s s' p l : String}

/-- An identifier and what it is rewritten to: where the text before the first colon is a known prefix,
the URI takes its place. Every other identifier stays as it is. -/
inductive Expands (c : Context) : String → String → Prop
  | known {p l u : String} (hp : ':' ∉ p.toList) (hu : c.uri? p = some u) :
      Expands c (p ++ ":" ++ l) (u ++ l)
  | kept {s : String} (h : ∀ p l, s = p ++ ":" ++ l → ':' ∉ p.toList → c.uri? p = none) :
      Expands c s s

/-- An identifier has no colon, or it is cut at its first one. -/
theorem notMem_or_exists_colon (s : String) :
    ':' ∉ s.toList ∨ ∃ p l, ':' ∉ p.toList ∧ s = p ++ ":" ++ l := by
  by_cases hs : ':' ∈ s.toList
  · obtain ⟨x, y, hxy, hx⟩ := List.eq_append_cons_of_mem hs
    refine .inr ⟨.ofList x, .ofList y, by rwa [String.toList_ofList], ?_⟩
    rw [← String.toList_inj]
    simpa using hxy
  · exact .inl hs

theorem splitFirst_colon (hp : ':' ∉ p.toList) (l : String) :
    splitFirst ':' (p ++ ":" ++ l).toList = some (p.toList, l.toList) :=
  splitFirst_eq_some_iff.mpr ⟨by simp, hp⟩

theorem expand_of_notMem (c : Context) (hs : ':' ∉ s.toList) : c.expand s = s := by
  rcases hsplit : splitFirst ':' s.toList with _ | ⟨x, y⟩
  · rw [expand, expand?, hsplit]
    rfl
  · rw [(splitFirst_eq_some_iff.mp hsplit).1] at hs
    simp at hs

theorem expand_of_colon (c : Context) (hp : ':' ∉ p.toList) (l : String) :
    c.expand (p ++ ":" ++ l) = ((c.uri? p).map (· ++ l)).getD (p ++ ":" ++ l) := by
  rw [expand, expand?, splitFirst_colon hp, Option.bind_eq_bind, Option.bind_some]
  simp only [String.ofList_toList]
  rcases c.uri? p <;> rfl

theorem expands_iff : c.Expands s s' ↔ c.expand s = s' := by
  constructor
  · rintro (⟨hp, hu⟩ | h)
    · rw [expand_of_colon c hp, hu]
      rfl
    · rcases notMem_or_exists_colon s with hs | ⟨p, l, hp, rfl⟩
      · exact expand_of_notMem c hs
      · rw [expand_of_colon c hp, h p l rfl hp]
        rfl
  · rintro rfl
    rcases notMem_or_exists_colon s with hs | ⟨p, l, hp, rfl⟩
    · rw [expand_of_notMem c hs]
      refine .kept ?_
      rintro p l rfl -
      simp at hs
    · rw [expand_of_colon c hp]
      rcases hu : c.uri? p with _ | u
      · refine .kept fun p' l' heq hp' => ?_
        have hsplit := splitFirst_colon hp l
        rw [heq, splitFirst_colon hp' l'] at hsplit
        rw [String.toList_inj.mp (Prod.mk.inj (Option.some.inj hsplit)).1, hu]
      · exact .known hp hu

end Context

namespace Entity

variable {c : Context}

/-! ## Targets -/

/-- A target of a relation and what it is rewritten to: an identifier, or one by one the items of an
array. Everything else stays as it is. -/
inductive Retargets (c : Context) : Value → Value → Prop
  | string {s s' : String} (h : c.Expands s s') : Retargets c (.string s) (.string s')
  | array {l l' : List Value} (h : List.Forall₂ (Retargets c) l l') :
      Retargets c (.array l) (.array l')
  | null : Retargets c .null .null
  | bool (b : Bool) : Retargets c (.bool b) (.bool b)
  | number (n : Json.Number) : Retargets c (.number n) (.number n)
  | object (members : List (String × Value)) : Retargets c (.object members) (.object members)

mutual

theorem retargets_expandTargets (c : Context) : ∀ v, Retargets c v (expandTargets c v)
  | .string _ => .string (Context.expands_iff.mpr rfl)
  | .array items => .array (retargets_expandItems c items)
  | .null => .null
  | .bool b => .bool b
  | .number n => .number n
  | .object members => .object members

theorem retargets_expandItems (c : Context) :
    ∀ l, List.Forall₂ (Retargets c) l (expandItems c l)
  | [] => .nil
  | v :: l => .cons (retargets_expandTargets c v) (retargets_expandItems c l)

end

mutual

theorem eq_of_retargets (c : Context) : ∀ v w, Retargets c v w → expandTargets c v = w
  | .string _, _, .string h => congrArg Value.string (Context.expands_iff.mp h)
  | .array items, _, .array h => congrArg Value.array (eq_of_retargets_items c items _ h)
  | .null, _, .null => rfl
  | .bool _, _, .bool _ => rfl
  | .number _, _, .number _ => rfl
  | .object _, _, .object _ => rfl

theorem eq_of_retargets_items (c : Context) :
    ∀ l m, List.Forall₂ (Retargets c) l m → expandItems c l = m
  | [], _, .nil => rfl
  | v :: l, _, .cons h hl =>
    congrArg₂ List.cons (eq_of_retargets c v _ h) (eq_of_retargets_items c l _ hl)

end

theorem retargets_iff {v w : Value} : Retargets c v w ↔ expandTargets c v = w :=
  ⟨eq_of_retargets c v w, fun h => h ▸ retargets_expandTargets c v⟩

/-! ## Entries -/

/-- A dictionary and what it becomes where keys are rewritten and values changed by `R`. -/
structure Gathers (c : Context) (R : Value → Value → Prop) (d d' : Dict Value) : Prop where
  /-- The keys are those to which the keys are rewritten. -/
  key : ∀ k', (∃ w, d'.get? k' = some w) ↔ ∃ k v, d.get? k = some v ∧ c.Expands k k'
  /-- Under each stands the value of the key with the greatest octets that is rewritten to it. -/
  value : ∀ k v k', d.get? k = some v → c.Expands k k' →
    (∀ k₁ v₁, d.get? k₁ = some v₁ → c.Expands k₁ k' → Utf8.encode k₁ ≤ Utf8.encode k) →
      ∃ w, d'.get? k' = some w ∧ R v w

variable {f : Value → Value} {d d' : Dict Value}

theorem get?_expandKeys_eq_some_iff {k' : String} {w : Value} :
    (expandKeys c f d).get? k' = some w ↔ ∃ k v, d.get? k = some v ∧ c.expand k = k' ∧ f v = w ∧
      ∀ k₁ v₁, d.get? k₁ = some v₁ → c.expand k₁ = k' → k₁ ≤ k :=
  Dict.get?_ofList_map_eq_some_iff

theorem exists_get?_expandKeys_iff {k' : String} : (∃ w, (expandKeys c f d).get? k' = some w) ↔
    ∃ k v, d.get? k = some v ∧ c.expand k = k' := by
  rw [expandKeys, Dict.exists_get?_ofList_iff]
  simp only [List.map_map, List.mem_map, Function.comp_apply, Prod.exists, Dict.get?_eq_some_iff]

/-- The entries come to what is said of them, and to nothing else. -/
theorem expandKeys_eq_iff {R : Value → Value → Prop} (hR : ∀ v w, R v w ↔ f v = w) :
    expandKeys c f d = d' ↔ Gathers c R d d' := by
  constructor
  · rintro rfl
    refine ⟨fun k' => ?_, fun k v k' hv hk hgreatest => ?_⟩
    · simp only [Context.expands_iff]
      exact exists_get?_expandKeys_iff
    · simp only [Context.expands_iff, Utf8.encode_le_iff] at hk hgreatest
      exact ⟨f v, get?_expandKeys_eq_some_iff.mpr ⟨k, v, hv, hk, rfl, hgreatest⟩,
        (hR v (f v)).mpr rfl⟩
  · intro h
    have hget : ∀ {k' w}, (expandKeys c f d).get? k' = some w → d'.get? k' = some w := by
      intro k' w hw
      obtain ⟨k, v, hv, hk, rfl, hgreatest⟩ := get?_expandKeys_eq_some_iff.mp hw
      obtain ⟨w, hw, hvw⟩ := h.value k v k' hv (Context.expands_iff.mpr hk) (by
        simpa only [Context.expands_iff, Utf8.encode_le_iff] using hgreatest)
      rw [hw, (hR v w).mp hvw]
    refine Dict.ext_get? fun k' => Option.ext fun w => ⟨hget, fun hw => ?_⟩
    -- there is some value under this key, so it is the one that was found
    obtain ⟨k, v, hv, hk⟩ := (h.key k').mp ⟨w, hw⟩
    obtain ⟨w', hw'⟩ := exists_get?_expandKeys_iff.mpr ⟨k, v, hv, Context.expands_iff.mp hk⟩
    rw [hw', ← hget hw', hw]

/-! ## Entities -/

/-- An entity and what it is expanded to. -/
structure Expanded (c : Context) (e e' : Entity) : Prop where
  id : c.Expands e.id e'.id
  recorded : e'.recorded = e.recorded
  deleted : e'.deleted = e.deleted
  references : Gathers c (Retargets c) e.references e'.references
  props : Gathers c (fun v w => v = w) e.props e'.props

/-- Expansion is the rewriting that is described, and nothing else: of the identifier, of the keys, of
which the greatest counts where several become one, and of the targets of relations in arrays of any
depth. -/
theorem expand_eq_iff (c : Context) (e e' : Entity) : e.expand c = e' ↔ Expanded c e e' := by
  have hreferences : expandKeys c (expandTargets c) e.references = e'.references ↔
      Gathers c (Retargets c) e.references e'.references :=
    expandKeys_eq_iff fun _ _ => retargets_iff
  have hprops : expandKeys c (fun v => v) e.props = e'.props ↔
      Gathers c (fun v w => v = w) e.props e'.props :=
    expandKeys_eq_iff fun _ _ => Iff.rfl
  rw [Entity.ext_iff]
  constructor
  · rintro ⟨hid, hrecorded, hdeleted, hrefs, hp⟩
    exact ⟨Context.expands_iff.mpr hid, hrecorded.symm, hdeleted.symm, hreferences.mp hrefs,
      hprops.mp hp⟩
  · rintro ⟨hid, hrecorded, hdeleted, hrefs, hp⟩
    exact ⟨Context.expands_iff.mp hid, hrecorded.symm, hdeleted.symm, hreferences.mpr hrefs,
      hprops.mpr hp⟩

/-! ## Losses -/

/-- Nothing is lost of a dictionary whose keys are rewritten: every value stands, changed by `f`, under
what its key is rewritten to, and there are as many as before. -/
structure Lossless (c : Context) (f : Value → Value) (d d' : Dict Value) : Prop where
  value : ∀ k v, d.get? k = some v → d'.get? (c.expand k) = some (f v)
  count : d'.entries.length = d.entries.length

/-- No two keys are rewritten to one. -/
def Apart (c : Context) (d : Dict Value) : Prop :=
  ∀ k v k' v', d.get? k = some v → d.get? k' = some v' → c.expand k = c.expand k' → k = k'

/-- There are as many entries as before if and only if no two keys are rewritten to one. -/
theorem length_expandKeys_eq_iff :
    (expandKeys c f d).entries.length = d.entries.length ↔ Apart c d := by
  have hlength := Dict.length_ofList_eq_iff (d.entries.map fun e => (c.expand e.1, f e.2))
  rw [List.length_map] at hlength
  rw [expandKeys, hlength, List.map_map, List.nodup_map_iff_inj_on (List.Nodup.of_map _ d.nodup_keys)]
  simp only [Function.comp_apply, Prod.forall, Apart, Dict.get?_eq_some_iff]
  constructor
  · intro h k v k' v' hv hv' heq
    exact (Prod.mk.inj (h k v hv k' v' hv' heq)).1
  · intro h k v hv k' v' hv' heq
    obtain rfl := h k v k' v' hv hv' heq
    have hvv' := (Dict.get?_eq_some_iff.mpr hv).symm.trans (Dict.get?_eq_some_iff.mpr hv')
    rw [Option.some.inj hvv']

theorem lossless_expandKeys_iff : Lossless c f d (expandKeys c f d) ↔ Apart c d := by
  constructor
  · exact fun h => length_expandKeys_eq_iff.mp h.count
  · refine fun h => ⟨fun k v hv => ?_, length_expandKeys_eq_iff.mpr h⟩
    refine get?_expandKeys_eq_some_iff.mpr ⟨k, v, hv, rfl, rfl, fun k₁ v₁ hv₁ heq => ?_⟩
    obtain rfl := h k₁ v₁ k v hv₁ hv heq
    exact String.le_refl k₁

/-- Nothing is lost of the properties of an entity if and only if no two of their keys are expanded to
one, and likewise of its relations. -/
theorem lossless_iff (c : Context) (e : Entity) :
    (Lossless c (fun v => v) e.props (e.expand c).props ↔ Apart c e.props) ∧
      (Lossless c (expandTargets c) e.references (e.expand c).references ↔ Apart c e.references) :=
  ⟨lossless_expandKeys_iff, lossless_expandKeys_iff⟩

end Entity

end EntityHub
