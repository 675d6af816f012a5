import EntityHub.Proofs.Client.Expansion
import EntityHub.Proofs.Entity.Expansion
import Mathlib.Logic.Function.Iterate
/-!
# Expansion done again

What one context has expanded may be left alone by another (`Context.Leaves`), and then so are whole
entities (`Entity.expand_expand`). A context leaves alone what it has expanded itself if its URIs do not
begin with one of its prefixes (`Context.Sane`). So such a context expands an entity once and for all,
and a page that a feed has expanded is not changed by expanding it again
(`Entity.expand_iterate`).
-/

namespace EntityHub

open Json (Value)

/-! ## Identifiers -/

namespace Context

variable {c c' : Context}

/-- Every URI has a colon, and the text before its first one is no prefix. -/
def Sane (c : Context) : Prop :=
  ∀ p u, c.uri? p = some u → ∃ q r, u = q ++ ":" ++ r ∧ ':' ∉ q.toList ∧ c.uri? q = none

/-- The identifiers that `c'` gives are left alone by `c`. -/
def Leaves (c c' : Context) : Prop := ∀ s, c.expand (c'.expand s) = c'.expand s

theorem expand_of_uri?_eq_none {p l : String} (hp : ':' ∉ p.toList) (hu : c.uri? p = none) :
    c.expand (p ++ ":" ++ l) = p ++ ":" ++ l := by
  rw [expand_of_colon c hp, hu]
  rfl

theorem Sane.leaves (hc : c.Sane) : c.Leaves c := by
  intro s
  rcases notMem_or_exists_colon s with hs | ⟨p, l, hp, rfl⟩
  · rw [expand_of_notMem c hs, expand_of_notMem c hs]
  · rcases hu : c.uri? p with _ | u
    · rw [expand_of_uri?_eq_none hp hu, expand_of_uri?_eq_none hp hu]
    · -- the first colon of the expanded identifier is that of the URI
      obtain ⟨q, r, rfl, hq, hunknown⟩ := hc p u hu
      have hexpand : c.expand (p ++ ":" ++ l) = q ++ ":" ++ (r ++ l) := by
        rw [expand_of_colon c hp, hu, Option.map_some, Option.getD_some, String.append_assoc]
      rw [hexpand, expand_of_uri?_eq_none hq hunknown]

theorem empty_leaves (c : Context) : ({} : Context).Leaves c := by
  intro s
  rcases notMem_or_exists_colon (c.expand s) with hs | ⟨p, l, hp, hs⟩
  · exact expand_of_notMem _ hs
  · rw [hs]
    exact expand_of_uri?_eq_none hp rfl

end Context

/-! ## Entities -/

namespace Entity

variable {c c' : Context}

mutual

theorem expandTargets_expandTargets (h : c.Leaves c') :
    ∀ v, expandTargets c (expandTargets c' v) = expandTargets c' v
  | .string s => congrArg Value.string (h s)
  | .array items => congrArg Value.array (expandItems_expandItems h items)
  | .null => rfl
  | .bool _ => rfl
  | .number _ => rfl
  | .object _ => rfl

theorem expandItems_expandItems (h : c.Leaves c') :
    ∀ l, expandItems c (expandItems c' l) = expandItems c' l
  | [] => rfl
  | v :: l => congrArg₂ List.cons (expandTargets_expandTargets h v) (expandItems_expandItems h l)

end

/-- The keys of a dictionary that was expanded are left alone, so it is made of the same entries. -/
theorem expandKeys_expandKeys (h : c.Leaves c') {f g : Value → Value} (hfg : ∀ v, f (g v) = g v)
    (d : Dict Value) : expandKeys c f (expandKeys c' g d) = expandKeys c' g d := by
  have hentry : ∀ e ∈ (expandKeys c' g d).entries, (c.expand e.1, f e.2) = e := by
    intro e he
    obtain ⟨⟨k, v⟩, -, rfl⟩ := List.mem_map.mp (Dict.mem_of_mem_ofList he)
    exact Prod.ext (h k) (hfg v)
  rw [expandKeys, List.map_congr_left hentry, List.map_id']
  exact Dict.ofList_entries _

/-- An entity that one context has expanded is left alone by another that leaves its identifiers
alone. -/
theorem expand_expand (h : c.Leaves c') (e : Entity) : (e.expand c').expand c = e.expand c' :=
  Entity.ext (h e.id) rfl rfl
    (expandKeys_expandKeys h (expandTargets_expandTargets h) e.references)
    (expandKeys_expandKeys h (fun _ => rfl) e.props)

end Entity

/-! ## Pages -/

/-- A page that a feed has expanded is left alone by its own context: that is the one that the feed goes
by, or it has no prefixes. -/
theorem EntityPage.expand_apply_turn {c : Context} (hc : c.Sane) {x : Expansion} {p : EntityPage}
    (hx : x.turn p = some c) : ((x.turn p).apply p).expand = (x.turn p).apply p := by
  have hleaves : p.context.Leaves c := by
    obtain ⟨last, rfl, hlast⟩ := Option.map_eq_some_iff.mp hx
    split at hlast
    · next hempty =>
      rw [Context.eq_empty_of_isEmpty hempty]
      exact Context.empty_leaves c
    · rw [hlast]
      exact hc.leaves
  have happly : (x.turn p).apply p = { p with entities := p.entities.map (Entity.expand c) } := by
    rw [hx]
    rfl
  rw [happly, expand, List.map_map]
  exact congrArg (fun l => { p with entities := l })
    (List.map_congr_left fun e _ => Entity.expand_expand hleaves e)

namespace Entity

/-- A context none of whose URIs begins with one of its prefixes expands an entity once and for all:
to do it any number of times is to do it once. Nor does a page that a feed has expanded by this
context change any more, however often it is expanded by its own. -/
theorem expand_iterate {c : Context} (hc : c.Sane) {n : Nat} (hn : 1 ≤ n) :
    (∀ e, (expand c)^[n] e = e.expand c) ∧
      ∀ (x : Expansion) (p : EntityPage), x.turn p = some c →
        EntityPage.expand^[n] ((x.turn p).apply p) = (x.turn p).apply p := by
  refine ⟨fun e => ?_, fun x p hx => ?_⟩
  · obtain ⟨m, rfl⟩ := Nat.exists_eq_add_of_le' hn
    rw [Function.iterate_succ_apply]
    exact Function.iterate_fixed (expand_expand hc.leaves e) m
  · exact Function.iterate_fixed (EntityPage.expand_apply_turn hc hx) n

/-- A context with two prefixes for one URI. -/
def shared : Context := (Context.insert {} "a" "http://e/").insert "b" "http://e/"

/-- An entity that names a property under both prefixes, and a relation whose targets are nested. -/
def doubled : Entity where
  id := "a:1"
  references := .ofList [("b:knows", .array [.string "a:2", .array [.string "b:3", .null]])]
  props := .ofList [("a:x", .bool true), ("b:x", .bool false)]

/-- The entity is expanded three times, alone and on a page without a context. One of its two
properties is lost the first time. -/
theorem expand_iterate_doubled :
    shared.Sane ∧ 1 ≤ 3 ∧ (expand shared)^[3] doubled = doubled.expand shared ∧
      (doubled.expand shared).props.entries = [("http://e/x", .bool false)] ∧
      ∃ x : Expansion, ∃ p : EntityPage, x.turn p = some shared ∧ p.entities = [doubled] ∧
        EntityPage.expand^[3] ((x.turn p).apply p) = (x.turn p).apply p := by
  have hsane : shared.Sane := by
    intro p u hu
    have huri : u = "http://e/" := by
      simp only [Context.uri?, shared, Context.insert, Dict.get?_insert] at hu
      split at hu
      · exact (Option.some.inj hu).symm
      · split at hu
        · exact (Option.some.inj hu).symm
        · cases hu
    exact ⟨"http", "//e/", huri, by decide, by decide +kernel⟩
  obtain ⟨hentity, hpage⟩ := expand_iterate hsane (n := 3) (by decide)
  exact ⟨hsane, by decide, hentity doubled, rfl, some shared, { entities := [doubled] }, rfl, rfl,
    hpage (some shared) { entities := [doubled] } rfl⟩

end Entity

end EntityHub
