import EntityHub.Dict
import Mathlib.Data.List.Induction
import Mathlib.Data.List.Dedup
/-!
# Dictionaries made of lists

What is found in a dictionary are its entries, and it is told by what is found in it
(`Dict.ext_get?`). One that is made of a list of entries has as many as there are different keys
(`Dict.length_ofList`), and of those with one key the last one is found (`Dict.get?_ofList`). So where
the keys of a dictionary are changed, and several become the same, the value of the greatest of them is
kept (`Dict.get?_ofList_map_eq_some_iff`).
-/

namespace EntityHub.Dict

universe u

variable {α β : Type u}

/-! ## Entries -/

/-- What is in a dictionary was in the list that it was made of. -/
theorem mem_of_mem_insertEntry {k : String} {v : α} {l : List (String × α)} {e : String × α}
    (h : e ∈ insertEntry k v l) : e = (k, v) ∨ e ∈ l := by
  induction l with
  | nil => exact .inl (List.mem_singleton.mp h)
  | cons a l ih =>
    simp only [insertEntry] at h
    split at h
    · exact List.mem_cons.mp h
    · split at h
      · exact (List.mem_cons.mp h).imp_right (List.mem_cons_of_mem a)
      · rcases List.mem_cons.mp h with rfl | h
        · exact .inr List.mem_cons_self
        · exact (ih h).imp_right (List.mem_cons_of_mem a)

theorem mem_of_mem_ofList {l : List (String × α)} {e : String × α}
    (h : e ∈ (ofList l).entries) : e ∈ l := by
  induction l using List.reverseRecOn with
  | nil => cases h
  | append_singleton l a ih =>
    rw [ofList_append_singleton] at h
    rcases mem_of_mem_insertEntry h with rfl | h
    · exact List.mem_append_right l List.mem_cons_self
    · exact List.mem_append_left _ (ih h)

/-- An entry with the greatest key comes last. -/
theorem insertEntry_eq_concat {k : String} {l : List (String × α)} (h : ∀ e ∈ l, e.1 < k) (v : α) :
    insertEntry k v l = l ++ [(k, v)] := by
  induction l with
  | nil => rfl
  | cons e l ih =>
    obtain ⟨he, hl⟩ := List.forall_mem_cons.mp h
    rw [insertEntry, if_neg (String.lt_asymm he), if_neg (String.ne_of_lt he).symm, ih hl,
      List.cons_append]

theorem entries_ofList {l : List (String × α)} (h : l.Pairwise fun a b => a.1 < b.1) :
    (ofList l).entries = l := by
  induction l using List.reverseRecOn with
  | nil => rfl
  | append_singleton l e ih =>
    obtain ⟨hl, -, hlast⟩ := List.pairwise_append.mp h
    have hinsert : ((ofList l).insert e.1 e.2).entries = insertEntry e.1 e.2 (ofList l).entries := rfl
    rw [ofList_append_singleton, hinsert, ih hl]
    exact insertEntry_eq_concat (fun a ha => hlast a ha e List.mem_cons_self) e.2

/-- A dictionary is made of its entries. -/
theorem ofList_entries (d : Dict α) : ofList d.entries = d :=
  ext (entries_ofList d.sorted)

/-! ## Look-ups -/

/-- An entry is found by its key. -/
theorem get?_eq_some_iff {d : Dict α} {k : String} {v : α} :
    d.get? k = some v ↔ (k, v) ∈ d.entries := by
  obtain ⟨l, hl⟩ := d
  show l.lookup k = some v ↔ (k, v) ∈ l
  induction l with
  | nil => simp
  | cons e l ih =>
    obtain ⟨k', v'⟩ := e
    obtain ⟨hlast, hl⟩ := List.pairwise_cons.mp hl
    by_cases hk : k = k'
    · subst hk
      have hnone : (k, v) ∉ l := fun hmem => String.lt_irrefl k (hlast (k, v) hmem)
      rw [List.lookup_cons_self, List.mem_cons, or_iff_left hnone, Option.some.injEq,
        Prod.mk.injEq, eq_self, true_and, eq_comm]
    · have hne : (k, v) ≠ (k', v') := fun heq => hk (Prod.mk.inj heq).1
      rw [lookup_cons_of_ne hk, ih hl, List.mem_cons, or_iff_right hne]

theorem nodup_keys (d : Dict α) : (d.entries.map Prod.fst).Nodup :=
  List.pairwise_map.mpr (d.sorted.imp String.ne_of_lt)

/-- Dictionaries in which the same is found are the same. -/
theorem ext_get? {d d' : Dict α} (h : ∀ k, d.get? k = d'.get? k) : d = d' := by
  have hmem : ∀ e, e ∈ d.entries ↔ e ∈ d'.entries := fun e => by
    rw [← get?_eq_some_iff, ← get?_eq_some_iff, h]
  have hperm := (List.perm_ext_iff_of_nodup (List.Nodup.of_map _ d.nodup_keys)
    (List.Nodup.of_map _ d'.nodup_keys)).mpr hmem
  refine ext (hperm.eq_of_pairwise (fun a b _ _ hab hba => ?_) d.sorted d'.sorted)
  exact absurd hab (String.lt_asymm hba)

/-- Of the entries with one key the last one is found. -/
theorem get?_ofList (l : List (String × α)) (k : String) :
    (ofList l).get? k = l.reverse.lookup k := by
  induction l using List.reverseRecOn with
  | nil => rfl
  | append_singleton l e ih =>
    rw [ofList_append_singleton, get?_insert, List.reverse_concat, List.lookup_cons, ih]
    split
    · next hk => rw [hk, beq_self_eq_true]
    · next hk => rw [beq_eq_false_iff_ne.mpr hk]

/-- Something is found under the keys of the list. -/
theorem exists_get?_ofList_iff {l : List (String × α)} {k : String} :
    (∃ v, (ofList l).get? k = some v) ↔ k ∈ l.map Prod.fst := by
  rw [← Option.isSome_iff_exists, get?_ofList, List.lookup_isSome_iff, List.mem_map]
  simp only [List.mem_reverse, beq_iff_eq, eq_comm (a := k)]

/-- There are as many entries as different keys. -/
theorem length_ofList (l : List (String × α)) :
    (ofList l).entries.length = (l.map Prod.fst).dedup.length := by
  have hmem : ∀ k, k ∈ (ofList l).entries.map Prod.fst ↔ k ∈ (l.map Prod.fst).dedup := fun k => by
    rw [List.mem_dedup, ← exists_get?_ofList_iff (l := l), List.mem_map]
    simp only [get?_eq_some_iff, Prod.exists, exists_and_right, exists_eq_right]
  have hperm := (List.perm_ext_iff_of_nodup (nodup_keys _) (List.nodup_dedup _)).mpr hmem
  rw [← hperm.length_eq, List.length_map]

/-- No entry is lost if and only if no key stands twice. -/
theorem length_ofList_eq_iff (l : List (String × α)) :
    (ofList l).entries.length = l.length ↔ (l.map Prod.fst).Nodup := by
  have hlength : l.length = (l.map Prod.fst).length := (List.length_map Prod.fst).symm
  rw [length_ofList, hlength, ← List.dedup_eq_self]
  exact ⟨(List.dedup_sublist _).eq_of_length, congrArg List.length⟩

/-! ## Keys that are changed -/

/-- Where keys are changed, the value of the greatest key stands under what several keys become. -/
theorem get?_ofList_map_eq_some_iff {d : Dict α} {g : String → String} {f : α → β} {k' : String}
    {w : β} : (ofList (d.entries.map fun e => (g e.1, f e.2))).get? k' = some w ↔
      ∃ k v, d.get? k = some v ∧ g k = k' ∧ f v = w ∧
        ∀ k₁ v₁, d.get? k₁ = some v₁ → g k₁ = k' → k₁ ≤ k := by
  -- from the end of the list, the first entry whose key becomes `k'`
  have hsorted := List.pairwise_reverse.mpr d.sorted
  have hget : ∀ {k v}, d.get? k = some v ↔ (k, v) ∈ d.entries.reverse := by
    intro k v
    rw [get?_eq_some_iff, List.mem_reverse]
  rw [get?_ofList, ← List.map_reverse, List.lookup_eq_some_iff]
  simp only [hget]
  generalize d.entries.reverse = l at hsorted
  constructor
  · rintro ⟨m, m', heq, hm⟩
    obtain ⟨a, b, rfl, rfl, hb⟩ := List.map_eq_append_iff.mp heq
    obtain ⟨⟨k, v⟩, b, rfl, he, rfl⟩ := List.map_eq_cons_iff.mp hb
    obtain ⟨rfl, rfl⟩ := Prod.mk.inj he
    refine ⟨k, v, by simp, rfl, rfl, fun k₁ v₁ hmem hk₁ => ?_⟩
    rcases List.mem_append.mp hmem with hmem | hmem
    · simpa [hk₁] using hm _ (List.mem_map_of_mem hmem)
    · rcases List.mem_cons.mp hmem with heq | hmem
      · obtain ⟨rfl, -⟩ := Prod.mk.inj heq
        exact String.le_refl k₁
      · have hlast := List.rel_of_pairwise_cons (List.pairwise_append.mp hsorted).2.1 hmem
        exact String.not_lt.mp (String.lt_asymm hlast)
  · rintro ⟨k, v, hmem, rfl, rfl, hgreatest⟩
    obtain ⟨a, b, rfl⟩ := List.append_of_mem hmem
    refine ⟨a.map fun e => (g e.1, f e.2), b.map fun e => (g e.1, f e.2), by simp, ?_⟩
    rintro _ hentry
    obtain ⟨⟨k₁, v₁⟩, he, rfl⟩ := List.mem_map.mp hentry
    have hlt : k < k₁ := (List.pairwise_append.mp hsorted).2.2 _ he _ List.mem_cons_self
    refine bne_iff_ne.mpr fun heq => ?_
    exact hgreatest k₁ v₁ (List.mem_append_left _ he) heq.symm hlt

end EntityHub.Dict
