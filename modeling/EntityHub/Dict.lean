/-!
# Dictionaries

Finite maps from strings. A dictionary is its list of entries in strictly ascending order of
the key, so two dictionaries with the same entries are equal and writing one needs no sorting.
Strings are ordered by code point, which is the order of their UTF-8 octets.

`Dict.get?_insert` and `Dict.ofList_append_singleton` say that the last value given to a key
is the one it holds.
-/

namespace EntityHub

universe u

/-- A finite map from strings. -/
structure Dict (α : Type u) where
  /-- The entries, by ascending key. -/
  entries : List (String × α)
  sorted : entries.Pairwise fun a b => a.1 < b.1

namespace Dict

variable {α β : Type u}

/-! ## Sorted lists of entries -/

/-- The entries with `v` at `k`, in the place that the order gives it. -/
def insertEntry (k : String) (v : α) : List (String × α) → List (String × α)
  | [] => [(k, v)]
  | e :: l =>
    if k < e.1 then (k, v) :: e :: l
    else if k = e.1 then (k, v) :: l
    else e :: insertEntry k v l

theorem lt_of_not_lt_of_ne {a b : String} (h : ¬a < b) (hne : a ≠ b) : b < a :=
  Decidable.byContradiction fun h' => hne (String.le_antisymm (String.not_lt.1 h') (String.not_lt.1 h))

theorem key_of_mem_insertEntry {k : String} {v : α} {l : List (String × α)} {e : String × α}
    (h : e ∈ insertEntry k v l) : e.1 = k ∨ e ∈ l := by
  induction l with
  | nil => simp_all [insertEntry]
  | cons a l ih =>
    simp only [insertEntry] at h
    split at h
    · simp only [List.mem_cons] at h
      rcases h with rfl | h
      · exact Or.inl rfl
      · exact Or.inr (by simpa using h)
    · split at h
      · simp only [List.mem_cons] at h
        rcases h with rfl | h
        · exact Or.inl rfl
        · exact Or.inr (by simp [h])
      · simp only [List.mem_cons] at h
        rcases h with rfl | h
        · exact Or.inr (by simp)
        · rcases ih h with h | h
          · exact Or.inl h
          · exact Or.inr (by simp [h])

theorem sorted_insertEntry (k : String) (v : α) {l : List (String × α)}
    (h : l.Pairwise fun a b => a.1 < b.1) : (insertEntry k v l).Pairwise fun a b => a.1 < b.1 := by
  induction l with
  | nil => simp [insertEntry]
  | cons a l ih =>
    have hc := List.pairwise_cons.1 h
    simp only [insertEntry]
    split
    · next hk =>
      refine List.pairwise_cons.2 ⟨fun e he => ?_, h⟩
      rcases List.mem_cons.1 he with rfl | he
      · exact hk
      · exact String.lt_trans hk (hc.1 e he)
    · next hk =>
      split
      · next hka => exact List.pairwise_cons.2 ⟨fun e he => hka ▸ hc.1 e he, hc.2⟩
      · next hka =>
        refine List.pairwise_cons.2 ⟨fun e he => ?_, ih hc.2⟩
        rcases key_of_mem_insertEntry he with he | he
        · exact he ▸ lt_of_not_lt_of_ne hk hka
        · exact hc.1 e he

theorem lookup_cons_of_ne {k k' : String} (h : k' ≠ k) (v : α) (l : List (String × α)) :
    List.lookup k' ((k, v) :: l) = l.lookup k' := by
  rw [List.lookup_cons, beq_eq_false_iff_ne.2 h]

theorem lookup_insertEntry (k k' : String) (v : α) (l : List (String × α)) :
    (insertEntry k v l).lookup k' = if k' = k then some v else l.lookup k' := by
  induction l with
  | nil => by_cases h : k' = k <;> simp [insertEntry, lookup_cons_of_ne, h]
  | cons a l ih =>
    obtain ⟨ka, va⟩ := a
    simp only [insertEntry]
    split
    · by_cases h : k' = k
      · simp [h]
      · rw [lookup_cons_of_ne h, if_neg h]
    · split
      · next hka =>
        obtain rfl : k = ka := hka
        by_cases h : k' = k
        · simp [h]
        · rw [lookup_cons_of_ne h, lookup_cons_of_ne h, if_neg h]
      · next hka =>
        by_cases h : k' = ka
        · subst h
          simp [Ne.symm (a := k) hka]
        · rw [lookup_cons_of_ne h, lookup_cons_of_ne h, ih]

/-! ## The map -/

/-- The map without entries. -/
def empty : Dict α := ⟨[], .nil⟩

instance : EmptyCollection (Dict α) := ⟨empty⟩

instance : Inhabited (Dict α) := ⟨empty⟩

/-- The value at `k`. -/
def get? (d : Dict α) (k : String) : Option α := d.entries.lookup k

/-- The map with `v` at `k`, whatever was there. -/
def insert (d : Dict α) (k : String) (v : α) : Dict α :=
  ⟨insertEntry k v d.entries, sorted_insertEntry k v d.sorted⟩

/-- The map of a list of entries. Of entries with one key the last one counts. -/
def ofList (l : List (String × α)) : Dict α := l.foldl (fun d e => d.insert e.1 e.2) empty

/-- Whether there is no entry. -/
def isEmpty (d : Dict α) : Bool := d.entries.isEmpty

/-- The map with `f` applied to every value. -/
def map (f : α → β) (d : Dict α) : Dict β :=
  ⟨d.entries.map fun e => (e.1, f e.2), List.pairwise_map.2 d.sorted⟩

@[ext] theorem ext {d d' : Dict α} (h : d.entries = d'.entries) : d = d' := by
  cases d; cases d'; simp_all

instance [DecidableEq α] : DecidableEq (Dict α) := fun d d' =>
  decidable_of_iff (d.entries = d'.entries) ⟨ext, fun h => h ▸ rfl⟩

@[simp] theorem get?_empty (k : String) : (empty : Dict α).get? k = none := rfl

@[simp] theorem get?_insert (d : Dict α) (k k' : String) (v : α) :
    (d.insert k v).get? k' = if k' = k then some v else d.get? k' :=
  lookup_insertEntry k k' v d.entries

@[simp] theorem ofList_nil : ofList ([] : List (String × α)) = empty := rfl

theorem ofList_append_singleton (l : List (String × α)) (k : String) (v : α) :
    ofList (l ++ [(k, v)]) = (ofList l).insert k v := by
  simp [ofList]

end Dict

end EntityHub
