import EntityHub.Entity.Basic
import EntityHub.Proofs.Dict
import EntityHub.Proofs.Failure
/-!
# Levels of trees

A decoder may open a given number of levels of a tree. What was read as a value has no more levels
than were allowed then (`Json.Value.within_toRaw`), and a tree with no more levels than are allowed
is read as if any number of them were: entities are (`Entity.steady_decoder`). So it makes no
difference at which depth of a text an entity stands, once the text was read.

`Json.Decoder.ofOctets?_list_value` says what is read of octets that should be an array.
-/

namespace EntityHub

namespace Json

variable {α : Type} {n m : Nat}

/-- A tree with no more levels of arrays and objects than given. -/
inductive Raw.Within : Nat → Raw → Prop
  | null {n : Nat} : Within n .null
  | bool {n : Nat} (b : Bool) : Within n (.bool b)
  | number {n : Nat} (x : Option Number) : Within n (.number x)
  | string {n : Nat} (s : Option String) : Within n (.string s)
  | array {n : Nat} {items : List Raw} : (∀ r ∈ items, Within n r) → Within (n + 1) (.array items)
  | object {n : Nat} {members : List (Option String × Raw)} :
      (∀ e ∈ members, Within n e.2) → Within (n + 1) (.object members)

theorem Raw.Within.mono {r : Raw} (h : r.Within n) (hnm : n ≤ m) : r.Within m := by
  induction h generalizing m with
  | null => exact .null
  | bool b => exact .bool b
  | number x => exact .number x
  | string s => exact .string s
  | array _ ih =>
    obtain ⟨m, rfl⟩ := Nat.exists_eq_add_of_lt hnm
    exact .array fun r hr => ih r hr (by omega)
  | object _ ih =>
    obtain ⟨m, rfl⟩ := Nat.exists_eq_add_of_lt hnm
    exact .object fun e he => ih e he (by omega)

/-! ## Values that were read -/

namespace Value

theorem toRawItems_eq_map (l : List Value) : toRawItems l = l.map toRaw := by
  induction l with
  | nil => rfl
  | cons v l ih => rw [toRawItems, ih, List.map_cons]

/-- The items of an array have one level less. -/
theorem within_of_mem {l : List Value} (h : (array l).toRaw.Within n) :
    ∀ v ∈ l, v.toRaw.Within (n - 1) := by
  rw [toRaw, toRawItems_eq_map] at h
  cases h with
  | array h => exact fun v hv => h v.toRaw (List.mem_map_of_mem hv)

theorem exists_of_mem_toRawMembers {l : List (String × Value)} {e : Option String × Raw}
    (h : e ∈ toRawMembers l) : ∃ a ∈ l, e = (some a.1, a.2.toRaw) := by
  induction l with
  | nil => cases h
  | cons a l ih =>
    rcases List.mem_cons.mp h with rfl | h
    · exact ⟨a, List.mem_cons_self, rfl⟩
    · obtain ⟨b, hb, rfl⟩ := ih h
      exact ⟨b, List.mem_cons_of_mem a hb, rfl⟩

mutual

/-- A value that was read has no more levels than were allowed. -/
theorem within_toRaw : ∀ (levels : Nat) (r : Raw) {v : Value}, ofRaw? levels r = some v →
    v.toRaw.Within levels
  | levels, .null, v, h => by
    obtain rfl := Option.some.inj h
    exact .null
  | levels, .bool b, v, h => by
    obtain rfl := Option.some.inj h
    exact .bool b
  | levels, .number x, v, h => by
    obtain ⟨x, -, rfl⟩ := Option.map_eq_some_iff.mp h
    exact .number _
  | levels, .string s, v, h => by
    obtain ⟨s, -, rfl⟩ := Option.map_eq_some_iff.mp h
    exact .string _
  | 0, .array items, v, h => by cases h
  | levels + 1, .array items, v, h => by
    obtain ⟨vs, hvs, rfl⟩ := Option.map_eq_some_iff.mp h
    exact .array (within_toRawItems levels items hvs)
  | 0, .object members, v, h => by cases h
  | levels + 1, .object members, v, h => by
    obtain ⟨l, hl, rfl⟩ := Option.map_eq_some_iff.mp h
    refine .object fun e he => ?_
    obtain ⟨a, ha, rfl⟩ := exists_of_mem_toRawMembers he
    exact within_toRawMembers levels members hl a (Dict.mem_of_mem_ofList ha)
termination_by _ r => sizeOf r

theorem within_toRawItems : ∀ (levels : Nat) (l : List Raw) {vs : List Value},
    ofRawItems? levels l = some vs → ∀ r ∈ toRawItems vs, r.Within levels
  | levels, [], vs, h => by
    obtain rfl := Option.some.inj h
    simp [toRawItems]
  | levels, r :: l, vs, h => by
    simp only [ofRawItems?, Option.bind_eq_bind, Option.bind_eq_some_iff] at h
    obtain ⟨v, hv, vs, hvs, h⟩ := h
    obtain rfl := Option.some.inj h
    intro r' hr'
    rcases List.mem_cons.mp hr' with rfl | hr'
    · exact within_toRaw levels r hv
    · exact within_toRawItems levels l hvs r' hr'
termination_by _ l => sizeOf l

theorem within_toRawMembers : ∀ (levels : Nat) (l : List (Option String × Raw))
    {es : List (String × Value)}, ofRawMembers? levels l = some es →
    ∀ e ∈ es, e.2.toRaw.Within levels
  | levels, [], es, h => by
    obtain rfl := Option.some.inj h
    simp
  | levels, (k, r) :: l, es, h => by
    simp only [ofRawMembers?, Option.bind_eq_bind, Option.bind_eq_some_iff] at h
    obtain ⟨k, -, v, hv, es, hes, h⟩ := h
    obtain rfl := Option.some.inj h
    intro e he
    rcases List.mem_cons.mp he with rfl | he
    · exact within_toRaw levels r hv
    · exact within_toRawMembers levels l hes e he
termination_by _ l => sizeOf l

end

end Value

/-! ## Decoders with levels to spare -/

/-- A decoder that reads a tree as before if it may open more levels than the tree has. -/
def Decoder.Steady (d : Decoder α) : Prop := ∀ ⦃n m : Nat⦄ ⦃r : Raw⦄, r.Within n → n ≤ m → d m r = d n r

namespace Decoder

theorem steady_string : Steady string := by
  intro n m r h hnm
  cases h <;> rfl

theorem steady_bool : Steady bool := by
  intro n m r h hnm
  cases h <;> rfl

theorem steady_uint64 : Steady uint64 := by
  intro n m r h hnm
  cases h with
  | number x =>
    rcases x with _ | x
    · rfl
    · cases x <;> rfl
  | _ => rfl

theorem Steady.optional {d : Decoder α} (hd : d.Steady) : (optional d).Steady := by
  intro n m r h hnm
  have heq := hd h hnm
  cases h with
  | null => rfl
  | _ => exact congrArg (Option.map some) heq

theorem Steady.dict {d : Decoder α} (hd : d.Steady) : (dict d).Steady := by
  intro n m r h hnm
  refine congrArg (Option.map Dict.ofList) ?_
  cases h with
  | @object n members hmembers =>
    obtain ⟨m, rfl⟩ := Nat.exists_eq_add_of_lt hnm
    refine mapM_congr fun (k, r) he => ?_
    simp only
    rw [hd (hmembers (k, r) he) (by omega)]
  | null | bool | number | string | array => simp [entries]

mutual

theorem ofRaw?_of_within : ∀ {n : Nat} (r : Raw) (m : Nat), r.Within n → n ≤ m →
    Value.ofRaw? m r = Value.ofRaw? n r
  | n, .null, m, h, hnm => rfl
  | n, .bool b, m, h, hnm => rfl
  | n, .number x, m, h, hnm => rfl
  | n, .string s, m, h, hnm => rfl
  | n + 1, .array items, m + 1, .array h, hnm =>
    congrArg (Option.map Value.array) (ofRawItems?_of_within items m h (by omega))
  | n + 1, .object members, m + 1, .object h, hnm =>
    congrArg (Option.map fun l => Value.ofDict (.ofList l))
      (ofRawMembers?_of_within members m h (by omega))
termination_by _ r => sizeOf r

theorem ofRawItems?_of_within : ∀ {n : Nat} (l : List Raw) (m : Nat), (∀ r ∈ l, r.Within n) →
    n ≤ m → Value.ofRawItems? m l = Value.ofRawItems? n l
  | n, [], m, h, hnm => rfl
  | n, r :: l, m, h, hnm => by
    rw [Value.ofRawItems?, Value.ofRawItems?, ofRaw?_of_within r m (h r List.mem_cons_self) hnm,
      ofRawItems?_of_within l m (fun r' hr' => h r' (List.mem_cons_of_mem r hr')) hnm]
termination_by _ l => sizeOf l

theorem ofRawMembers?_of_within : ∀ {n : Nat} (l : List (Option String × Raw)) (m : Nat),
    (∀ e ∈ l, e.2.Within n) → n ≤ m → Value.ofRawMembers? m l = Value.ofRawMembers? n l
  | n, [], m, h, hnm => rfl
  | n, (k, r) :: l, m, h, hnm => by
    rw [Value.ofRawMembers?, Value.ofRawMembers?,
      ofRaw?_of_within r m (h (k, r) List.mem_cons_self) hnm,
      ofRawMembers?_of_within l m (fun e he => h e (List.mem_cons_of_mem (k, r) he)) hnm]
termination_by _ l => sizeOf l

end

theorem steady_value : Steady value :=
  fun _ m r h hnm => ofRaw?_of_within r m h hnm

end Decoder

/-! ## Records -/

/-- What a slot gives has no more levels than given. -/
def Slot.Within (n : Nat) : Slot → Prop
  | given r => r.Within n
  | omitted | cut => True

namespace Slot

variable {d : Decoder α} {s : Slot}

theorem required_of_within (hd : d.Steady) (h : s.Within n) (hnm : n ≤ m) :
    s.required d m = s.required d n := by
  cases s with
  | given r => exact hd h hnm
  | omitted | cut => rfl

theorem defaulted_of_within (x : α) (hd : d.Steady) (h : s.Within n) (hnm : n ≤ m) :
    s.defaulted x d m = s.defaulted x d n := by
  cases s with
  | given r => exact hd h hnm
  | omitted | cut => rfl

theorem within_ofItems {l : List Raw} (h : ∀ r ∈ l, r.Within n) :
    ∀ k, ∀ s ∈ ofItems k l, s.Within n := by
  intro k
  induction k generalizing l with
  | zero => simp [ofItems]
  | succ k ih =>
    cases l with
    | nil =>
      rw [ofItems, List.forall_mem_cons]
      exact ⟨trivial, ih h⟩
    | cons r l =>
      rw [ofItems, List.forall_mem_cons]
      exact ⟨h r List.mem_cons_self, ih fun r' hr' => h r' (List.mem_cons_of_mem r hr')⟩

theorem within_ofMembers? {members : List (Option String × Raw)} (h : ∀ e ∈ members, e.2.Within n)
    {k : String} (hs : ofMembers? members k = some s) : s.Within n := by
  unfold ofMembers? at hs
  split at hs
  · obtain rfl := Option.some.inj hs
    trivial
  · next k' r heq =>
    obtain rfl := Option.some.inj hs
    have hmem : (k', r) ∈ members.filter fun e => e.1 = some k := by simp [heq]
    exact h (k', r) (List.mem_of_mem_filter hmem)
  · cases hs

end Slot

theorem slots?_array (fields : List String) (items : List Raw) (k : Nat) :
    slots? fields (k + 1) (.array items) =
      if items.length ≤ fields.length then some (k, Slot.ofItems fields.length items)
      else none := by
  by_cases h : items.length ≤ fields.length
  · have hguard : (guard (items.length ≤ fields.length) : Option Unit) = some () := if_pos h
    rw [slots?, hguard, if_pos h]
    rfl
  · have hguard : (guard (items.length ≤ fields.length) : Option Unit) = none := if_neg h
    rw [slots?, hguard, if_neg h]
    rfl

theorem slots?_object (fields : List String) (members : List (Option String × Raw)) (k : Nat) :
    slots? fields (k + 1) (.object members) =
      if members.all fun e => e.1.isSome then
        (fields.mapM (Slot.ofMembers? members)).map fun slots => (k, slots)
      else none := by
  by_cases h : members.all fun e => e.1.isSome
  · have hguard : (guard (members.all fun e => e.1.isSome) : Option Unit) = some () := if_pos h
    rw [slots?, hguard, if_pos h]
    cases fields.mapM (Slot.ofMembers? members) <;> rfl
  · have hguard : (guard (members.all fun e => e.1.isSome) : Option Unit) = none := if_neg h
    rw [slots?, hguard, if_neg h]
    rfl

/-- With levels to spare, a record has the same slots and levels to spare for each of them. -/
theorem slots?_of_within (fields : List String) {r : Raw} (h : r.Within n) (hnm : n ≤ m) :
    (slots? fields n r = none ∧ slots? fields m r = none) ∨ ∃ k k' slots, k ≤ k' ∧
      slots? fields n r = some (k, slots) ∧ slots? fields m r = some (k', slots) ∧
      ∀ s ∈ slots, s.Within k := by
  cases h with
  | @array n items hitems =>
    obtain ⟨m, rfl⟩ := Nat.exists_eq_add_of_lt hnm
    rw [slots?_array, slots?_array]
    split
    · exact .inr ⟨n, n + m, _, by omega, rfl, rfl, Slot.within_ofItems hitems _⟩
    · exact .inl ⟨rfl, rfl⟩
  | @object n members hmembers =>
    obtain ⟨m, rfl⟩ := Nat.exists_eq_add_of_lt hnm
    rw [slots?_object, slots?_object]
    split
    · rcases hslots : fields.mapM (Slot.ofMembers? members) with _ | slots
      · exact .inl ⟨rfl, rfl⟩
      · refine .inr ⟨n, n + m, slots, by omega, rfl, rfl, fun s hs => ?_⟩
        obtain ⟨field, -, hfield⟩ := exists_of_mem_mapM hslots hs
        exact Slot.within_ofMembers? hmembers hfield
    · exact .inl ⟨rfl, rfl⟩
  | null | bool | number | string => exact .inl ⟨by cases n <;> rfl, by cases m <;> rfl⟩

/-! ## Arrays -/

theorem Decoder.list_value_eq_some_iff {levels : Nat} {r : Raw} {vs : List Value} :
    list value levels r = some vs ↔ value levels r = some (.array vs) := by
  have hitems : ∀ (levels : Nat) (l : List Raw),
      Value.ofRawItems? levels l = l.mapM (value levels) := by
    intro levels l
    induction l with
    | nil => rfl
    | cons r l ih =>
      rw [List.mapM_cons, ← ih]
      rfl
  cases r with
  | array items =>
    cases levels with
    | zero => simp [list, value, Value.ofRaw?]
    | succ levels => simp [list, value, Value.ofRaw?, hitems]
  | null | bool | number | string => simp [list, value, Value.ofRaw?]
  | object => cases levels <;> simp [list, value, Value.ofRaw?, Value.ofDict]

/-- What is read of octets that should be an array are the items of the array that they are. -/
theorem Decoder.ofOctets?_list_value {l : List UInt8} {vs : List Value} :
    (list value).ofOctets? l = some vs ↔ value.ofOctets? l = some (.array vs) := by
  simp only [ofOctets?, Option.bind_eq_bind, Option.bind_eq_some_iff, list_value_eq_some_iff]

end Json

/-! ## Entities -/

theorem Entity.steady_decoder : Entity.decoder.Steady := by
  intro n m r h hnm
  unfold decoder
  rcases Json.slots?_of_within ["id", "recorded", "deleted", "refs", "props"] h hnm with
    ⟨hn, hm⟩ | ⟨k, k', slots, hk, hn, hm, hslots⟩
  · rw [hn, hm]
  · rw [hn, hm]
    simp only [Option.bind_eq_bind, Option.bind_some]
    split
    · next id recorded deleted refs props =>
      simp only [List.forall_mem_cons] at hslots
      obtain ⟨hid, hrecorded, hdeleted, hrefs, hprops, -⟩ := hslots
      rw [Json.Slot.required_of_within Json.Decoder.steady_string hid hk,
        Json.Slot.defaulted_of_within none Json.Decoder.steady_uint64.optional hrecorded hk,
        Json.Slot.defaulted_of_within false Json.Decoder.steady_bool hdeleted hk,
        Json.Slot.defaulted_of_within ∅ Json.Decoder.steady_value.dict hrefs hk,
        Json.Slot.defaulted_of_within ∅ Json.Decoder.steady_value.dict hprops hk]
    · rfl

end EntityHub
