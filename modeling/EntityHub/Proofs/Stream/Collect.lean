import EntityHub.Proofs.Stream.Walk
/-!
# Walks that end for good

`RecordStream.collect` calls `next` until the first end or error (`RecordStream.collect_succ`). If
fetches bring pages with records and then an empty one, it gives the records of these pages and asks
for nothing after the empty one (`RecordStream.collect_of_brings`).
-/

namespace EntityHub.RecordStream

variable {σ α : Type}

/-! ## One item -/

theorem collect_none (fetch : Fetch σ α) (limit : Nat) (state : σ) :
    collect fetch limit none state = ([], state) := by
  cases limit <;> rfl

theorem collect_succ (fetch : Fetch σ α) (limit : Nat) (s : RecordStream α) (state : σ) :
    collect fetch (limit + 1) (some s) state = match s.next fetch state with
      | ((.ok (some x), s'), state') =>
        (.ok x :: (collect fetch limit (some s') state').1,
          (collect fetch limit (some s') state').2)
      | ((.ok none, _), state') => ([], state')
      | ((.error e, _), state') => ([.error e], state') := by
  simp only [collect, poll, bind, StateT.bind]
  rcases s.next fetch state with ⟨⟨e | _ | x, s'⟩, state'⟩
  · have hnone : StateT.bind (collect fetch limit none)
        (fun items => StateT.pure (Except.error e :: items)) state' = ([.error e], state') := by
      rw [StateT.bind, collect_none]
      rfl
    exact hnone
  · rfl
  · rfl

theorem collect_of_cons (fetch : Fetch σ α) (limit : Nat) {s : RecordStream α} {x : α} {l : List α}
    (h : s.buffered = x :: l) (state : σ) :
    collect fetch (limit + 1) (some s) state =
      (.ok x :: (collect fetch limit (some { s with buffered := l }) state).1,
        (collect fetch limit (some { s with buffered := l }) state).2) := by
  rw [collect_succ, next_of_cons fetch h]

/-- The records of the buffer come first. -/
theorem collect_buffered (fetch : Fetch σ α) (limit : Nat) (s : RecordStream α) (state : σ) :
    collect fetch (s.buffered.length + limit) (some s) state =
      (s.buffered.map .ok ++ (collect fetch limit (some { s with buffered := [] }) state).1,
        (collect fetch limit (some { s with buffered := [] }) state).2) := by
  generalize hl : s.buffered = l
  induction l generalizing s with
  | nil =>
    have hs : { s with buffered := [] } = s := by
      ext1
      · exact hl.symm
      all_goals rfl
    rw [hs, List.length_nil, Nat.zero_add]
    rfl
  | cons x l ih =>
    have hrest := ih { s with buffered := l } rfl
    have hsucc : (x :: l).length + limit = (l.length + limit) + 1 := by
      rw [List.length_cons]
      omega
    rw [hsucc, collect_of_cons fetch _ hl, hrest]
    rfl

/-- An empty page is the end. -/
theorem collect_of_empty {fetch : Fetch σ α} {s : RecordStream α} (hs : s.buffered = [])
    {state state' : σ} {p : Page α} (hf : fetch s.continuation state = (.ok p, state'))
    (hp : p.items = []) (limit : Nat) :
    collect fetch (limit + 1) (some s) state = ([], state') := by
  rw [collect_succ, next_of_page hs hf, hp]
  rfl

/-- After any other page it goes on with the records of the page. -/
theorem collect_of_page {fetch : Fetch σ α} {s : RecordStream α} (hs : s.buffered = [])
    {state state' : σ} {p : Page α} (hf : fetch s.continuation state = (.ok p, state'))
    (hp : p.items ≠ []) (limit : Nat) :
    collect fetch (limit + 1) (some s) state =
      collect fetch (limit + 1) (some (s.turn p)) state' := by
  obtain ⟨x, l, hi⟩ := List.exists_cons_of_ne_nil hp
  have hturn : (s.turn p).buffered = x :: l := hi
  rw [collect_succ, collect_of_cons fetch _ hturn, next_of_page hs hf, hi]
  rfl

/-! ## Pages -/

/-- Fetches one after another, each at the cursor that a walk has then, the pages that they bring,
and cursor and state after them. -/
inductive Brings (fetch : Fetch σ α) :
    Option Continuation → σ → List (Page α) → Option Continuation → σ → Prop
  | nil {cursor : Option Continuation} {state : σ} : Brings fetch cursor state [] cursor state
  | cons {cursor cursor' : Option Continuation} {state state₁ state' : σ} {p : Page α}
      {ps : List (Page α)} : fetch cursor state = (.ok p, state₁) →
      Brings fetch (p.continuation.or cursor) state₁ ps cursor' state' →
      Brings fetch cursor state (p :: ps) cursor' state'

/-- All records up to the first empty page are collected, and that page is the last one asked
for. -/
theorem collect_of_brings {fetch : Fetch σ α} {s : RecordStream α} {state state' : σ}
    {cursor' : Option Continuation} {ps : List (Page α)} {p : Page α}
    (h : Brings fetch s.continuation state (ps ++ [p]) cursor' state')
    (hps : ∀ r ∈ ps, r.items ≠ []) (hp : p.items = []) {limit : Nat}
    (hlimit : (s.buffered ++ ps.flatMap Page.items).length < limit) :
    collect fetch limit (some s) state =
      ((s.buffered ++ ps.flatMap Page.items).map .ok, state') := by
  induction ps generalizing s state limit with
  | nil =>
    rw [List.flatMap_nil, List.append_nil] at hlimit ⊢
    obtain ⟨more, rfl⟩ := Nat.exists_eq_add_of_lt hlimit
    cases h with
    | cons hf hnil =>
      cases hnil
      have hend := collect_of_empty (s := { s with buffered := [] }) rfl hf hp more
      rw [Nat.add_assoc, collect_buffered, hend, List.append_nil]
  | cons r ps ih =>
    have hr := hps r (by simp)
    obtain ⟨more, rfl⟩ := Nat.exists_eq_add_of_lt hlimit
    cases h with
    | cons hf hrest =>
      have hturn := collect_of_page (s := { s with buffered := [] }) rfl hf hr
      have hbound : (r.items ++ ps.flatMap Page.items).length <
          (r.items ++ ps.flatMap Page.items).length + more + 1 := by
        omega
      have hrest' := ih (s := turn { s with buffered := [] } r) hrest
        (fun r' hr' => hps r' (List.mem_cons_of_mem _ hr')) hbound
      have hsplit : (s.buffered ++ (r :: ps).flatMap Page.items).length + more + 1 =
          s.buffered.length + ((r.items ++ ps.flatMap Page.items).length + more + 1) := by
        simp only [List.flatMap_cons, List.length_append]
        omega
      rw [hsplit, collect_buffered, hturn, hrest', List.flatMap_cons]
      simp only [turn, List.map_append]

end EntityHub.RecordStream
