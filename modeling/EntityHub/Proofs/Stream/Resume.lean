import EntityHub.Proofs.Stream.Walk
/-!
# Resumed walks

The cursor of a walk is where its next page begins. A walk that is begun there fetches that page at
once, while the walk it was taken from first hands out its buffer and then fetches it with a call of
`next`. Apart from that one call the two do the same from then on, since what a walk does depends on
its buffer and its cursor alone (`RecordStream.Alike`).

`RecordStream.walk_resumed` says so of a fetcher whose answers depend on nothing but the cursor:
what was fetched before and what the resumed walk fetches are the fetches of one walk, and what is
lost between the records of the two is the buffer.
-/

namespace EntityHub.RecordStream

variable {σ α : Type}

/-! ## Walks that go on -/

/-- The calls of `next` that find a page just fetched without records. -/
def idleCalls (p : Page α) : Nat := if p.items.isEmpty then 1 else 0

/-- Further calls go on from the walk that is left. -/
theorem exists_calls_add (fetch : Fetch σ α) (n : Nat) (s : RecordStream α) (state : σ) :
    ∃ state', ∀ k, calls fetch (n + k) s state =
      calls fetch n s state ++ calls fetch k (left s (calls fetch n s state)) state' := by
  induction n generalizing s state with
  | zero => exact ⟨state, fun k => by rw [Nat.zero_add]; rfl⟩
  | succ n ih =>
    obtain ⟨state', hcalls⟩ := ih (call fetch s state).1.after (call fetch s state).2
    refine ⟨state', fun k => ?_⟩
    rw [Nat.add_right_comm, calls, hcalls, calls, left, List.cons_append]

/-- The buffer is handed out first, without a fetch. -/
theorem exists_calls_buffered (fetch : Fetch σ α) (s : RecordStream α) (state : σ) :
    ∃ served : List (Call α), served.map Call.result = s.buffered.map (fun x => .ok (some x)) ∧
      served.flatMap Call.asked = [] ∧
      ∀ k, calls fetch (s.buffered.length + k) s state =
        served ++ calls fetch k { s with buffered := [] } state := by
  generalize hl : s.buffered = l
  induction l generalizing s with
  | nil =>
    have hs : { s with buffered := [] } = s := by
      ext1
      · exact hl.symm
      all_goals rfl
    refine ⟨[], rfl, rfl, fun k => ?_⟩
    rw [hs, List.length_nil, Nat.zero_add, List.nil_append]
  | cons x l ih =>
    obtain ⟨served, hresults, hasked, hcalls⟩ := ih { s with buffered := l } rfl
    have hact : Act fetch s state _ _ := .serve hl
    refine ⟨⟨s, [], .ok (some x), { s with buffered := l }⟩ :: served, ?_, ?_, fun k => ?_⟩
    · rw [List.map_cons, List.map_cons, hresults]
    · rw [List.flatMap_cons, hasked, List.append_nil]
    · rw [List.length_cons, Nat.add_right_comm, calls, hact.call_eq]
      exact congrArg _ (hcalls k)

/-! ## Walks that do the same -/

/-- Walks that stand at the same place. -/
structure Alike (s t : RecordStream α) : Prop where
  buffered : s.buffered = t.buffered
  continuation : s.continuation = t.continuation

section Answers

variable {fetch : Fetch σ α} {answer : Option Continuation → Except Error (Page α)}

theorem fetch_of_answer (hfetch : ∀ cursor state, (fetch cursor state).1 = answer cursor)
    {cursor : Option Continuation} {x : Except Error (Page α)} (hx : answer cursor = x)
    (state : σ) : ∃ state', fetch cursor state = (x, state') :=
  ⟨_, Prod.ext ((hfetch cursor state).trans hx) rfl⟩

/-- Walks that stand at the same place do the same, and then do so again. -/
theorem Alike.call_alike (hfetch : ∀ cursor state, (fetch cursor state).1 = answer cursor)
    {s t : RecordStream α} (h : s.Alike t) (state state' : σ) :
    (call fetch s state).1.result = (call fetch t state').1.result ∧
      (call fetch s state).1.asked = (call fetch t state').1.asked ∧
      (call fetch s state).1.after.Alike (call fetch t state').1.after := by
  have hbuffered := h.buffered
  have hact := act_call fetch s state
  generalize call fetch s state = x at hact ⊢
  obtain ⟨c, left⟩ := x
  cases hact with
  | @serve y l hb =>
    have ht : Act fetch t state' _ _ := .serve (hbuffered ▸ hb)
    rw [ht.call_eq]
    exact ⟨rfl, rfl, rfl, h.continuation⟩
  | @fail _ e hb hf =>
    have hanswer := (hfetch s.continuation state).symm.trans (congrArg Prod.fst hf)
    rw [h.continuation] at hanswer
    obtain ⟨left', hf'⟩ := fetch_of_answer hfetch hanswer state'
    have ht : Act fetch t state' _ _ := .fail (hbuffered ▸ hb) hf'
    rw [ht.call_eq, h.continuation]
    exact ⟨rfl, rfl, h⟩
  | @turn _ p hb hf =>
    have hanswer := (hfetch s.continuation state).symm.trans (congrArg Prod.fst hf)
    rw [h.continuation] at hanswer
    obtain ⟨left', hf'⟩ := fetch_of_answer hfetch hanswer state'
    have ht : Act fetch t state' _ _ := .turn (hbuffered ▸ hb) hf'
    rw [ht.call_eq, h.continuation]
    exact ⟨rfl, rfl, rfl, congrArg p.continuation.or h.continuation⟩

theorem Alike.calls_alike (hfetch : ∀ cursor state, (fetch cursor state).1 = answer cursor) (n : Nat)
    {s t : RecordStream α} (h : s.Alike t) (state state' : σ) :
    (calls fetch n s state).map Call.result = (calls fetch n t state').map Call.result ∧
      (calls fetch n s state).flatMap Call.asked = (calls fetch n t state').flatMap Call.asked := by
  induction n generalizing s t state state' with
  | zero => exact ⟨rfl, rfl⟩
  | succ n ih =>
    obtain ⟨hresult, hasked, hafter⟩ := h.call_alike hfetch state state'
    obtain ⟨hresults, hrest⟩ := ih hafter (call fetch s state).2
      (call fetch t state').2
    simp only [calls, List.map_cons, List.flatMap_cons, hresult, hasked, hresults,
      hrest, and_self]

/-- Where the fetch fails, a walk with an empty buffer fails for ever. -/
theorem calls_of_error (hfetch : ∀ cursor state, (fetch cursor state).1 = answer cursor)
    {s : RecordStream α} (hs : s.buffered = []) {e : Error}
    (he : answer s.continuation = .error e) (n : Nat) (state : σ) :
    (calls fetch n s state).map Call.result = List.replicate n (.error e) ∧
      (calls fetch n s state).flatMap Call.asked =
        List.replicate n ⟨s.continuation, .error e⟩ := by
  induction n generalizing state with
  | zero => exact ⟨rfl, rfl⟩
  | succ n ih =>
    obtain ⟨state', hf⟩ := fetch_of_answer hfetch he state
    have hact : Act fetch s state _ _ := .fail hs hf
    obtain ⟨hresults, hasked⟩ := ih state'
    rw [calls, hact.call_eq, List.map_cons, List.flatMap_cons, hresults, hasked]
    exact ⟨rfl, rfl⟩

/-- A walk with an empty buffer fetches a page with a call, and a walk begun at its cursor without
one. From then on they do the same. The call is one more if the page has no records. -/
theorem calls_of_page (hfetch : ∀ cursor state, (fetch cursor state).1 = answer cursor)
    {s : RecordStream α} (hs : s.buffered = []) {p : Page α} (hp : answer s.continuation = .ok p)
    (m : Nat) (state state' : σ) :
    (calls fetch (idleCalls p + (m + 1)) s state).map Call.result =
        List.replicate (idleCalls p) (.ok none) ++
          (calls fetch (m + 1) (turn { continuation := s.continuation } p) state').map
            Call.result ∧
      (calls fetch (idleCalls p + (m + 1)) s state).flatMap Call.asked =
        ⟨s.continuation, .ok p⟩ ::
          (calls fetch (m + 1) (turn { continuation := s.continuation } p) state').flatMap
            Call.asked := by
  obtain ⟨later, hf⟩ := fetch_of_answer hfetch hp state
  have hact : Act fetch s state _ _ := .turn hs hf
  rcases hi : p.items with _ | ⟨x, l⟩
  · -- Both meet the next page with their next call.
    have halike : Alike { s.turn p with buffered := p.items.tail }
        (turn { continuation := s.continuation } p) := ⟨by rw [hi]; exact hi.symm, rfl⟩
    obtain ⟨hresults, hasked⟩ := halike.calls_alike hfetch (m + 1) later state'
    have hidle : idleCalls p = 1 := by rw [idleCalls, hi]; rfl
    rw [hidle, Nat.add_comm, calls, hact.call_eq, List.map_cons, List.flatMap_cons, hresults,
      hasked, hi]
    exact ⟨rfl, rfl⟩
  · -- The call that fetches here hands out the record that the first call hands out there.
    have hserve : Act fetch (turn { continuation := s.continuation } p) state' _ _ := .serve hi
    have halike : Alike { s.turn p with buffered := p.items.tail }
        { turn { continuation := s.continuation } p with buffered := l } :=
      ⟨by rw [hi]; rfl, rfl⟩
    obtain ⟨hresults, hasked⟩ := halike.calls_alike hfetch m later state'
    have hidle : idleCalls p = 0 := by rw [idleCalls, hi]; rfl
    rw [hidle, Nat.zero_add, calls, hact.call_eq, calls, hserve.call_eq, List.map_cons,
      List.map_cons, List.flatMap_cons, List.flatMap_cons, hresults, hasked, hi]
    exact ⟨rfl, rfl⟩

end Answers

/-! ## Resuming -/

/-- What the calls of a walk came to. -/
def Walk.results (w : Walk α) : List (Except Error (Option α)) := w.calls.map Call.result

theorem Walk.records_eq (w : Walk α) :
    w.records = w.results.filterMap fun x => x.toOption.join := by
  rw [records, results, List.filterMap_map]
  rfl

/-- A walk may be called on and on. -/
theorem walk_add {fetch : Fetch σ α} {cursor : Option Continuation} {n : Nat} {state : σ}
    {w : Walk α} (h : walk fetch cursor n state = .ok w) : ∃ state', ∀ k,
      walk fetch cursor (n + k) state =
        .ok { w with calls := w.calls ++ calls fetch k w.stream state' } := by
  obtain ⟨p, begun, hf, rfl⟩ := walk_eq_ok h
  obtain ⟨state', hcalls⟩ := exists_calls_add fetch n (turn { continuation := cursor } p) begun
  refine ⟨state', fun k => ?_⟩
  rw [walk_of_page hf, hcalls k]
  rfl

/-- A walk that goes on hands out its buffer and then what it is called for behind that. -/
theorem exists_walk_on {fetch : Fetch σ α} {cursor : Option Continuation} {n : Nat} {state : σ}
    {w : Walk α} (h : walk fetch cursor n state = .ok w) : ∃ state', ∀ k, ∃ on,
      walk fetch cursor (n + (w.stream.buffered.length + k)) state = .ok on ∧
      on.results = w.results ++ w.stream.buffered.map (fun x => .ok (some x)) ++
        (calls fetch k { w.stream with buffered := [] } state').map Call.result ∧
      on.log = w.log ++
        (calls fetch k { w.stream with buffered := [] } state').flatMap Call.asked := by
  obtain ⟨state', hon⟩ := walk_add h
  obtain ⟨served, hresults, hasked, hcalls⟩ := exists_calls_buffered fetch w.stream state'
  refine ⟨state', fun k => ⟨_, hon _, ?_, ?_⟩⟩
  · rw [Walk.results, Walk.results, hcalls, List.map_append, List.map_append, hresults,
      List.append_assoc]
  · rw [Walk.log, Walk.log, hcalls, List.flatMap_append, List.flatMap_append, hasked,
      List.nil_append, List.append_assoc]

/-- A walk begun at the cursor of another one goes on where the buffer of that one ends. Where the
fetch at the cursor fails, there is no such walk, and the other one comes to nothing but this error
behind its buffer. Otherwise the fetches of both are those of the other walk called on, and so are
their results but for the buffer and, if the page fetched by both has no records, the one call that
finds it so. -/
theorem walk_resumed {fetch : Fetch σ α} {answer : Option Continuation → Except Error (Page α)}
    (hfetch : ∀ cursor state, (fetch cursor state).1 = answer cursor)
    {cursor : Option Continuation} {n : Nat} {state : σ} {w : Walk α}
    (h : walk fetch cursor n state = .ok w) (state' : σ) (m : Nat) :
    (∀ e, answer w.stream.continuation = .error e →
      walk fetch w.stream.continuation m state' = .error e ∧ ∃ on,
        walk fetch cursor (n + (w.stream.buffered.length + m)) state = .ok on ∧
        on.log = w.log ++ List.replicate m ⟨w.stream.continuation, .error e⟩ ∧
        on.results = w.results ++ w.stream.buffered.map (fun x => .ok (some x)) ++
          List.replicate m (.error e)) ∧
    (∀ p, answer w.stream.continuation = .ok p → ∃ resumed on,
      walk fetch w.stream.continuation (m + 1) state' = .ok resumed ∧
        walk fetch cursor (n + (w.stream.buffered.length + (idleCalls p + (m + 1)))) state =
          .ok on ∧
        on.log = w.log ++ resumed.log ∧
        on.results = w.results ++ w.stream.buffered.map (fun x => .ok (some x)) ++
          (List.replicate (idleCalls p) (.ok none) ++ resumed.results) ∧
        on.records = w.records ++ w.stream.buffered ++ resumed.records) := by
  obtain ⟨later, hwalk⟩ := exists_walk_on h
  refine ⟨fun e he => ?_, fun p hp => ?_⟩
  · obtain ⟨left, hf⟩ := fetch_of_answer hfetch he state'
    obtain ⟨on, hon, hresults, hlog⟩ := hwalk m
    obtain ⟨hcalls, hasked⟩ :=
      calls_of_error hfetch (s := { w.stream with buffered := [] }) rfl he m later
    rw [hcalls] at hresults
    rw [hasked] at hlog
    refine ⟨?_, on, hon, hlog, hresults⟩
    rw [walk, start_eq fetch, hf]
    rfl
  · obtain ⟨left, hf⟩ := fetch_of_answer hfetch hp state'
    obtain ⟨on, hon, hresults, hlog⟩ := hwalk (idleCalls p + (m + 1))
    obtain ⟨hcalls, hasked⟩ :=
      calls_of_page hfetch (s := { w.stream with buffered := [] }) rfl hp m later left
    rw [hcalls] at hresults
    rw [hasked] at hlog
    refine ⟨_, on, walk_of_page hf (m + 1), hon, hlog, hresults, ?_⟩
    have hidle : (List.replicate (idleCalls p) (.ok none : Except Error (Option α))).filterMap
        (fun x => x.toOption.join) = [] := by
      rw [List.filterMap_replicate_of_none rfl]
    have hbuffered : (w.stream.buffered.map fun x => (.ok (some x) : Except Error (Option α))
        ).filterMap (fun x => x.toOption.join) = w.stream.buffered := by
      rw [List.filterMap_map]
      exact List.filterMap_some
    rw [Walk.records_eq, hresults, List.filterMap_append, List.filterMap_append,
      List.filterMap_append, hidle, hbuffered, List.nil_append, Walk.records_eq, Walk.records_eq]
    rfl

/-- Pages of which one has no records and the last one no cursor. -/
def gapped : Option Continuation → Except Error (Page Nat)
  | none => .ok { items := [1, 2], continuation := some ⟨"a"⟩ }
  | some k =>
    if k.value = "a" then .ok { continuation := some ⟨"b"⟩ } else .ok { items := [3, 4] }

/-- The second record is still in the buffer when the walk is resumed, and it is lost. -/
theorem walk_resumed_gapped :
    (∀ cursor state, ((fun cursor => pure (gapped cursor) : Fetch Unit Nat) cursor state).1 =
      gapped cursor) ∧
    ∃ w resumed on, walk (fun cursor => pure (gapped cursor) : Fetch Unit Nat) none 1 () = .ok w ∧
      walk (fun cursor => pure (gapped cursor) : Fetch Unit Nat) (some ⟨"a"⟩) 3 () = .ok resumed ∧
      walk (fun cursor => pure (gapped cursor) : Fetch Unit Nat) none 6 () = .ok on ∧
      w.records = [1] ∧ resumed.records = [3, 4, 3] ∧ on.records = [1] ++ [2] ++ resumed.records ∧
      on.log.map Asked.cursor = [none] ++ resumed.log.map Asked.cursor := by
  have hfetch : ∀ cursor state,
      ((fun cursor => pure (gapped cursor) : Fetch Unit Nat) cursor state).1 = gapped cursor :=
    fun _ _ => rfl
  have hwalk : walk (fun cursor => pure (gapped cursor) : Fetch Unit Nat) none 1 () = .ok _ := rfl
  obtain ⟨resumed, on, hresumed, hon, hlog, -, hrecords⟩ :=
    (walk_resumed hfetch hwalk () 2).2 { continuation := some ⟨"b"⟩ } rfl
  refine ⟨hfetch, _, resumed, on, hwalk, hresumed, hon, rfl, ?_, hrecords, ?_⟩
  · obtain rfl := Except.ok.inj hresumed
    rfl
  · rw [hlog, List.map_append]
    rfl

end EntityHub.RecordStream
