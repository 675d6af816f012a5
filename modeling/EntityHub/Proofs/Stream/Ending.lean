import EntityHub.Proofs.Stream.Collect
/-!
# Where a stream ends

`RecordStream.collect` polls a walk that ends for good with the first page without records, or after
the first error. `RecordStream.collect_cut` compares it with calls of `next` on the same walk: it
makes those up to the first that hands out no record (`RecordStream.upToEnd`) and no others. So the
items are the records of the buffer and of the pages fetched, in order, and the error of a fetch that
fails; and however often the stream is polled, nothing is fetched after its end.
-/

namespace EntityHub

variable {σ α : Type}

/-! ## Fetches as items -/

/-- The state of a fetcher after fetches. -/
def Fetch.after (fetch : Fetch σ α) (log : List (Asked α)) (state : σ) : σ :=
  log.foldl (fun state a => (fetch a.cursor state).2) state

namespace Asked

/-- The records that a fetch brought. -/
def records (a : Asked α) : List α :=
  match a.answer with
  | .ok p => p.items
  | .error _ => []

/-- What a fetch adds to a stream: its records, or its error. -/
def items (a : Asked α) : List (Except Error α) :=
  match a.answer with
  | .ok p => p.items.map .ok
  | .error e => [.error e]

theorem records_ne_nil {p : Page α} {x : α} {l : List α} (hp : p.items = x :: l)
    (cursor : Option Continuation) : records ⟨cursor, .ok p⟩ ≠ [] := by
  have hrecords : records ⟨cursor, .ok p⟩ = x :: l := hp
  rw [hrecords]
  exact List.cons_ne_nil x l

/-- The last of some fetches brought no record. -/
def Over (log : List (Asked α)) : Prop := ∃ a ∈ log.getLast?, a.records = []

theorem over_cons_iff {a : Asked α} (ha : a.records ≠ []) (log : List (Asked α)) :
    Over (a :: log) ↔ Over log := by
  rcases log with _ | ⟨b, log⟩
  · simp [Over, ha]
  · rw [Over, List.getLast?_cons_cons, Over]

/-- The cursor of a page that comes first stays until a later one has one. -/
theorem last_cons (cursor : Option Continuation) (p : Page α) (log : List (Asked α)) :
    last cursor (⟨cursor, .ok p⟩ :: log) = last (p.continuation.or cursor) log := by
  have hpages : pages (⟨cursor, .ok p⟩ :: log) = p :: pages log := rfl
  rw [last, hpages, last]
  rcases hk : p.continuation with _ | k
  · rw [List.filterMap_cons_none hk, Option.none_or]
  · rw [List.filterMap_cons_some hk, List.getLast?_cons]
    rcases ((pages log).filterMap Page.continuation).getLast? with _ | k' <;> rfl

end Asked

namespace RecordStream

/-! ## One poll -/

/-- What a call of `next` gives a stream that ends for good. An end gives nothing. -/
def Call.item? (c : Call α) : Option (Except Error α) :=
  match c.result with
  | .ok (some x) => some (.ok x)
  | .ok none => none
  | .error e => some (.error e)

/-- The calls up to the first that hands out no record, and that one. -/
def upToEnd : List (Call α) → List (Call α)
  | [] => []
  | c :: l => if c.returned?.isSome then c :: upToEnd l else [c]

theorem upToEnd_of_record {c : Call α} {x : α} (h : c.result = .ok (some x)) (l : List (Call α)) :
    upToEnd (c :: l) = c :: upToEnd l := by
  simp [upToEnd, Call.returned?, h, Except.toOption]

theorem upToEnd_of_end {c : Call α} (h : c.result = .ok none) (l : List (Call α)) :
    upToEnd (c :: l) = [c] := by
  simp [upToEnd, Call.returned?, h, Except.toOption]

theorem upToEnd_of_error {c : Call α} {e : Error} (h : c.result = .error e) (l : List (Call α)) :
    upToEnd (c :: l) = [c] := by
  simp [upToEnd, Call.returned?, h, Except.toOption]

theorem Act.next_eq {fetch : Fetch σ α} {s : RecordStream α} {state state' : σ} {c : Call α}
    (h : Act fetch s state c state') : s.next fetch state = ((c.result, c.after), state') := by
  cases h with
  | serve hb => exact next_of_cons fetch hb state
  | fail hb hf => exact next_of_error hb hf
  | turn hb hf => exact next_of_page hb hf

/-- A fetcher that logs answers as it does without. -/
theorem Act.next_logged {fetch : Fetch σ α} {s : RecordStream α} {state state' : σ} {c : Call α}
    (h : Act fetch s state c state') (log : List (Asked α)) :
    s.next fetch.logged (state, log) = ((c.result, c.after), state', log ++ c.asked) := by
  cases h with
  | serve hb =>
    rw [next_of_cons _ hb, List.append_nil]
  | @fail _ e hb hf =>
    have hlog : fetch.logged s.continuation (state, log) =
        (.error e, state', log ++ [⟨s.continuation, .error e⟩]) := by simp [Fetch.logged, hf]
    exact next_of_error hb hlog
  | @turn _ p hb hf =>
    have hlog : fetch.logged s.continuation (state, log) =
        (.ok p, state', log ++ [⟨s.continuation, .ok p⟩]) := by simp [Fetch.logged, hf]
    exact next_of_page hb hlog

theorem Act.after_asked {fetch : Fetch σ α} {s : RecordStream α} {state state' : σ} {c : Call α}
    (h : Act fetch s state c state') : fetch.after c.asked state = state' := by
  cases h with
  | serve => rfl
  | fail _ hf | turn _ hf => exact congrArg Prod.snd hf

/-! ## All polls -/

/-- Polls are calls of `next` up to the first that hands out no record, with the same fetches. -/
theorem collect_eq (fetch : Fetch σ α) (n : Nat) (s : RecordStream α) (state : σ)
    (log : List (Asked α)) :
    let made := upToEnd (calls fetch n s state)
    let after := fetch.after (made.flatMap Call.asked) state
    collect fetch n (some s) state = (made.filterMap Call.item?, after) ∧
      collect fetch.logged n (some s) (state, log) =
        (made.filterMap Call.item?, after, log ++ made.flatMap Call.asked) := by
  induction n generalizing s state log with
  | zero =>
    refine ⟨rfl, ?_⟩
    rw [calls, upToEnd, List.flatMap_nil, List.append_nil]
    rfl
  | succ n ih =>
    have hact := act_call fetch s state
    simp only [calls]
    rw [collect_succ, collect_succ, hact.next_eq, hact.next_logged log]
    generalize call fetch s state = x at hact ⊢
    obtain ⟨c, state'⟩ := x
    have hafter : fetch.after c.asked state = state' := hact.after_asked
    rcases hr : c.result with e | _ | x
    · simp [upToEnd_of_error hr, Call.item?, hr, hafter]
    · simp [upToEnd_of_end hr, Call.item?, hr, hafter]
    · obtain ⟨hplain, hlogged⟩ := ih c.after state' (log ++ c.asked)
      have hsplit : ∀ more, fetch.after (c.asked ++ more) state = fetch.after more state' := by
        intro more
        rw [← hafter]
        exact List.foldl_append
      simp [upToEnd_of_record hr, Call.item?, hr, hplain, hlogged, hsplit]

/-! ## What is collected -/

/-- What a stream that is polled `n` times collects, and the fetches that this takes. -/
structure Cut (s : RecordStream α) (n : Nat) (items : List (Except Error α))
    (log : List (Asked α)) : Prop where
  /-- The records of the buffer come first, and then what the fetches bring. -/
  collected : items = (s.buffered.map Except.ok ++ log.flatMap Asked.items).take n
  /-- Only the last fetch may fail or bring a page without records. -/
  goesOn : ∀ a ∈ log.dropLast, a.records ≠ []
  asked : ∀ before a rest, log = before ++ a :: rest → a.cursor = Asked.last s.continuation before
  /-- If there are fewer items than polls, the last fetch brought no record. -/
  ends : items.length < n → Asked.Over log
  /-- If the last fetch brought no record, nothing that was fetched is left out. -/
  whole : Asked.Over log →
    items = s.buffered.map Except.ok ++ log.flatMap Asked.items

/-- A record of the buffer goes before what is collected then. -/
theorem Cut.serve {s : RecordStream α} {x : α} {l : List α} (hb : s.buffered = x :: l) {n : Nat}
    {items : List (Except Error α)} {log : List (Asked α)}
    (h : Cut { s with buffered := l } n items log) : Cut s (n + 1) (.ok x :: items) log where
  collected := by rw [hb, List.map_cons, List.cons_append, List.take_succ_cons, ← h.collected]
  goesOn := h.goesOn
  asked := h.asked
  ends hlt := h.ends (Nat.lt_of_succ_lt_succ hlt)
  whole hend := by rw [hb, List.map_cons, List.cons_append, ← h.whole hend]

/-- A fetch that brings no record is the end. -/
theorem Cut.stop {s : RecordStream α} (hb : s.buffered = []) {a : Asked α}
    (ha : a.cursor = s.continuation) (hr : a.records = []) {n : Nat}
    (hn : a.items.length ≤ n) : Cut s n a.items [a] where
  collected := by
    rw [hb, List.flatMap_singleton]
    exact (List.take_of_length_le hn).symm
  goesOn b hmem := by simp at hmem
  asked before b rest heq := by
    obtain ⟨rfl, rfl, rfl⟩ : before = [] ∧ b = a ∧ rest = [] := by
      rcases before with _ | ⟨b', before⟩
      · simpa [eq_comm] using heq
      · simp at heq
    exact ha
  ends _ := ⟨a, rfl, hr⟩
  whole _ := by
    rw [hb, List.flatMap_singleton]
    rfl

/-- The first record of a page goes out with its fetch, and the others are in the buffer. -/
theorem Cut.turn {s : RecordStream α} (hb : s.buffered = []) {p : Page α} {x : α} {l : List α}
    (hp : p.items = x :: l) {n : Nat} {items : List (Except Error α)} {log : List (Asked α)}
    (h : Cut { s.turn p with buffered := l } n items log) :
    Cut s (n + 1) (.ok x :: items) (⟨s.continuation, .ok p⟩ :: log) := by
  have hitems : Asked.items ⟨s.continuation, .ok p⟩ = .ok x :: l.map .ok :=
    congrArg (List.map Except.ok) hp
  have hrecords := Asked.records_ne_nil hp s.continuation
  refine
    { collected := ?_
      goesOn := fun a hmem => ?_
      asked := fun before a rest heq => ?_
      ends := fun hlt => ?_
      whole := fun hover => ?_ }
  · rw [hb, List.flatMap_cons, hitems, List.map_nil, List.nil_append, List.cons_append,
      List.take_succ_cons, ← h.collected]
  · rcases log with _ | ⟨b, log⟩
    · simp at hmem
    · rw [List.dropLast_cons_cons, List.mem_cons] at hmem
      rcases hmem with rfl | hmem
      · exact hrecords
      · exact h.goesOn a hmem
  · rcases before with _ | ⟨b, before⟩
    · rw [← (List.cons.inj heq).1]
      rfl
    · obtain ⟨rfl, hrest⟩ := List.cons.inj heq
      rw [h.asked before a rest hrest]
      exact (Asked.last_cons s.continuation p before).symm
  · exact (Asked.over_cons_iff hrecords log).mpr (h.ends (Nat.lt_of_succ_lt_succ hlt))
  · rw [hb, List.flatMap_cons, hitems, List.map_nil, List.nil_append, List.cons_append,
      ← h.whole ((Asked.over_cons_iff hrecords log).mp hover)]

/-- What the calls up to the first that hands out no record come to. -/
theorem cut_upToEnd (fetch : Fetch σ α) (n : Nat) (s : RecordStream α) (state : σ) :
    Cut s n ((upToEnd (calls fetch n s state)).filterMap Call.item?)
      ((upToEnd (calls fetch n s state)).flatMap Call.asked) := by
  induction n generalizing s state with
  | zero =>
    exact ⟨rfl, by simp [calls, upToEnd], by simp [calls, upToEnd], by simp, by
      rintro ⟨a, ha, -⟩
      cases ha⟩
  | succ n ih =>
    have hact := act_call fetch s state
    rw [calls]
    generalize call fetch s state = x at hact ⊢
    obtain ⟨c, state'⟩ := x
    cases hact with
    | @serve x l hb =>
      rw [upToEnd_of_record rfl]
      exact (ih { s with buffered := l } state').serve hb
    | @fail _ e hb =>
      have hstop : Cut s (n + 1) (Asked.items ⟨s.continuation, .error e⟩)
          [⟨s.continuation, .error e⟩] := .stop hb rfl rfl (Nat.le_add_left 1 n)
      rw [upToEnd_of_error rfl]
      exact hstop
    | @turn _ p hb =>
      rcases hp : p.items with _ | ⟨x, l⟩
      · have hnone : Asked.items ⟨s.continuation, .ok p⟩ = [] := congrArg (List.map Except.ok) hp
        have hrecords : Asked.records ⟨s.continuation, .ok p⟩ = [] := hp
        have hstop : Cut s (n + 1) [] [⟨s.continuation, .ok p⟩] := by
          rw [← hnone]
          exact .stop hb rfl hrecords (by rw [hnone]; exact Nat.zero_le _)
        rw [upToEnd_of_end rfl]
        exact hstop
      · rw [upToEnd_of_record rfl]
        exact (ih { s.turn p with buffered := l } state').turn hb hp

/-- Further calls do not matter once one has handed out no record. -/
theorem upToEnd_add (fetch : Fetch σ α) (more : Nat) :
    ∀ (n : Nat) (s : RecordStream α) (state : σ),
      Asked.Over ((upToEnd (calls fetch n s state)).flatMap Call.asked) →
      upToEnd (calls fetch (n + more) s state) = upToEnd (calls fetch n s state)
  | 0, _, _, hover => by
    obtain ⟨a, ha, -⟩ := hover
    cases ha
  | n + 1, s, state, hover => by
    have hact := act_call fetch s state
    rw [Nat.add_right_comm]
    rw [calls] at hover ⊢
    rw [calls]
    generalize call fetch s state = x at hact hover ⊢
    obtain ⟨c, state'⟩ := x
    cases hact with
    | serve hb =>
      rw [upToEnd_of_record rfl] at hover ⊢
      rw [upToEnd_of_record rfl, upToEnd_add fetch more n _ state' hover]
    | fail => rw [upToEnd_of_error rfl, upToEnd_of_error rfl]
    | @turn _ p hb =>
      rcases hp : p.items with _ | ⟨x, l⟩
      · rw [upToEnd_of_end rfl, upToEnd_of_end rfl]
      · have hrecords := Asked.records_ne_nil hp s.continuation
        rw [hp, upToEnd_of_record rfl, List.flatMap_cons] at hover
        have hrest := (Asked.over_cons_iff hrecords _).mp hover
        rw [upToEnd_of_record rfl, upToEnd_of_record rfl]
        exact congrArg _ (upToEnd_add fetch more n _ state' hrest)

/-- A stream that ends for good, polled `n` times, is `n` calls of `next` cut behind the first that
hands out no record: it gives their records and the error, and makes their fetches and no others.
These are the records of the buffer and of the pages that follow, up to a page without records or a
fetch that fails. After such a fetch further polls give nothing and fetch nothing. -/
theorem collect_cut (fetch : Fetch σ α) (s : RecordStream α) (n : Nat) (state : σ) :
    let made := upToEnd (calls fetch n s state)
    let items := made.filterMap Call.item?
    let log := made.flatMap Call.asked
    collect fetch n (some s) state = (items, fetch.after log state) ∧
      collect fetch.logged n (some s) (state, []) = (items, fetch.after log state, log) ∧
      Cut s n items log ∧
      (Asked.Over log → ∀ more, collect fetch.logged (n + more) (some s) (state, []) =
        (items, fetch.after log state, log)) := by
  intro made items log
  obtain ⟨hplain, hlogged⟩ := collect_eq fetch n s state []
  refine ⟨hplain, hlogged, cut_upToEnd fetch n s state, fun hover more => ?_⟩
  have hmore := (collect_eq fetch (n + more) s state []).2
  rwa [upToEnd_add fetch more n s state hover] at hmore

/-- A walk with a record left in its buffer. -/
def halfway : RecordStream Nat where
  buffered := [0]
  continuation := some ⟨"a"⟩

/-- Two pages, of which the second has no cursor, an error, and a page that is never asked for. -/
def breaking : ScriptedOutcomes Nat where
  outcomes :=
    [.ok { items := [1, 2], continuation := some ⟨"b"⟩ }, .ok { items := [3] },
      .error (.of .emptyContinuation), .ok { items := [4] }]

theorem collect_cut_breaking :
    let made := upToEnd (calls ScriptedOutcomes.fetch 5 halfway breaking)
    Asked.Over (made.flatMap Call.asked) ∧
      made.filterMap Call.item? =
        [.ok 0, .ok 1, .ok 2, .ok 3, .error (.of .emptyContinuation)] ∧
      (made.flatMap Call.asked).map Asked.cursor = [some ⟨"a"⟩, some ⟨"b"⟩, some ⟨"b"⟩] ∧
      collect (Fetch.logged ScriptedOutcomes.fetch) (5 + 3) (some halfway) (breaking, []) =
        (made.filterMap Call.item?,
          Fetch.after ScriptedOutcomes.fetch (made.flatMap Call.asked) breaking,
          made.flatMap Call.asked) := by
  intro made
  obtain ⟨-, -, -, hmore⟩ := collect_cut ScriptedOutcomes.fetch halfway 5 breaking
  have hover : Asked.Over (made.flatMap Call.asked) :=
    ⟨⟨some ⟨"b"⟩, .error (.of .emptyContinuation)⟩, rfl, rfl⟩
  exact ⟨hover, rfl, rfl, hmore hover 3⟩

end RecordStream

end EntityHub
