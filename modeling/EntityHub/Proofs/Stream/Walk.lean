import EntityHub.Stream.Record
import EntityHub.Stream.Script
import Mathlib.Data.List.Basic
/-!
# Walks over pages

A walk is begun with `RecordStream.start` and goes on with calls of `RecordStream.next`. Its fetcher
is any function with a state, so it may answer anything at any time. What it was asked and what it
answered is logged (`Fetch.logged`).

`RecordStream.walk_faithful` says of every walk that it hands out the records of the pages once and
in order, that it always asks at the last cursor it has met, and that failed fetches leave no trace:
the walk is the one over the successful answers alone, with the errors put in between.
-/

namespace EntityHub

variable {σ α : Type}

/-! ## Fetches -/

/-- A fetch as it is logged. -/
structure Asked (α : Type) where
  cursor : Option Continuation
  answer : Except Error (Page α)

/-- A fetcher that logs what it is asked and what it answers. -/
def Fetch.logged (fetch : Fetch σ α) : Fetch (σ × List (Asked α)) α := fun cursor (state, log) =>
  let (answer, state) := fetch cursor state
  (answer, state, log ++ [⟨cursor, answer⟩])

/-- The pages that fetches brought. -/
def Asked.pages (log : List (Asked α)) : List (Page α) := log.filterMap fun a => a.answer.toOption

@[simp] theorem Asked.pages_append (log more : List (Asked α)) :
    pages (log ++ more) = pages log ++ pages more :=
  List.filterMap_append

@[simp] theorem Asked.pages_error (cursor : Option Continuation) (e : Error) :
    pages [(⟨cursor, .error e⟩ : Asked α)] = [] :=
  rfl

@[simp] theorem Asked.pages_ok (cursor : Option Continuation) (p : Page α) :
    pages [⟨cursor, .ok p⟩] = [p] :=
  rfl

/-- The last continuation that fetches brought; the cursor from before if there was none. -/
def Asked.last (cursor : Option Continuation) (log : List (Asked α)) : Option Continuation :=
  ((pages log).filterMap Page.continuation).getLast?.or cursor

theorem getLast?_filterMap_concat {β : Type} (f : Page α → Option β) (l : List (Page α))
    (p : Page α) : ((l ++ [p]).filterMap f).getLast? = (f p).or (l.filterMap f).getLast? := by
  rw [List.filterMap_append, List.getLast?_append]
  rcases hf : f p with _ | b <;> simp [hf]

theorem Asked.last_concat (cursor cursor' : Option Continuation) (log : List (Asked α))
    (p : Page α) :
    last cursor (log ++ [⟨cursor', .ok p⟩]) = p.continuation.or (last cursor log) := by
  rw [last, pages_append, pages_ok, getLast?_filterMap_concat, Option.or_assoc, last]

namespace RecordStream

/-! ## One call -/

theorem start_eq (fetch : Fetch σ α) (cursor : Option Continuation) (state : σ) :
    start fetch cursor state =
      (((fetch cursor state).1.map (turn { continuation := cursor })), (fetch cursor state).2) := by
  rcases h : fetch cursor state with ⟨e | p, state'⟩ <;>
    simp [start, bind, StateT.bind, h] <;> rfl

theorem next_of_cons (fetch : Fetch σ α) {s : RecordStream α} {x : α} {l : List α}
    (h : s.buffered = x :: l) (state : σ) :
    s.next fetch state = ((.ok (some x), { s with buffered := l }), state) := by
  simp only [next, h]
  rfl

theorem next_of_error {fetch : Fetch σ α} {s : RecordStream α} (h : s.buffered = [])
    {state state' : σ} {e : Error} (hf : fetch s.continuation state = (.error e, state')) :
    s.next fetch state = ((.error e, s), state') := by
  simp only [next, h, bind, StateT.bind, hf]
  rfl

theorem next_of_page {fetch : Fetch σ α} {s : RecordStream α} (h : s.buffered = [])
    {state state' : σ} {p : Page α} (hf : fetch s.continuation state = (.ok p, state')) :
    s.next fetch state =
      ((.ok p.items.head?, { s.turn p with buffered := p.items.tail }), state') := by
  simp only [next, h, bind, StateT.bind, hf]
  rfl

/-- A call of `next`. -/
structure Call (α : Type) where
  before : RecordStream α
  /-- The fetches that the call made. -/
  asked : List (Asked α)
  result : Except Error (Option α)
  after : RecordStream α

/-- The call of `next` on a walk, and the state of the fetcher after it. -/
def call (fetch : Fetch σ α) (s : RecordStream α) (state : σ) : Call α × σ :=
  ({ before := s
     asked := (s.next fetch.logged (state, [])).2.2
     result := (s.next fetch state).1.1
     after := (s.next fetch state).1.2 },
    (s.next fetch state).2)

/-- What a call can do: it hands out a record of the buffer, or it fetches. -/
inductive Act (fetch : Fetch σ α) (s : RecordStream α) (state : σ) : Call α → σ → Prop
  | serve {x : α} {l : List α} : s.buffered = x :: l →
      Act fetch s state ⟨s, [], .ok (some x), { s with buffered := l }⟩ state
  | fail {state' : σ} {e : Error} : s.buffered = [] →
      fetch s.continuation state = (.error e, state') →
      Act fetch s state ⟨s, [⟨s.continuation, .error e⟩], .error e, s⟩ state'
  | turn {state' : σ} {p : Page α} : s.buffered = [] →
      fetch s.continuation state = (.ok p, state') →
      Act fetch s state ⟨s, [⟨s.continuation, .ok p⟩], .ok p.items.head?,
        { s.turn p with buffered := p.items.tail }⟩ state'

theorem Act.call_eq {fetch : Fetch σ α} {s : RecordStream α} {state state' : σ} {c : Call α}
    (h : Act fetch s state c state') : call fetch s state = (c, state') := by
  cases h with
  | serve hb => simp [call, next_of_cons _ hb]
  | @fail _ e hb hf =>
    have hlog : fetch.logged s.continuation (state, []) =
        (.error e, state', [⟨s.continuation, .error e⟩]) := by simp [Fetch.logged, hf]
    simp [call, next_of_error hb hf, next_of_error hb hlog]
  | @turn _ p hb hf =>
    have hlog : fetch.logged s.continuation (state, []) =
        (.ok p, state', [⟨s.continuation, .ok p⟩]) := by simp [Fetch.logged, hf]
    simp [call, next_of_page hb hf, next_of_page hb hlog]

theorem act_call (fetch : Fetch σ α) (s : RecordStream α) (state : σ) :
    Act fetch s state (call fetch s state).1 (call fetch s state).2 := by
  have hact : ∃ c state', Act fetch s state c state' := by
    rcases hb : s.buffered with _ | ⟨x, l⟩
    · rcases hf : fetch s.continuation state with ⟨e | p, state'⟩
      · exact ⟨_, _, .fail hb hf⟩
      · exact ⟨_, _, .turn hb hf⟩
    · exact ⟨_, _, .serve hb⟩
  obtain ⟨c, state', h⟩ := hact
  rwa [h.call_eq]

namespace Call

/-- The record that a call handed out. -/
def returned? (c : Call α) : Option α := c.result.toOption.join

/-- What holds of every call. -/
structure Proper (c : Call α) : Prop where
  /-- It fetches once if the buffer is empty, and else not at all. -/
  asks : c.asked.length = if c.before.buffered.isEmpty then 1 else 0
  /-- It tells the end exactly if the page just fetched has no records. -/
  ends : c.result = .ok none ↔ ∃ a ∈ c.asked, ∃ p, a.answer = .ok p ∧ p.items = []
  /-- Its error is the one of the fetch. -/
  fails : ∀ e, c.result = .error e ↔ ∃ a ∈ c.asked, a.answer = .error e
  unchanged : ∀ e, c.result = .error e → c.after = c.before

end Call

theorem Act.proper {fetch : Fetch σ α} {s : RecordStream α} {state state' : σ} {c : Call α}
    (h : Act fetch s state c state') : c.Proper := by
  cases h with
  | serve hb => constructor <;> simp [hb]
  | fail hb => constructor <;> simp [hb]
  | turn hb => constructor <;> simp [hb, List.head?_eq_none_iff]

/-! ## Walks -/

/-- Calls of `next`, one after another. -/
def calls (fetch : Fetch σ α) : Nat → RecordStream α → σ → List (Call α)
  | 0, _, _ => []
  | n + 1, s, state =>
    (call fetch s state).1 :: calls fetch n (call fetch s state).1.after (call fetch s state).2

/-- The walk that calls leave. -/
def left : RecordStream α → List (Call α) → RecordStream α
  | s, [] => s
  | _, c :: l => left c.after l

/-- What is true of a walk from `cursor` after the fetches `log`, when `records` were handed out. -/
structure Faithful (cursor : Option Continuation) (log : List (Asked α)) (records : List α)
    (s : RecordStream α) : Prop where
  /-- Every record is handed out once and in order, or is still in the buffer. -/
  records : records ++ s.buffered = (Asked.pages log).flatMap Page.items
  /-- Every fetch is at the last cursor from before it. -/
  asked : ∀ before a rest, log = before ++ a :: rest → a.cursor = Asked.last cursor before
  token : s.continuation = Asked.last cursor log
  context : s.context = ((Asked.pages log).filterMap Page.context).getLast?
  pagesFetched : s.pagesFetched = (Asked.pages log).length

/-- A fetch at the cursor of a faithful walk is asked what it should be. -/
theorem Faithful.asked_concat {cursor : Option Continuation} {log : List (Asked α)}
    {records : List α} {s : RecordStream α} (h : Faithful cursor log records s)
    (answer : Except Error (Page α)) (before : List (Asked α)) (a : Asked α) (rest : List (Asked α))
    (heq : log ++ [⟨s.continuation, answer⟩] = before ++ a :: rest) :
    a.cursor = Asked.last cursor before := by
  rcases List.eq_nil_or_concat rest with rfl | ⟨rest', b, rfl⟩
  · obtain ⟨rfl, ha⟩ := List.append_inj' heq rfl
    rw [← List.singleton_inj.mp ha]
    exact h.token
  · have heq' : log ++ [⟨s.continuation, answer⟩] = (before ++ a :: rest') ++ [b] := by
      simpa using heq
    exact h.asked before a rest' (List.append_inj' heq' rfl).1

theorem Act.faithful {fetch : Fetch σ α} {cursor : Option Continuation} {log : List (Asked α)}
    {records : List α} {s : RecordStream α} {state state' : σ} {c : Call α}
    (h : Act fetch s state c state') (hs : Faithful cursor log records s) :
    Faithful cursor (log ++ c.asked) (records ++ c.returned?.toList) c.after := by
  cases h with
  | serve hb =>
    refine ⟨?_, by simpa using hs.asked, by simpa using hs.token, by simpa using hs.context,
      by simpa using hs.pagesFetched⟩
    have hr := hs.records
    rw [hb] at hr
    simpa [Call.returned?, Except.toOption] using hr
  | fail hb =>
    exact ⟨by simpa [Call.returned?, Except.toOption] using hs.records, hs.asked_concat _,
      by simpa [Asked.last] using hs.token, by simpa using hs.context,
      by simpa using hs.pagesFetched⟩
  | @turn _ p hb =>
    refine ⟨?_, hs.asked_concat _, ?_, ?_, ?_⟩
    · have hr := hs.records
      rw [hb, List.append_nil] at hr
      rcases hi : p.items with _ | ⟨x, l⟩ <;>
        simp [Call.returned?, Except.toOption, hr, hi]
    · rw [Asked.last_concat, ← hs.token]
      rfl
    · rw [Asked.pages_append, Asked.pages_ok, getLast?_filterMap_concat, ← hs.context]
      rfl
    · rw [Asked.pages_append, List.length_append, ← hs.pagesFetched]
      rfl

theorem faithful_calls {fetch : Fetch σ α} {cursor : Option Continuation} (n : Nat)
    {log : List (Asked α)} {records : List α} {s : RecordStream α} (state : σ)
    (hs : Faithful cursor log records s) :
    Faithful cursor (log ++ (calls fetch n s state).flatMap Call.asked)
      (records ++ (calls fetch n s state).filterMap Call.returned?)
      (left s (calls fetch n s state)) := by
  induction n generalizing log records s state with
  | zero => simpa [calls, left] using hs
  | succ n ih =>
    have h := ih (call fetch s state).2 ((act_call fetch s state).faithful hs)
    rw [List.append_assoc, List.append_assoc] at h
    rw [calls, List.flatMap_cons, List.filterMap_cons, left]
    rcases hr : (call fetch s state).1.returned? with _ | x
    · simpa [hr] using h
    · simpa [hr] using h

theorem proper_calls (fetch : Fetch σ α) (n : Nat) (s : RecordStream α) (state : σ) :
    ∀ c ∈ calls fetch n s state, c.Proper := by
  induction n generalizing s state with
  | zero => simp [calls]
  | succ n ih =>
    intro c hc
    rcases List.mem_cons.mp hc with rfl | hc
    · exact (act_call fetch s state).proper
    · exact ih _ _ c hc

/-! ## Walks without their errors -/

/-- A call that succeeds does the same on a script with the page that it fetched. -/
theorem Act.replay {fetch : Fetch σ α} {s : RecordStream α} {state state' : σ} {c : Call α}
    (h : Act fetch s state c state') (hc : c.result.isOk = true)
    (rest : List (Except Error (Page α))) (asked : List (Option String)) :
    ∃ asked', call ScriptedOutcomes.fetch s ⟨(Asked.pages c.asked).map .ok ++ rest, asked⟩ =
      (c, ⟨rest, asked'⟩) := by
  cases h with
  | serve hb =>
    have h : Act ScriptedOutcomes.fetch s ⟨rest, asked⟩ _ _ := .serve hb
    exact ⟨_, h.call_eq⟩
  | fail => cases hc
  | @turn _ p hb =>
    have h : Act ScriptedOutcomes.fetch s ⟨.ok p :: rest, asked⟩ _ _ := .turn hb rfl
    exact ⟨_, h.call_eq⟩

theorem Act.of_failed {fetch : Fetch σ α} {s : RecordStream α} {state state' : σ} {c : Call α}
    (h : Act fetch s state c state') (hc : c.result.isOk = false) :
    Asked.pages c.asked = [] ∧ c.after = s := by
  cases h with
  | serve => cases hc
  | fail => exact ⟨rfl, rfl⟩
  | turn => cases hc

/-- The calls that did not fail. -/
def succeeded (cs : List (Call α)) : List (Call α) := cs.filter fun c => c.result.isOk

/-- On a script without the errors, the calls that did not fail go on as they did. -/
theorem calls_replay (fetch : Fetch σ α) (n : Nat) (s : RecordStream α) (state : σ)
    (rest : List (Except Error (Page α))) (asked : List (Option String)) :
    calls ScriptedOutcomes.fetch (succeeded (calls fetch n s state)).length s
        ⟨(Asked.pages ((calls fetch n s state).flatMap Call.asked)).map .ok ++ rest, asked⟩ =
      succeeded (calls fetch n s state) ∧
    left s (succeeded (calls fetch n s state)) = left s (calls fetch n s state) := by
  induction n generalizing s state asked with
  | zero => exact ⟨rfl, rfl⟩
  | succ n ih =>
    have hact := act_call fetch s state
    rw [calls, List.flatMap_cons, Asked.pages_append, List.map_append, List.append_assoc, left,
      succeeded, List.filter_cons]
    generalize call fetch s state = x at *
    obtain ⟨c, state'⟩ := x
    rcases hc : c.result.isOk with _ | _
    · obtain ⟨hpages, hafter⟩ := hact.of_failed hc
      rw [hpages, hafter]
      exact ih s state' asked
    · obtain ⟨asked', hcall⟩ := hact.replay hc
        ((Asked.pages ((calls fetch n c.after state').flatMap Call.asked)).map .ok ++ rest) asked
      obtain ⟨hcalls, hleft⟩ := ih c.after state' asked'
      rw [if_pos rfl, List.length_cons, calls, hcall, left]
      exact ⟨congrArg (c :: ·) hcalls, hleft⟩

/-! ## Whole walks -/

/-- A walk that was begun, and what was done on it since. -/
structure Walk (α : Type) where
  begun : RecordStream α
  /-- The fetches by which it was begun. -/
  opening : List (Asked α)
  calls : List (Call α)

/-- Begins a walk at a cursor and calls `next` on it `n` times. -/
def walk (fetch : Fetch σ α) (cursor : Option Continuation) (n : Nat) (state : σ) :
    Except Error (Walk α) :=
  (start fetch cursor state).1.map fun s =>
    { begun := s
      opening := (start fetch.logged cursor (state, [])).2.2
      calls := calls fetch n s (start fetch cursor state).2 }

namespace Walk

/-- All fetches of a walk. -/
def log (w : Walk α) : List (Asked α) := w.opening ++ w.calls.flatMap Call.asked

/-- The records that were handed out. -/
def records (w : Walk α) : List α := w.calls.filterMap Call.returned?

/-- The walk as it is left. -/
def stream (w : Walk α) : RecordStream α := left w.begun w.calls

/-- The walk without the calls that failed. -/
def withoutErrors (w : Walk α) : Walk α := { w with calls := succeeded w.calls }

end Walk

theorem walk_of_page {fetch : Fetch σ α} {cursor : Option Continuation} {state state' : σ}
    {p : Page α} (hf : fetch cursor state = (.ok p, state')) (n : Nat) :
    walk fetch cursor n state =
      .ok ⟨turn { continuation := cursor } p, [⟨cursor, .ok p⟩],
        calls fetch n (turn { continuation := cursor } p) state'⟩ := by
  rw [walk, start_eq, start_eq]
  simp only [Fetch.logged, hf]
  rfl

theorem walk_eq_ok {fetch : Fetch σ α} {cursor : Option Continuation} {n : Nat} {state : σ}
    {w : Walk α} (h : walk fetch cursor n state = .ok w) :
    ∃ p state', fetch cursor state = (.ok p, state') ∧
      w = ⟨turn { continuation := cursor } p, [⟨cursor, .ok p⟩],
        calls fetch n (turn { continuation := cursor } p) state'⟩ := by
  rcases hf : fetch cursor state with ⟨e | p, state'⟩
  · rw [walk, start_eq fetch, hf] at h
    cases h
  · rw [walk_of_page hf] at h
    exact ⟨p, state', rfl, (Except.ok.inj h).symm⟩

theorem length_calls (fetch : Fetch σ α) (n : Nat) (s : RecordStream α) (state : σ) :
    (calls fetch n s state).length = n := by
  induction n generalizing s state with
  | zero => rfl
  | succ n ih => rw [calls, List.length_cons, ih]

theorem faithful_turn (cursor : Option Continuation) (p : Page α) :
    Faithful cursor [⟨cursor, .ok p⟩] [] (turn { continuation := cursor } p) := by
  refine ⟨by simp [turn], fun before a rest heq => ?_, ?_, ?_, rfl⟩
  · rcases before with _ | ⟨b, before⟩
    · rw [← (List.cons.inj heq).1]
      rfl
    · have hnil := (List.cons.inj heq).2
      simp at hnil
  · exact (Asked.last_concat cursor cursor [] p).symm
  · have hlast := getLast?_filterMap_concat Page.context [] p
    rw [Asked.pages_ok]
    exact hlast.symm

/-- A walk hands out the records of the pages once and in order and asks at the last cursor it has
met. Its calls fetch only when the buffer is empty. A failed fetch leaves no trace: on the
successful answers alone the walk is the same but for the errors. -/
theorem walk_faithful {fetch : Fetch σ α} {cursor : Option Continuation} {n : Nat} {state : σ}
    {w : Walk α} (h : walk fetch cursor n state = .ok w) :
    w.calls.length = n ∧ Faithful cursor w.log w.records w.stream ∧ (∀ c ∈ w.calls, c.Proper) ∧
    w.withoutErrors.stream = w.stream ∧
    ∀ rest, walk ScriptedOutcomes.fetch cursor w.withoutErrors.calls.length
      ⟨(Asked.pages w.log).map .ok ++ rest, []⟩ = .ok w.withoutErrors := by
  obtain ⟨p, state', -, rfl⟩ := walk_eq_ok h
  refine ⟨length_calls _ _ _ _, faithful_calls n state' (faithful_turn cursor p),
    proper_calls fetch n _ state', (calls_replay fetch n _ state' [] []).2, fun rest => ?_⟩
  have hreplay := (calls_replay fetch n (turn { continuation := cursor } p) state' rest
    [cursor.map Continuation.value]).1
  have hscript : ∀ l : List (Except Error (Page α)),
      ScriptedOutcomes.fetch cursor ⟨.ok p :: l, []⟩ =
        (.ok p, ⟨l, [cursor.map Continuation.value]⟩) := fun _ => rfl
  rw [Walk.log, Asked.pages_append, Asked.pages_ok, List.cons_append, List.nil_append,
    List.map_cons, List.cons_append, walk_of_page (hscript _)]
  exact congrArg (fun cs => Except.ok (Walk.mk _ _ cs)) hreplay

/-- Answers among which are errors, a page without records and one without a cursor. -/
def bumpy : ScriptedOutcomes Nat where
  outcomes :=
    [.ok { items := [1, 2], continuation := some ⟨"a"⟩ }, .error (.of .emptyContinuation),
      .ok { continuation := some ⟨"b"⟩, context := some {} }, .ok { items := [3] },
      .error (.of .emptyContinuation)]

theorem walk_faithful_bumpy :
    ∃ w, walk ScriptedOutcomes.fetch none 6 bumpy = .ok w ∧ w.records = [1, 2, 3] ∧
      w.stream.continuation = some ⟨"b"⟩ ∧ w.stream.pagesFetched = 3 ∧
      Faithful none w.log w.records w.stream ∧ w.withoutErrors.calls.length = 4 ∧
      walk ScriptedOutcomes.fetch none 4 ⟨(Asked.pages w.log).map .ok, []⟩ =
        .ok w.withoutErrors := by
  refine ⟨_, rfl, rfl, rfl, rfl, ?_⟩
  obtain ⟨-, hfaithful, -, -, hreplay⟩ := walk_faithful
    (rfl : walk ScriptedOutcomes.fetch none 6 bumpy = .ok _)
  exact ⟨hfaithful, rfl, hreplay []⟩

end RecordStream

end EntityHub
