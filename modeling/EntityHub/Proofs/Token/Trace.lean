import EntityHub.Token.Cache
import Mathlib.Data.List.Basic
/-!
# Traces of the token cache

What can be seen of a cache at work: a fetch is started, a fetch ends, a call returns, the token is
set or dropped from outside. `TokenCache.acts` gives the acts of one step and `TokenCache.trace`
those of a run.

`TokenCache.move_step` says once what a step can do; every invariant of a run is proved from it.
-/

namespace EntityHub

/-- The token held after an answer: a token is kept, an error drops the one held. -/
def TokenAnswer.hold (held : Option Token) : TokenAnswer → Option Token
  | .ok (some t) => some t
  | .ok none => held
  | .error _ => none

/-- The answers that a source gives to fetches started at those instants, and the source then. -/
def TokenSource.draw {σ : Type} [TokenSource σ] : List Instant → σ → List TokenAnswer × σ
  | [], s => ([], s)
  | now :: l, s =>
    ((fetch now s).1.answer :: (draw l (fetch now s).2).1, (draw l (fetch now s).2).2)

theorem TokenSource.length_draw {σ : Type} [TokenSource σ] (l : List Instant) (s : σ) :
    (draw l s).1.length = l.length := by
  induction l generalizing s with
  | nil => rfl
  | cons now l ih => simp [draw, ih]

namespace TokenCache

variable {σ : Type}

/-! ## Acts -/

/-- What can be seen of a cache at work. -/
inductive Act where
  | started (now : Instant)
  /-- The fetch under way ends. -/
  | ended (now : Instant) (answer : TokenAnswer)
  | returned (id : Nat) (answer : TokenAnswer)
  | set (t : Token)
  | invalidated

namespace Act

/-- The instants at which fetches were started. -/
def starts : List Act → List Instant
  | [] => []
  | started now :: l => now :: starts l
  | _ :: l => starts l

/-- The answers of the fetches that ended, with their instants. -/
def answers : List Act → List (Instant × TokenAnswer)
  | [] => []
  | ended now a :: l => (now, a) :: answers l
  | _ :: l => answers l

/-- The calls that returned, with what they returned. -/
def returns : List Act → List (Nat × TokenAnswer)
  | [] => []
  | returned id a :: l => (id, a) :: returns l
  | _ :: l => returns l

@[simp] theorem starts_append (l m : List Act) : starts (l ++ m) = starts l ++ starts m := by
  induction l with
  | nil => rfl
  | cons a l ih => cases a <;> simp [starts, ih]

@[simp] theorem answers_append (l m : List Act) : answers (l ++ m) = answers l ++ answers m := by
  induction l with
  | nil => rfl
  | cons a l ih => cases a <;> simp [answers, ih]

@[simp] theorem returns_append (l m : List Act) : returns (l ++ m) = returns l ++ returns m := by
  induction l with
  | nil => rfl
  | cons a l ih => cases a <;> simp [returns, ih]

end Act

/-! ## Answers settled -/

section settle

variable (now : Instant) (a : TokenAnswer) (c : TokenCache σ)

@[simp] theorem settle_token : (c.settle now a).2.token = a.hold c.token := by
  rcases a with e | _ | t <;> rfl

@[simp] theorem settle_line : (c.settle now a).2.line = c.line.tail := by
  rcases a with e | _ | t <;> rfl

@[simp] theorem settle_flight : (c.settle now a).2.flight = none := by
  rcases a with e | _ | t <;> rfl

@[simp] theorem settle_config : (c.settle now a).2.config = c.config := by
  rcases a with e | _ | t <;> rfl

@[simp] theorem settle_source : (c.settle now a).2.source = c.source := by
  rcases a with e | _ | t <;> rfl

/-- What the end of a fetch leaves behind does not hang on how often the fetch was suspended. -/
theorem settle_flown (flight : Option Flight) :
    settle now a { c with flight } = c.settle now a := by
  rcases a with e | _ | t <;> rfl

theorem settle_refreshes_le : c.refreshes ≤ (c.settle now a).2.refreshes := by
  rcases a with e | _ | t <;> simp [settle, release]

end settle

/-! ## Traces -/

/-- The call that takes the step. -/
def Event.caller? : Event → Option Nat
  | .enter _ id | .resume _ id | .drop id => some id
  | .set _ | .invalidate => none

/-- The end of a fetch that is resumed, if it is not suspended again. -/
def endOf (now : Instant) (f : Flight) : List Act :=
  if f.suspensions = 0 then [.ended now f.answer] else []

variable [TokenSource σ]

/-- What the fetch of the call that holds the gate does when the call is resumed. -/
def turnActs (now : Instant) (observed : Nat) (c : TokenCache σ) : List Act :=
  match c.flight with
  | some f => endOf now f
  | none =>
    match c.share? now observed with
    | some _ => []
    | none => .started now :: endOf now (TokenSource.fetch now c.source).1

/-- What fetches do at an event, and what is done from outside. -/
def fetchActs (c : TokenCache σ) : Event → List Act
  | .enter now _ =>
    if (c.reusable? now).isNone && c.line.isEmpty then c.turnActs now c.refreshes else []
  | .resume now id =>
    match c.line with
    | [] => []
    | caller :: _ => if caller.id = id then c.turnActs now caller.observed else []
  | .drop _ => []
  | .set t => [.set t]
  | .invalidate => [.invalidated]

/-- The acts of an event. The call that the event ends returns last. -/
def acts (c : TokenCache σ) (e : Event) : List Act :=
  c.fetchActs e ++ (e.caller?.bind fun id => (c.step e).1.map (.returned id)).toList

/-- The acts of a run. -/
def trace (c : TokenCache σ) : List Event → List Act
  | [] => []
  | e :: l => c.acts e ++ (c.step e).2.trace l

@[simp] theorem run_append (c : TokenCache σ) (l m : List Event) :
    c.run (l ++ m) = (c.run l).run m := by
  simp [run]

@[simp] theorem run_nil (c : TokenCache σ) : c.run [] = c := rfl

@[simp] theorem run_cons (c : TokenCache σ) (e : Event) (l : List Event) :
    c.run (e :: l) = (c.step e).2.run l := rfl

theorem run_singleton (c : TokenCache σ) (e : Event) : c.run [e] = (c.step e).2 := rfl

theorem trace_singleton (c : TokenCache σ) (e : Event) : c.trace [e] = c.acts e := by
  simp [trace]

@[simp] theorem trace_append (c : TokenCache σ) (l m : List Event) :
    c.trace (l ++ m) = c.trace l ++ (c.run l).trace m := by
  induction l generalizing c with
  | nil => rfl
  | cons e l ih => simp [trace, ih]

/-! ## What a step can do -/

/-- What the call `id` can do when it holds the gate: it shares a token, or goes on with a fetch,
its own from before or one that it starts. -/
inductive Turn (c : TokenCache σ) (now : Instant) (observed id : Nat) :
    Option TokenAnswer → TokenCache σ → List Act → Prop
  | share {t : Token} : c.flight = none → c.share? now observed = some t →
      Turn c now observed id (some (.ok (some t))) c.release [.returned id (.ok (some t))]
  | wait {f : Flight} {n : Nat} : c.flight = some f → f.suspensions = n + 1 →
      Turn c now observed id none { c with flight := some { f with suspensions := n } } []
  | finish {f : Flight} : c.flight = some f → f.suspensions = 0 →
      Turn c now observed id (some (c.settle now f.answer).1) (c.settle now f.answer).2
        [.ended now f.answer, .returned id (c.settle now f.answer).1]
  | start {f : Flight} {source : σ} {n : Nat} : c.flight = none → c.share? now observed = none →
      TokenSource.fetch now c.source = (f, source) → f.suspensions = n + 1 →
      Turn c now observed id none { c with source, flight := some { f with suspensions := n } }
        [.started now]
  | fetch {f : Flight} {source : σ} : c.flight = none → c.share? now observed = none →
      TokenSource.fetch now c.source = (f, source) → f.suspensions = 0 →
      Turn c now observed id (some ({ c with source }.settle now f.answer).1)
        ({ c with source }.settle now f.answer).2
        [.started now, .ended now f.answer, .returned id ({ c with source }.settle now f.answer).1]

/-- What an event can do to a cache. -/
inductive Move (c : TokenCache σ) : Event → Option TokenAnswer → TokenCache σ → List Act → Prop
  | reuse {now : Instant} {id : Nat} {t : Token} : c.reusable? now = some t →
      Move c (.enter now id) (some (.ok (some t))) c [.returned id (.ok (some t))]
  | queue {now : Instant} {id : Nat} : c.reusable? now = none → c.line ≠ [] →
      Move c (.enter now id) none { c with line := c.line ++ [⟨id, c.refreshes⟩] } []
  | lead {now : Instant} {id : Nat} {r : Option TokenAnswer} {c' : TokenCache σ} {l : List Act} :
      c.reusable? now = none → c.line = [] →
      Turn { c with line := [⟨id, c.refreshes⟩] } now c.refreshes id r c' l →
      Move c (.enter now id) r c' l
  | turn {now : Instant} {caller : Caller} {rest : List Caller} {r : Option TokenAnswer}
      {c' : TokenCache σ} {l : List Act} : c.line = caller :: rest →
      Turn c now caller.observed caller.id r c' l →
      Move c (.resume now caller.id) r c' l
  | idle {now : Instant} {id : Nat} : (∀ caller ∈ c.line.head?, caller.id ≠ id) →
      Move c (.resume now id) none c []
  | giveUp {caller : Caller} {rest : List Caller} : c.line = caller :: rest →
      Move c (.drop caller.id) none c.release []
  | leave {id : Nat} {l : List Caller} : l.head? = c.line.head? → l.Sublist c.line →
      Move c (.drop id) none { c with line := l } []
  | set {t : Token} : Move c (.set t) none (c.set t) [.set t]
  | invalidate : Move c .invalidate none c.invalidate [.invalidated]

/-- What a fetch does does not hang on who is in line. -/
theorem turnActs_line (c : TokenCache σ) (l : List Caller) (now : Instant) (observed : Nat) :
    turnActs now observed { c with line := l } = c.turnActs now observed :=
  rfl

theorem turn_advance (c : TokenCache σ) (now : Instant) (observed id : Nat) :
    Turn c now observed id (c.advance now observed).1 (c.advance now observed).2
      (c.turnActs now observed ++ ((c.advance now observed).1.map (.returned id)).toList) := by
  unfold advance turnActs deliver endOf
  rcases hf : c.flight with _ | f
  · rcases hs : c.share? now observed with _ | t
    · rcases hfetch : TokenSource.fetch now c.source with ⟨f, source⟩
      rcases hn : f.suspensions with _ | n
      · have h : Turn c now observed id _ _ _ := .fetch hf hs hfetch hn
        simpa [hn, hf] using h
      · have h : Turn c now observed id _ _ _ := .start hf hs hfetch hn
        simpa [hn] using h
    · exact .share hf hs
  · rcases hn : f.suspensions with _ | n
    · have h : Turn c now observed id _ _ _ := .finish hf hn
      simpa [hn] using h
    · have h : Turn c now observed id _ _ _ := .wait hf hn
      simpa [hn] using h

/-- A step does one of the moves. -/
theorem move_step (c : TokenCache σ) (e : Event) :
    Move c e (c.step e).1 (c.step e).2 (c.acts e) := by
  cases e with
  | enter now id =>
    rcases hr : c.reusable? now with _ | t
    · rcases hl : c.line with _ | ⟨caller, rest⟩
      · have h := turn_advance { c with line := [⟨id, c.refreshes⟩] } now c.refreshes id
        rw [turnActs_line] at h
        simpa [acts, fetchActs, step, enter, hr, hl, Event.caller?] using Move.lead hr hl h
      · have h : Move c (.enter now id) none _ [] := .queue hr (by simp [hl])
        simpa [acts, fetchActs, step, enter, hr, hl, Event.caller?] using h
    · have h : Move c (.enter now id) _ c _ := .reuse hr
      simpa [acts, fetchActs, step, enter, hr, Event.caller?] using h
  | resume now id =>
    rcases hl : c.line with _ | ⟨caller, rest⟩
    · have h : Move c (.resume now id) none c [] := .idle (by simp [hl])
      simpa [acts, fetchActs, step, resume, hl, Event.caller?] using h
    · by_cases hid : caller.id = id
      · subst hid
        have h := Move.turn hl (turn_advance c now caller.observed caller.id)
        simpa [acts, fetchActs, step, resume, hl, Event.caller?] using h
      · have h : Move c (.resume now id) none c [] := .idle (by simp [hl, hid])
        simpa [acts, fetchActs, step, resume, hl, hid, Event.caller?] using h
  | drop id =>
    rcases hl : c.line with _ | ⟨caller, rest⟩
    · have hs : c.step (.drop id) = (none, c) := by simp [step, drop, hl]
      have h : Move c (.drop id) none c [] := .leave rfl (List.Sublist.refl c.line)
      simpa [acts, fetchActs, hs, Event.caller?] using h
    · by_cases hid : caller.id = id
      · subst hid
        simpa [acts, fetchActs, step, drop, hl, Event.caller?] using Move.giveUp hl
      · have h : Move c (.drop id) none
            { c with line := caller :: rest.filter fun other => other.id ≠ id } [] :=
          .leave (by simp [hl]) (by simp [hl])
        simpa [acts, fetchActs, step, drop, hl, hid, Event.caller?] using h
  | set t => simpa [acts, fetchActs, step, Event.caller?] using Move.set
  | invalidate => simpa [acts, fetchActs, step, Event.caller?] using Move.invalidate

theorem step_resume {c : TokenCache σ} {caller : Caller} {rest : List Caller}
    (hl : c.line = caller :: rest) (now : Instant) :
    c.step (.resume now caller.id) = c.advance now caller.observed := by
  simp [step, resume, hl]

theorem acts_resume {c : TokenCache σ} {caller : Caller} {rest : List Caller}
    (hl : c.line = caller :: rest) (now : Instant) :
    c.acts (.resume now caller.id) = c.turnActs now caller.observed ++
      ((c.advance now caller.observed).1.map (.returned caller.id)).toList := by
  simp [acts, fetchActs, hl, step_resume hl, Event.caller?]

/-- A fetch under way ends when the call that made it is resumed often enough. -/
theorem run_resumes (now : Instant) {caller : Caller} {rest : List Caller} :
    ∀ (n : Nat) (c : TokenCache σ) (f : Flight), c.line = caller :: rest → c.flight = some f →
      f.suspensions = n →
      c.run (List.replicate (n + 1) (.resume now caller.id)) = (c.settle now f.answer).2 ∧
      c.trace (List.replicate (n + 1) (.resume now caller.id)) =
        [.ended now f.answer, .returned caller.id (c.settle now f.answer).1]
  | 0, c, f, hl, hf, hn => by
    rw [List.replicate_one, run_singleton, trace_singleton, step_resume hl, acts_resume hl]
    simp [advance, turnActs, endOf, hf, deliver, hn]
  | n + 1, c, f, hl, hf, hn => by
    have hadvance : c.advance now caller.observed =
        (none, { c with flight := some { f with suspensions := n } }) := by
      simp [advance, hf, deliver, hn]
    have hacts : c.acts (.resume now caller.id) = [] := by
      rw [acts_resume hl, hadvance]
      simp [turnActs, endOf, hf, hn]
    obtain ⟨hrun, htrace⟩ := run_resumes now n
      { c with flight := some { f with suspensions := n } } { f with suspensions := n } hl rfl rfl
    rw [List.replicate_succ, run_cons, trace, step_resume hl, hadvance, hacts, hrun, htrace,
      settle_flown]
    exact ⟨rfl, rfl⟩

/-- The first call in line is run to its end by settling its fetch. -/
theorem complete_of_flight (now : Instant) {c : TokenCache σ} {f : Flight}
    (hf : c.flight = some f) : c.complete now = c.settle now f.answer := by
  rw [complete, advance, hf]
  simp only [deliver]
  rcases f.suspensions with _ | n
  · rfl
  · exact settle_flown now f.answer c _

theorem Turn.exists_flight {c d : TokenCache σ} {now : Instant} {observed id : Nat}
    {r : Option TokenAnswer} {l : List Act} (h : Turn c now observed id r d l) (hr : r = none) :
    ∃ f, d.flight = some f := by
  cases h with
  | wait | start => exact ⟨_, rfl⟩
  | _ => cases hr

/-- The first call in line takes one turn, after which its fetch is settled if it is under way. -/
theorem exists_turn_complete (now : Instant) (c : TokenCache σ) : ∃ observed r d l,
    Turn c now observed 0 r d l ∧
      ((r = some (c.complete now).1 ∧ d = (c.complete now).2) ∨
        r = none ∧ ∃ f, d.flight = some f ∧ c.complete now = d.settle now f.answer) := by
  have hturn := turn_advance c now ((c.line.head?.map Caller.observed).getD c.refreshes) 0
  refine ⟨_, _, _, _, hturn, ?_⟩
  have hflight := hturn.exists_flight
  unfold complete
  simp only
  generalize c.advance now ((c.line.head?.map Caller.observed).getD c.refreshes) = x at hflight ⊢
  obtain ⟨_ | a, d⟩ := x
  · obtain ⟨f, hf : d.flight = some f⟩ := hflight rfl
    simp only [hf]
    exact .inr ⟨trivial, f, rfl, rfl⟩
  · exact .inl ⟨rfl, rfl⟩

/-- A call that nothing interrupts is entered, and goes on to its end if that does not answer it. -/
theorem exists_move_ensure (now : Instant) (c : TokenCache σ) : ∃ r d l,
    Move c (.enter now 0) r d l ∧ ((r = some (c.ensure now).1 ∧ d = (c.ensure now).2) ∨
      r = none ∧ c.ensure now = d.complete now) := by
  refine ⟨_, _, _, move_step c (.enter now 0), ?_⟩
  have hstep : c.step (.enter now 0) = c.enter now 0 := rfl
  rw [hstep]
  unfold ensure
  rcases c.enter now 0 with ⟨_ | a, d⟩
  · exact .inr ⟨rfl, rfl⟩
  · exact .inl ⟨rfl, rfl⟩

/-- A call that nothing interrupts is a run of the cache: it is entered, and resumed until it
returns. -/
theorem exists_run_ensure (now : Instant) {c : TokenCache σ} (hline : c.line = [])
    (hflight : c.flight = none) : ∃ n : Nat,
      c.run (.enter now 0 :: List.replicate n (.resume now 0)) = (c.ensure now).2 ∧
      Act.returns (c.trace (.enter now 0 :: List.replicate n (.resume now 0))) =
        [(0, (c.ensure now).1)] := by
  obtain ⟨answer, c', acts, hstep, hacts, hmove⟩ : ∃ answer c' acts,
      c.step (.enter now 0) = (answer, c') ∧ c.acts (.enter now 0) = acts ∧
        Move c (.enter now 0) answer c' acts := ⟨_, _, _, rfl, rfl, c.move_step _⟩
  have henter : c.enter now 0 = (answer, c') := hstep
  -- Either the call returns at once, or it alone is in line, with a fetch under way.
  have hcases : (∃ a, answer = some a ∧ Act.returns acts = [(0, a)]) ∨
      ∃ f, answer = none ∧ Act.returns acts = [] ∧ c'.line = [⟨0, c.refreshes⟩] ∧
        c'.flight = some f := by
    cases hmove with
    | reuse => exact .inl ⟨_, rfl, rfl⟩
    | queue _ hwaiting => exact absurd hline hwaiting
    | lead _ _ ht =>
      cases ht with
      | wait hf => exact absurd (hflight.symm.trans hf) (by simp)
      | start => exact .inr ⟨_, rfl, rfl, rfl, rfl⟩
      | _ => exact .inl ⟨_, rfl, rfl⟩
  obtain ⟨a, rfl, hreturns⟩ | ⟨f, rfl, hreturns, hl, hf⟩ := hcases
  · have hensure : c.ensure now = (a, c') := by rw [ensure, henter]
    refine ⟨0, ?_, ?_⟩
    · rw [hensure, List.replicate_zero, run_singleton, hstep]
    · rw [hensure, List.replicate_zero, trace_singleton, hacts, hreturns]
  · obtain ⟨hrun, htrace⟩ := run_resumes now f.suspensions c' f hl hf rfl
    have hsettle : c.ensure now = c'.settle now f.answer := by
      rw [ensure, henter]
      exact complete_of_flight now hf
    refine ⟨f.suspensions + 1, ?_, ?_⟩
    · rw [hsettle, run_cons, hstep, hrun]
    · rw [hsettle, trace, Act.returns_append, hstep, hacts, hreturns, htrace]
      rfl

/-! ## Fetches of a run -/

/-- Fetches are started one at a time: only when none is under way. `busy` says whether one is when
the acts begin. -/
def Act.OneAtATime : Bool → List Act → Prop
  | _, [] => True
  | busy, .started _ :: l => busy = false ∧ OneAtATime true l
  | busy, .ended _ _ :: l => busy = true ∧ OneAtATime false l
  | busy, _ :: l => OneAtATime busy l

theorem Move.oneAtATime {c c' : TokenCache σ} {e : Event} {r : Option TokenAnswer}
    {l m : List Act} (h : Move c e r c' l) (hd : ∀ id, e ≠ .drop id)
    (hm : Act.OneAtATime c'.flight.isSome m) : Act.OneAtATime c.flight.isSome (l ++ m) := by
  cases h with
  | giveUp => exact (hd _ rfl).elim
  | leave => exact (hd _ rfl).elim
  | lead _ _ ht => cases ht <;> simp_all [Act.OneAtATime, release]
  | turn _ ht => cases ht <;> simp_all [Act.OneAtATime, release]
  | _ => simpa [Act.OneAtATime, TokenCache.set, TokenCache.invalidate] using hm

/-- Unless calls are dropped, a cache has at most one fetch under way. -/
theorem oneAtATime_trace (c : TokenCache σ) {l : List Event} (hd : ∀ e ∈ l, ∀ id, e ≠ .drop id) :
    Act.OneAtATime c.flight.isSome (c.trace l) := by
  induction l generalizing c with
  | nil => trivial
  | cons e l ih =>
    exact (c.move_step e).oneAtATime (hd e (by simp)) (ih _ fun e he => hd e (by simp [he]))

/-- The answer of the fetch under way, as a list. -/
def underWay (c : TokenCache σ) : List TokenAnswer := c.flight.toList.map Flight.answer

/-- The answers that end, and then the one still under way, are those that the source gives. -/
def Draws (c : TokenCache σ) (l : List Act) (rest : List TokenAnswer) (s : σ) : Prop :=
  c.underWay ++ (TokenSource.draw (Act.starts l) c.source).1 =
      (Act.answers l).map Prod.snd ++ rest ∧
    (TokenSource.draw (Act.starts l) c.source).2 = s

theorem Turn.draws {c c' : TokenCache σ} {now : Instant} {observed id : Nat}
    {r : Option TokenAnswer} {l m : List Act} {rest : List TokenAnswer} {s : σ}
    (h : Turn c now observed id r c' l) (hm : Draws c' m rest s) : Draws c (l ++ m) rest s := by
  cases h <;>
    simp_all [Draws, underWay, Act.starts, Act.answers, TokenSource.draw, release]

theorem Move.draws {c c' : TokenCache σ} {e : Event} {r : Option TokenAnswer} {l m : List Act}
    {rest : List TokenAnswer} {s : σ} (h : Move c e r c' l) (hd : ∀ id, e ≠ .drop id)
    (hm : Draws c' m rest s) : Draws c (l ++ m) rest s := by
  cases h with
  | giveUp => exact (hd _ rfl).elim
  | leave => exact (hd _ rfl).elim
  | lead _ _ ht => exact ht.draws hm
  | turn _ ht => exact ht.draws hm
  | _ => simpa [Draws, underWay, Act.starts, Act.answers, TokenCache.set,
      TokenCache.invalidate] using hm

/-- Unless calls are dropped, the fetches of a run end with the successive answers of the source. -/
theorem draws_trace (c : TokenCache σ) {l : List Event} (hd : ∀ e ∈ l, ∀ id, e ≠ .drop id) :
    Draws c (c.trace l) (c.run l).underWay (c.run l).source := by
  induction l generalizing c with
  | nil => simp [Draws, trace, Act.starts, Act.answers, TokenSource.draw]
  | cons e l ih =>
    exact (c.move_step e).draws (hd e (by simp)) (ih _ fun e he => hd e (by simp [he]))

end TokenCache

end EntityHub
