import EntityHub.Token.Config
import EntityHub.Token.Source
/-!
# The token cache

The cache holds one token and renews it through its source. Callers that find no token to use get
in line; the first in line holds the gate and alone may fetch. A caller that waited looks again
before it fetches: it takes the held token if that is fresh and a fetch has been completed since
the caller got in line, or if it may be used again anyway.

The cache is a transition system. A call is entered, resumed until it is done, or dropped at a
suspension; between any two steps of it other calls may take steps and the token may be set or
invalidated. Each step has its own reading of the clock. `TokenCache.ensure` is a call that nothing
interrupts, `TokenCache.ensureAll` several that start together.
-/

namespace EntityHub

/-- A call in line for the gate. -/
structure Caller where
  id : Nat
  /-- How many fetches had been completed when the call got in line. -/
  observed : Nat
deriving DecidableEq, Repr

/-- What a cache has, as others see it. -/
inductive TokenState where
  | unauthenticated
  | authenticating
  | authenticated
  | expired
deriving DecidableEq, Repr

/-- The name of a state. -/
def TokenState.label : TokenState → String
  | unauthenticated => "Unauthenticated"
  | authenticating => "Authenticating"
  | authenticated => "Authenticated"
  | expired => "Expired"

/-- A token cache over a source. -/
structure TokenCache (σ : Type) where
  config : TokenConfig := {}
  source : σ
  /-- The token held. -/
  token : Option Token := none
  /-- The number of fetches that gave a token to a call that was not dropped. -/
  refreshes : Nat := 0
  /-- The calls in line. The first one holds the gate. -/
  line : List Caller := []
  /-- The fetch of the call that holds the gate. -/
  flight : Option Flight := none

namespace TokenCache

variable {σ : Type}

/-! ## The token held -/

/-- Whether a token is good for longer than the leeway. A leeway that leads beyond the calendar
makes every token with an expiry stale. -/
def isFresh (config : TokenConfig) (now : Instant) (t : Token) : Bool :=
  t.isValidAt ((now.add? config.expiryLeeway.toSpan).getD .last)

/-- Whether a held token may be used without a fetch. -/
def isReusable (config : TokenConfig) (now : Instant) (t : Token) : Bool :=
  isFresh config now t &&
    !(t.expiry.isNone && config.noExpiryPolicy == .alwaysReauthenticate)

/-- The held token, if it is fresh. -/
def fresh? (now : Instant) (c : TokenCache σ) : Option Token := c.token.filter (isFresh c.config now)

/-- The held token, if it may be used without a fetch. -/
def reusable? (now : Instant) (c : TokenCache σ) : Option Token :=
  c.token.filter (isReusable c.config now)

/-- Whether a call would be answered without a fetch. -/
def isValid (now : Instant) (c : TokenCache σ) : Bool := (c.reusable? now).isSome

/-- What the cache has. While some call holds the gate, nothing else is told. -/
def state (now : Instant) (c : TokenCache σ) : TokenState :=
  if !c.line.isEmpty then .authenticating
  else match c.token with
    | none => .unauthenticated
    | some t => if isFresh c.config now t then .authenticated else .expired

/-- The cache with another token. -/
def set (t : Token) (c : TokenCache σ) : TokenCache σ := { c with token := some t }

/-- The cache without a token. -/
def invalidate (c : TokenCache σ) : TokenCache σ := { c with token := none }

/-! ## Steps of a call -/

/-- The cache after the first in line has left. The next one holds the gate. -/
def release (c : TokenCache σ) : TokenCache σ := { c with line := c.line.tail, flight := none }

/-- Ends the call that holds the gate with the answer of its fetch. A token is held and counted; an
error drops the token held; no token leaves the one held, which answers the call if it is fresh. -/
def settle (now : Instant) (answer : TokenAnswer) (c : TokenCache σ) : TokenAnswer × TokenCache σ :=
  match answer with
  | .ok (some t) =>
    (.ok (some t), { c with token := some t, refreshes := c.refreshes + 1 }.release)
  | .ok none => (.ok (c.fresh? now), c.release)
  | .error e => (.error e, { c with token := none }.release)

/-- The held token that a call which got in line at `observed` takes without a fetch. -/
def share? (now : Instant) (observed : Nat) (c : TokenCache σ) : Option Token :=
  if c.refreshes ≠ observed then (c.fresh? now).or (c.reusable? now) else c.reusable? now

/-- Resumes a fetch of the call that holds the gate. -/
def deliver (now : Instant) (f : Flight) (c : TokenCache σ) : Option TokenAnswer × TokenCache σ :=
  match f.suspensions with
  | 0 => (some (c.settle now f.answer).1, (c.settle now f.answer).2)
  | n + 1 => (none, { c with flight := some { f with suspensions := n } })

variable [TokenSource σ]

/-- The strategy of the source. -/
def strategy (c : TokenCache σ) : AuthStrategy := TokenSource.strategy c.source

/-- Resumes the call that holds the gate: it shares a token, starts a fetch, or goes on with the one
that it has started. -/
def advance (now : Instant) (observed : Nat) (c : TokenCache σ) :
    Option TokenAnswer × TokenCache σ :=
  match c.flight with
  | some f => c.deliver now f
  | none =>
    match c.share? now observed with
    | some t => (some (.ok (some t)), c.release)
    | none =>
      let (f, source) := TokenSource.fetch now c.source
      { c with source }.deliver now f

/-- Starts a call. It is answered at once, or gets in line, and goes on if it is the first there. -/
def enter (now : Instant) (id : Nat) (c : TokenCache σ) : Option TokenAnswer × TokenCache σ :=
  match c.reusable? now with
  | some t => (some (.ok (some t)), c)
  | none =>
    let waiting := { c with line := c.line ++ [⟨id, c.refreshes⟩] }
    if c.line.isEmpty then waiting.advance now c.refreshes else (none, waiting)

/-- Resumes a call in line. Only the first in line makes progress. -/
def resume (now : Instant) (id : Nat) (c : TokenCache σ) : Option TokenAnswer × TokenCache σ :=
  match c.line with
  | [] => (none, c)
  | caller :: _ => if caller.id = id then c.advance now caller.observed else (none, c)

/-- Drops a call in line. If it held the gate, its fetch is given up and the next one holds it. -/
def drop (id : Nat) (c : TokenCache σ) : TokenCache σ :=
  match c.line with
  | [] => c
  | caller :: rest =>
    if caller.id = id then c.release
    else { c with line := caller :: rest.filter fun other => other.id ≠ id }

/-! ## Runs -/

/-- One step of the cache, with the call that takes it and its reading of the clock. -/
inductive Event where
  | enter (now : Instant) (id : Nat)
  | resume (now : Instant) (id : Nat)
  | drop (id : Nat)
  | set (t : Token)
  | invalidate

/-- The cache after an event, and the answer of the call that the event ended. -/
def step (c : TokenCache σ) : Event → Option TokenAnswer × TokenCache σ
  | .enter now id => c.enter now id
  | .resume now id => c.resume now id
  | .drop id => (none, c.drop id)
  | .set t => (none, c.set t)
  | .invalidate => (none, c.invalidate)

/-- The cache after a list of events. -/
def run (c : TokenCache σ) (l : List Event) : TokenCache σ := l.foldl (fun c e => (c.step e).2) c

/-- Runs the first call in line to its end without interruption. -/
def complete (now : Instant) (c : TokenCache σ) : TokenAnswer × TokenCache σ :=
  let observed := (c.line.head?.map Caller.observed).getD c.refreshes
  match c.advance now observed with
  | (some answer, c) => (answer, c)
  | (none, c) =>
    match c.flight with
    | some f => c.settle now f.answer
    | none => (.ok none, c)

/-- A call that nothing interrupts, with no other call in line. -/
def ensure (now : Instant) (c : TokenCache σ) : TokenAnswer × TokenCache σ :=
  match c.enter now 0 with
  | (some answer, c) => (answer, c)
  | (none, c) => c.complete now

/-- Starts `n` calls in turn, numbered from `first` on, and gives the answers of those that are done
at once. -/
def enterAll (now : Instant) (first : Nat) : Nat → TokenCache σ → List (Option TokenAnswer) × TokenCache σ
  | 0, c => ([], c)
  | n + 1, c =>
    let (answer, c) := c.enter now first
    let (answers, c) := enterAll now (first + 1) n c
    (answer :: answers, c)

/-- Runs the calls that are not done to their ends, one after another. They are in line in their
order, so the next of them always holds the gate. -/
def completeAll (now : Instant) :
    List (Option TokenAnswer) → TokenCache σ → List TokenAnswer × TokenCache σ
  | [], c => ([], c)
  | some answer :: l, c =>
    let (answers, c) := completeAll now l c
    (answer :: answers, c)
  | none :: l, c =>
    let (answer, c) := c.complete now
    let (answers, c) := completeAll now l c
    (answer :: answers, c)

/-- `n` calls that start together. -/
def ensureAll (now : Instant) (n : Nat) (c : TokenCache σ) : List TokenAnswer × TokenCache σ :=
  let (answers, c) := c.enterAll now 0 n
  c.completeAll now answers

/-- The cache in diagnostic text. -/
def debug (c : TokenCache σ) : String :=
  Quoted.record "TokenCache"
    [("strategy", c.strategy.label), ("config", c.config.debug),
      ("token", Quoted.option (c.token.map Token.debug)), ("refreshes", toString c.refreshes)]

end TokenCache

end EntityHub
