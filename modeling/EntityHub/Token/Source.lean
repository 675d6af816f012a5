import EntityHub.Error.Basic
import EntityHub.Token.Basic
/-!
# Token sources

A token source answers a fetch with a token, with no token or with an error. What it will answer
is settled when the fetch starts; a `Flight` is a fetch on its way, which has to be resumed as
often as it is suspended before it delivers. The state of a source is the type itself, so a source
may count, follow a script, or hold a whole network.
-/

namespace EntityHub

/-- What a fetch or a call for a token comes to. -/
abbrev TokenAnswer := Except Error (Option Token)

/-- A fetch on its way. -/
structure Flight where
  /-- How often the fetch is still suspended. -/
  suspensions : Nat := 0
  answer : TokenAnswer

/-- Sources of tokens whose state is a `σ`. -/
class TokenSource (σ : Type) where
  /-- The strategy by which the source authenticates. -/
  strategy : σ → AuthStrategy
  /-- Starts a fetch. -/
  fetch : Instant → σ → Flight × σ

/-- A source that always gives the same token. -/
structure StaticSource where
  token : Token
deriving DecidableEq

instance : TokenSource StaticSource where
  strategy _ := .none
  fetch _ s := ({ answer := .ok (some s.token) }, s)

/-- The source in diagnostic text. -/
def StaticSource.debug (s : StaticSource) : String :=
  Quoted.record "StaticTokenSource" [("token", s.token.debug)]

/-- A source whose fetches are laid down in advance. After the last of them there is no token. -/
structure ScriptedSource where
  /-- The number of fetches started. -/
  calls : Nat := 0
  ofStrategy : AuthStrategy := .none
  outcomes : List Flight := []

instance : TokenSource ScriptedSource where
  strategy s := s.ofStrategy
  fetch _ s :=
    (s.outcomes.headD { answer := .ok none },
      { s with calls := s.calls + 1, outcomes := s.outcomes.tail })

/-- A source that numbers its tokens and counts its fetches, or always fails. -/
structure CountingSource where
  /-- The number of fetches started. -/
  calls : Nat := 0
  ofStrategy : AuthStrategy := .none
  /-- How long each token lives; without it a token has no expiry. -/
  lifetime : Option Span := none
  /-- A fetch is suspended once. -/
  delayed : Bool := false
  /-- What every fetch fails with. -/
  failure : Option String := none

namespace CountingSource

/-- The answer to the fetch with number `n`. -/
def answer (s : CountingSource) (n : Nat) (now : Instant) : TokenAnswer :=
  match s.failure with
  | some message =>
    .error { problem := .reported .authentication message, strategy := some s.ofStrategy }
  | none =>
    let expiry := s.lifetime.map fun d => (now.add? d).getD .last
    .ok (some { accessToken := "token-" ++ toString n, expiry })

instance : TokenSource CountingSource where
  strategy s := s.ofStrategy
  fetch now s :=
    ({ suspensions := if s.delayed then 1 else 0, answer := s.answer s.calls now },
      { s with calls := s.calls + 1 })

/-- The source in diagnostic text. -/
def debug (s : CountingSource) : String :=
  Quoted.openRecord "MockTokenSource"
    [("strategy", s.ofStrategy.label), ("calls", toString s.calls)]

end CountingSource

end EntityHub
