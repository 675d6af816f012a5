import EntityHub.Auth.Authenticator
/-!
# Connections

What a client reaches outside itself: the other side, and the source of its tokens. The source is
either an authenticator, which asks the other side for a token, or one that the caller provides.
-/

namespace EntityHub

open Http (Peer)

/-- Where the tokens of a client come from. The caller's own source is a `τ`. -/
inductive ClientSource (τ : Type) where
  | own (source : τ)
  | authenticator (a : Authenticator)

/-- What a client reaches outside itself. -/
structure Connection (τ : Type) where
  source : ClientSource τ
  peer : Peer := {}
  /-- The number that the next assertion is identified by. -/
  nextId : Nat := 0

namespace Connection

variable {τ : Type} [TokenSource τ]

/-- The strategy of the source. -/
def strategy (c : Connection τ) : AuthStrategy :=
  match c.source with
  | .own s => TokenSource.strategy s
  | .authenticator a => a.config.strategy

/-- Starts a fetch from the source. -/
def fetch (now : Instant) (c : Connection τ) : Flight × Connection τ :=
  match c.source with
  | .own s =>
    let (flight, s) := TokenSource.fetch now s
    (flight, { c with source := .own s })
  | .authenticator a =>
    let (answer, peer) := (a.authenticate now c.nextId).run c.peer
    ({ suspensions := if a.waits then 1 else 0, answer }, { c with peer, nextId := c.nextId + 1 })

instance : TokenSource (Connection τ) where
  strategy := strategy
  fetch := fetch

end Connection

end EntityHub
