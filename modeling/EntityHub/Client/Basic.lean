import EntityHub.Client.Connection
import EntityHub.Json.Decode
import EntityHub.Json.Printer
import EntityHub.Token.Cache
/-!
# Clients

A client of the hub: the address of the hub, an agent, and a cache that renews its token over the
connection. Every request is made in the same way: its URL is built, then a token is seen to, then
it is sent, and what is heard of it decides what comes of it.
-/

namespace EntityHub

open Http (Agent Draft Peer Reply)
open Json (Decoder Value)

/-- A client of the hub. The caller's own source of tokens, if there is one, is a `τ`. -/
structure Client (τ : Type) where
  /-- The address of the hub. -/
  url : Url
  agent : Agent
  tokens : TokenCache (Connection τ)

/-- What is done with a client and may fail. -/
abbrev ClientAction (τ α : Type) := ExceptT Error (StateM (Client τ)) α

namespace Client

variable {τ : Type}

/-- The other side. -/
def peer (c : Client τ) : Peer := c.tokens.source.peer

/-- The client with the other side changed. -/
def withPeer (c : Client τ) (peer : Peer) : Client τ :=
  { c with tokens.source.peer := peer }

/-- The client with another token. -/
def setToken (t : Token) (c : Client τ) : Client τ := { c with tokens := c.tokens.set t }

/-- The client without a token. -/
def invalidateToken (c : Client τ) : Client τ := { c with tokens := c.tokens.invalidate }

/-- The URL of a path below the address of the hub. -/
def requestUrl (c : Client τ) (path : String) : Except Error Url :=
  match Url.ofText? (dropTrailingSlashes c.url.text ++ path) with
  | .ok u => .ok u
  | .error f => .error (.ofFault (.requestPathInvalid path) (.url f))

variable [TokenSource τ]

/-- The strategy by which the client authenticates. -/
def strategy (c : Client τ) : AuthStrategy := c.tokens.strategy

/-- The client in diagnostic text. -/
def debug (c : Client τ) : String :=
  Quoted.openRecord "Client" [("url", Quoted.text c.url.text), ("strategy", c.strategy.label)]

/-! ## Requests -/

/-- Sees to a token. -/
def authenticate (now : Instant) : ClientAction τ (Option Token) := do
  let c ← get
  let (answer, tokens) := c.tokens.ensure now
  set { c with tokens }
  MonadExcept.ofExcept answer

/-- Sees to a token and gives the header that shows it. -/
def authorize (now : Instant) : ClientAction τ (Option String) := do
  match ← authenticate now with
  | none => return none
  | some t =>
    let value := Http.bearerCredentials t.accessToken
    if Http.isHeaderValue value then return some value
    else
      throw
        { problem := .accessTokenFormat
          strategy := some (← get).strategy
          cause := some (.fault .headerValue) }

/-- Sends a draft over the connection. -/
def transmit (u : Url) (draft : Draft) : ClientAction τ (Except Fault Reply) := do
  let c ← get
  let (r, peer) := (c.agent.send u draft).run c.peer
  set (c.withPeer peer)
  return r

/-- The body of a successful reply. -/
def bodyOf (purpose : Purpose) : Except Fault Reply → Except Error (List UInt8)
  | .error f => .error (.ofFault (.requestFailed purpose) f)
  | .ok reply =>
    if reply.status.isSuccess then
      match reply.body with
      | some body => .ok body
      | none => .error (.ofFault (.requestFailed purpose) .body)
    else .error { problem := .requestFailed purpose, status := some reply.status.code }

/-- Sees to a token, sends a draft and gives the body of the reply. -/
def send (now : Instant) (purpose : Purpose) (u : Url) (draft : Draft) :
    ClientAction τ (List UInt8) := do
  let authorization ← authorize now
  let r ← transmit u
    { draft with authorization, contentType := some Http.jsonType, accept := Http.jsonType }
  MonadExcept.ofExcept (bodyOf purpose r)

/-- Gets what stands at a path. -/
def getBody (now : Instant) (purpose : Purpose) (path : String) (pairs : List (String × String)) :
    ClientAction τ (List UInt8) := do
  let u ← MonadExcept.ofExcept ((← get).requestUrl path)
  send now purpose u { method := .get, pairs := some pairs }

/-- Posts a value in JSON to a path. -/
def postValue (now : Instant) (purpose : Purpose) (path : String) (v : Value) :
    ClientAction τ (List UInt8) := do
  let u ← MonadExcept.ofExcept ((← get).requestUrl path)
  send now purpose u { method := .post, body := Utf8.encode v.text }

/-- Gets what stands at a path in JSON. -/
def getDecoded {α : Type} (now : Instant) (purpose : Purpose) (path : String) (d : Decoder α) :
    ClientAction τ α := do
  match d.ofOctets? (← getBody now purpose path []) with
  | some a => return a
  | none => throw (.ofFault (.responseUnreadable purpose) .json)

end Client

end EntityHub
