import EntityHub.Auth.Assertion
import EntityHub.Auth.Config
import EntityHub.Auth.Discovery
import EntityHub.Token.Reply
import EntityHub.Token.Source
/-!
# Authenticators

An authenticator gets a token by the strategy of its settings. A secret is shown to the token
endpoint itself, or to the one that the provider names; a private key signs an assertion instead.
Whatever goes wrong on the way becomes one error that names the strategy and keeps the failure.
-/

namespace EntityHub

open Http (Agent Draft Peer)

/-- What gets tokens for a client of the hub at `serverUrl`. -/
structure Authenticator where
  agent : Agent := {}
  serverUrl : String
  config : AuthConfig
deriving DecidableEq

namespace Authenticator

/-- Where the hub gives out tokens. -/
def tokenPath : String := "/security/token"

/-- What an assertion is presented as. -/
def assertionType : String := "urn:ietf:params:oauth:grant-type:jwt-bearer"

/-- The name and value of the grant that is asked for. -/
def grant : String × String := ("grant_type", "client_credentials")

/-- The token endpoint of the authorizer that is configured, or else of the hub. -/
def tokenUrl (a : Authenticator) (configured : Option String) : String :=
  dropTrailingSlashes (configured.getD a.serverUrl) ++ tokenPath

/-- Asks a token endpoint for a token. -/
def requestToken (a : Authenticator) (url : String) (draft : Draft) :
    StateM Peer (Except AuthFailure TokenReply) := do
  match ← a.agent.sendTo url draft with
  | .error _ => return .error (.network url)
  | .ok reply =>
    if reply.status.isSuccess then
      match reply.body.bind TokenReply.decoder.ofOctets? with
      | some r => return .ok r
      | none => return .error (.invalidResponse url)
    else return .error (.grant url reply.status reply.text)

/-- A token for a client identifier and a secret. -/
def basic (a : Authenticator) (now : Instant) (s : BasicAuth) :
    StateM Peer (Except AuthFailure Token) := do
  let draft := { Draft.form [grant] with
    authorization := some (Http.basicCredentials s.clientId (some s.clientSecret)) }
  return (← a.requestToken (a.tokenUrl s.authorizerUrl) draft).map (·.toToken now)

/-- A token that the endpoint of a discovered provider grants. -/
def clientCredentials (a : Authenticator) (now : Instant) (s : ClientCredentialsAuth) :
    StateM Peer (Except AuthFailure Token) := do
  match ← discover a.agent s.authorizerUrl with
  | .error f => return .error f
  | .ok metadata =>
    let draft := { Draft.form [grant, ("audience", s.audience)] with
      authorization := some (Http.basicCredentials s.clientId (some s.clientSecret)) }
    return (← a.requestToken metadata.tokenEndpoint draft).map (·.toToken now)

/-- A token for a signed assertion with the identifier `id`. The lifetime that the endpoint tells is
not that of such a token. -/
def publicKeyJwt (a : Authenticator) (now : Instant) (id : Nat) (s : PublicKeyJwtAuth) :
    StateM Peer (Except AuthFailure Token) := do
  match (Claims.issuedAt s.clientId s.audience now (Uuid.text id)).sign? s.privateKey with
  | .error f => return .error f.toFailure
  | .ok assertion =>
    let draft := Draft.form
      [grant, ("client_assertion_type", assertionType), ("client_assertion", assertion)]
    return (← a.requestToken (a.tokenUrl s.authorizerUrl) draft).map
      fun r => { accessToken := r.accessToken }

/-- The failure of an exchange as an error. -/
def ofExchange (a : Authenticator) : Except AuthFailure Token → TokenAnswer
  | .ok t => .ok (some t)
  | .error f =>
    .error
      { problem := .authenticationFailed a.config.strategy
        strategy := some a.config.strategy
        cause := some (.failure f) }

/-- Gets a token. No settings need none; incomplete ones are refused before anything is sent. -/
def authenticate (a : Authenticator) (now : Instant) (id : Nat) : StateM Peer TokenAnswer := do
  match a.config.validate with
  | .error e => return .error e
  | .ok _ =>
    match a.config with
    | .none => return .ok none
    | .basic s => return a.ofExchange (← a.basic now s)
    | .clientCredentials s => return a.ofExchange (← a.clientCredentials now s)
    | .publicKeyJwt s => return a.ofExchange (← a.publicKeyJwt now id s)
    | .userFlow _ =>
      return .error { problem := .userFlowUnsupported, strategy := some a.config.strategy }

/-- Whether getting a token means waiting for a reply. -/
def waits (a : Authenticator) : Bool :=
  match a.config.validate, a.config with
  | .ok _, .basic _ | .ok _, .clientCredentials _ | .ok _, .publicKeyJwt _ => true
  | _, _ => false

/-- The authenticator in diagnostic text. -/
def debug (a : Authenticator) : String :=
  Quoted.openRecord "Authenticator"
    [("server_url", Quoted.text a.serverUrl), ("config", a.config.debug)]

end Authenticator

end EntityHub
