import EntityHub.Client.Basic
/-!
# Options of a client

What a client is made with besides the address of the hub. The settings for a strategy and a source
of the caller's own exclude each other: the later choice of settings drops the source, while a source
takes precedence over settings.
-/

namespace EntityHub

open Http (Agent Peer Platform)

/-- The options of a client. -/
structure ClientOptions (τ : Type) where
  auth : AuthConfig := .none
  source : Option τ := none
  /-- A token to begin with. -/
  token : Option Token := none
  tokenConfig : TokenConfig := {}
  httpConfig : Http.Config := {}

namespace ClientOptions

variable {τ : Type}

/-- The options with other settings, in place of those and of the source from before. -/
def withAuth (o : ClientOptions τ) (auth : AuthConfig) : ClientOptions τ :=
  { o with auth, source := none }

/-- The options with another time limit. -/
def withTimeout (o : ClientOptions τ) (timeout : Duration) : ClientOptions τ :=
  { o with httpConfig.timeout := timeout }

/-- The options with another name of the application. -/
def withUserAgent (o : ClientOptions τ) (application : String) : ClientOptions τ :=
  { o with httpConfig.userAgent := some application }

/-- The address that a text gives. It must be one of HTTP. -/
def serverUrl? (text : String) : Except Error Url :=
  if isBlank text then .error (.of .serverUrlRequired)
  else
    match Url.ofText? text with
    | .error f => .error (.ofFault .serverUrlInvalid (.url f))
    | .ok u =>
      if u.scheme = "http" || u.scheme = "https" then .ok u
      else .error (.of (.serverUrlScheme u.scheme))

/-- The client of the hub at an address. Nothing is sent yet. -/
def build (o : ClientOptions τ) (platform : Platform) (peer : Peer) (address : String) :
    Except Error (Client τ) := do
  let url ← serverUrl? address
  let agent ← Agent.ofConfig? platform o.httpConfig
  let source : ClientSource τ :=
    match o.source with
    | some s => .own s
    | none =>
      .authenticator { agent, serverUrl := dropTrailingSlashes url.text, config := o.auth }
  return {
    url, agent
    tokens := { config := o.tokenConfig, source := { source, peer }, token := o.token } }

end ClientOptions

end EntityHub
