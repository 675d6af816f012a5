import EntityHub.Key.Private
import EntityHub.Text.Blank
/-!
# Authentication settings

What a client needs for each strategy. Settings are complete if none of the fields that the
strategy needs is blank. Secrets and private keys do not show in diagnostic text.
-/

namespace EntityHub

/-- The settings to authenticate with a client identifier and a secret. -/
structure BasicAuth where
  clientId : String
  clientSecret : String
  /-- The token service, if it is not the hub itself. -/
  authorizerUrl : Option String := none
deriving DecidableEq

/-- The settings to have a token granted by an identity provider that is discovered. -/
structure ClientCredentialsAuth where
  authorizerUrl : String
  audience : String
  clientId : String
  clientSecret : String
deriving DecidableEq

/-- The settings to authenticate with an assertion that is signed. -/
structure PublicKeyJwtAuth where
  clientId : String
  audience : String := "datahub-client-sdk"
  privateKey : PrivateKey
  /-- The token service, if it is not the hub itself. -/
  authorizerUrl : Option String := none
deriving DecidableEq

/-- The settings to have a user log in. -/
structure UserFlowAuth where
  authorizerUrl : String
  audience : String
deriving DecidableEq

/-- How a client authenticates, with all that it needs for it. -/
inductive AuthConfig where
  | none
  | basic (settings : BasicAuth)
  | clientCredentials (settings : ClientCredentialsAuth)
  | publicKeyJwt (settings : PublicKeyJwtAuth)
  | userFlow (settings : UserFlowAuth)
deriving DecidableEq

namespace AuthConfig

/-- The strategy that the settings are for. -/
def strategy : AuthConfig → AuthStrategy
  | none => .none
  | basic _ => .basic
  | clientCredentials _ => .clientCredentials
  | publicKeyJwt _ => .publicKeyJwt
  | userFlow _ => .userFlow

/-- The fields that the strategy needs, with their values. -/
def neededFields : AuthConfig → List (String × String)
  | none => []
  | basic s => [("client_id", s.clientId), ("client_secret", s.clientSecret)]
  | clientCredentials s =>
    [("authorizer_url", s.authorizerUrl), ("audience", s.audience), ("client_id", s.clientId),
      ("client_secret", s.clientSecret)]
  | publicKeyJwt s => [("client_id", s.clientId), ("audience", s.audience)]
  | userFlow s => [("authorizer_url", s.authorizerUrl), ("audience", s.audience)]

/-- The names of the needed fields that are blank. -/
def missingFields (c : AuthConfig) : List String :=
  (c.neededFields.filter fun f => isBlank f.2).map Prod.fst

/-- Refuses settings that are not complete. -/
def validate (c : AuthConfig) : Except Error Unit :=
  if c.missingFields.isEmpty then .ok ()
  else
    .error
      { problem := .missingFields c.strategy c.missingFields, strategy := some c.strategy }

/-- Settings are refused exactly if a needed field is blank. -/
theorem validate_eq_ok_iff (c : AuthConfig) :
    c.validate = .ok () ↔ ∀ f ∈ c.neededFields, isBlank f.2 = false := by
  unfold validate missingFields
  split <;> rename_i h
  · simpa using h
  · simpa using h

/-- The settings in diagnostic text. -/
def debug : AuthConfig → String
  | none => "None"
  | basic s =>
    wrapped "Basic" "BasicAuth"
      [("client_id", Quoted.text s.clientId), ("client_secret", Quoted.redacted),
        ("authorizer_url", Quoted.option (s.authorizerUrl.map Quoted.text))]
  | clientCredentials s =>
    wrapped "ClientCredentials" "ClientCredentialsAuth"
      [("authorizer_url", Quoted.text s.authorizerUrl), ("audience", Quoted.text s.audience),
        ("client_id", Quoted.text s.clientId), ("client_secret", Quoted.redacted)]
  | publicKeyJwt s =>
    wrapped "PublicKeyJwt" "PublicKeyJwtAuth"
      [("client_id", Quoted.text s.clientId), ("audience", Quoted.text s.audience),
        ("private_key", Quoted.redacted),
        ("authorizer_url", Quoted.option (s.authorizerUrl.map Quoted.text))]
  | userFlow s =>
    wrapped "UserFlow" "UserFlowAuth"
      [("authorizer_url", Quoted.text s.authorizerUrl), ("audience", Quoted.text s.audience)]
where
  /-- A record under the name of its variant. -/
  wrapped (variant name : String) (fields : List (String × String)) : String :=
    variant ++ "(" ++ Quoted.record name fields ++ ")"

end AuthConfig

end EntityHub
