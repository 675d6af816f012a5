import EntityHub.Json.Decode
import EntityHub.Text.Blank
import EntityHub.Text.Quoted
/-!
# Provider metadata

What an identity provider publishes about itself, and where it does.
-/

namespace EntityHub

open Json (Decoder)

/-- The published metadata of an identity provider. -/
structure ProviderMetadata where
  issuer : Option String := none
  tokenEndpoint : String
  jwksUri : Option String := none
deriving DecidableEq

namespace ProviderMetadata

/-- Where a provider publishes its metadata. -/
def wellKnownPath : String := "/.well-known/openid-configuration"

/-- The URL of the metadata of the provider at `authorizer`. -/
def url (authorizer : String) : String := dropTrailingSlashes authorizer ++ wellKnownPath

/-- Reads metadata. Only the token endpoint must be there. -/
def decoder : Decoder ProviderMetadata := fun levels r => do
  let (levels, slots) ← Json.slots? ["issuer", "token_endpoint", "jwks_uri"] levels r
  match slots with
  | [issuer, tokenEndpoint, jwksUri] =>
    return {
      issuer := ← issuer.defaulted none (Decoder.optional Decoder.string) levels
      tokenEndpoint := ← tokenEndpoint.required Decoder.string levels
      jwksUri := ← jwksUri.defaulted none (Decoder.optional Decoder.string) levels }
  | _ => none

/-- The metadata in diagnostic text. -/
def debug (m : ProviderMetadata) : String :=
  Quoted.record "ProviderMetadata"
    [("issuer", Quoted.option (m.issuer.map Quoted.text)),
      ("token_endpoint", Quoted.text m.tokenEndpoint),
      ("jwks_uri", Quoted.option (m.jwksUri.map Quoted.text))]

end ProviderMetadata

end EntityHub
