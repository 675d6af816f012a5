import EntityHub.Json.Decode
import EntityHub.Token.Basic
/-!
# Token replies

What a token endpoint answers: a token and, if it says so, how long the token lives.
-/

namespace EntityHub

open Json (Decoder)

/-- The answer of a token endpoint. -/
structure TokenReply where
  accessToken : String
  tokenType : Option String := none
  /-- The lifetime in seconds. -/
  expiresIn : Option Int64 := none
deriving DecidableEq

namespace TokenReply

/-- Reads a reply. Only the token must be there. -/
def decoder : Decoder TokenReply := fun levels r => do
  let (levels, slots) ← Json.slots? ["access_token", "token_type", "expires_in"] levels r
  match slots with
  | [accessToken, tokenType, expiresIn] =>
    return {
      accessToken := ← accessToken.required Decoder.string levels
      tokenType := ← tokenType.defaulted none (Decoder.optional Decoder.string) levels
      expiresIn := ← expiresIn.defaulted none (Decoder.optional Decoder.int64) levels }
  | _ => none

/-- The token that a reply received at `now` gives. -/
def toToken (r : TokenReply) (now : Instant) : Token :=
  let token : Token := { accessToken := r.accessToken }
  match r.expiresIn with
  | some seconds => token.expiringIn seconds.toInt now
  | none => token

/-- The reply in diagnostic text. -/
def debug (r : TokenReply) : String :=
  Quoted.record "TokenResponse"
    [("access_token", Quoted.redacted),
      ("token_type", Quoted.option (r.tokenType.map Quoted.text)),
      ("expires_in", Quoted.option (r.expiresIn.map fun n => toString n.toInt))]

end TokenReply

end EntityHub
