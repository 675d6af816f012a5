import EntityHub.Json.Decode
import EntityHub.Json.Printer
import EntityHub.Time.Instant
/-!
# Claims of a client assertion

What a client asserts when it signs its own request for a token: who it is, to whom it speaks, an
identifier of the assertion and the second at which it lapses.
-/

namespace EntityHub

open Json (Value Decoder)

/-- The claims of an assertion. -/
@[ext] structure Claims where
  /-- The identifier of the assertion. -/
  jti : String
  subject : String
  audience : String
  /-- When the assertion lapses, in seconds from the start of 1970. -/
  expires : Int64
deriving DecidableEq

namespace Claims

/-- How long an assertion holds, in seconds. -/
def lifetime : Int := 60

/-- The claims of an assertion made at `now`. Every instant is far from the bounds of 64 bits. -/
def issuedAt (subject audience : String) (now : Instant) (jti : String) : Claims where
  jti := jti
  subject := subject
  audience := audience
  expires := .ofInt (now.seconds + lifetime)

/-- Reads claims. All of them must be there. -/
def decoder : Decoder Claims := fun levels r => do
  let (levels, slots) ← Json.slots? ["jti", "sub", "aud", "exp"] levels r
  match slots with
  | [jti, subject, audience, expires] =>
    return {
      jti := ← jti.required Decoder.string levels
      subject := ← subject.required Decoder.string levels
      audience := ← audience.required Decoder.string levels
      expires := ← expires.required Decoder.int64 levels }
  | _ => none

/-- The claims as they are written. -/
def toValue (c : Claims) : Value :=
  .object [("jti", .string c.jti), ("sub", .string c.subject), ("aud", .string c.audience),
    ("exp", .ofInt64 c.expires)]

end Claims

end EntityHub
