import EntityHub.Auth.Claims
import EntityHub.Codec.Base64
import EntityHub.Key.Signature
import EntityHub.Text.Split
import EntityHub.Text.Uuid
/-!
# Client assertions

Claims that a client has signed with its private key, as three texts joined by dots: a header and
the claims, both in JSON, and the signature over these two. Each is in base64 for URLs.
-/

namespace EntityHub

open Json (Value)

/-- An error that kept an assertion from being signed. -/
structure AssertionFault where
  problem : Problem
  fault : Fault
deriving DecidableEq

namespace AssertionFault

/-- The fault as an error of its own. -/
def toError (f : AssertionFault) : Error := .ofFault f.problem f.fault

/-- The fault as what kept a client from authenticating. -/
def toFailure (f : AssertionFault) : AuthFailure := .assertion f.problem f.fault

end AssertionFault

namespace Claims

/-- What the header says: the kind of text and the algorithm. -/
def header : Value := .object [("typ", .string "JWT"), ("alg", .string "RS256")]

/-- A JSON text in base64 for URLs. -/
def segment (v : Value) : List Char := Base64.encodeUrl (Utf8.encode v.text)

/-- The text that is signed. -/
def signedPart (c : Claims) : List Char := segment header ++ '.' :: segment c.toValue

/-- The claims signed with a key. A key that cannot be written cannot sign. -/
def sign? (c : Claims) (k : PrivateKey) : Except AssertionFault String :=
  if k.bareDer?.isNone then .error ⟨.privateKeyNotExportable, .key⟩
  else
    match k.sign? (c.signedPart.flatMap Utf8.encodeChar) with
    | some signature => .ok (.ofList (c.signedPart ++ '.' :: Base64.encodeUrl signature))
    | none => .error ⟨.assertionUnsigned, .signature⟩

/-- The texts of header and claims and the octets of the signature in a signed text. -/
def parts? (signed : String) : Option (String × String × List UInt8) :=
  match pieces (· = '.') signed.toList with
  | [header, claims, signature] => do
    return (← (Base64.decodeUrl? header).bind Utf8.decode?,
      ← (Base64.decodeUrl? claims).bind Utf8.decode?, ← Base64.decodeUrl? signature)
  | _ => none

/-- Whether a signed text bears the signature of the private half of a key. -/
def isSignedBy (signed : String) (k : PublicKey) : Bool :=
  match (parts? signed), (pieces (· = '.') signed.toList) with
  | some (_, _, signature), [header, claims, _] =>
    k.verifies ((header ++ '.' :: claims).flatMap Utf8.encodeChar) signature
  | _, _ => false

end Claims

end EntityHub
