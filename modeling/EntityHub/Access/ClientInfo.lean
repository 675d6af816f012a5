import EntityHub.Codec.Base64
import EntityHub.Json.Decode
import EntityHub.Json.Printer
import EntityHub.Key.Public
/-!
# Registered clients

A client that is known to the hub. Its public key is a text in PEM, which travels in base64 once
more; no text at all stands for no key.
-/

namespace EntityHub

open Json (Value Decoder)

/-- A client that is known to the hub. -/
structure ClientInfo where
  clientId : String
  /-- The public key in PEM, of a client that signs assertions. -/
  publicKey : Option String := none
  /-- The client has been removed. -/
  deleted : Bool := false
deriving DecidableEq, Repr

namespace ClientInfo

/-- The key text that a text in base64 stands for. -/
def keyText? (encoded : String) : Option (Option String) :=
  if encoded = "" then some none
  else ((Base64.decode? encoded.toList).bind Utf8.decode?).map some

/-- A key text as it travels. -/
def encodeKey (text : String) : String := .ofList (Base64.encode (Utf8.encode text))

/-- Reads a key text. -/
def keyDecoder : Decoder (Option String) := fun levels r => do
  match ← Decoder.optional Decoder.string levels r with
  | some encoded => keyText? encoded
  | none => some none

/-- Reads a client. Only its identifier must be there. -/
def decoder : Decoder ClientInfo := fun levels r => do
  let (levels, slots) ← Json.slots? ["ClientId", "PublicKey", "Deleted"] levels r
  match slots with
  | [clientId, publicKey, deleted] =>
    return {
      clientId := ← clientId.required Decoder.string levels
      publicKey := ← publicKey.defaulted none keyDecoder levels
      deleted := ← deleted.defaulted false Decoder.bool levels }
  | _ => none

/-- Reads the clients of a hub by their identifiers. -/
def dictDecoder : Decoder (Dict ClientInfo) := Decoder.dict decoder

/-- The client as it is written. -/
def toValue (c : ClientInfo) : Value :=
  .object
    [("ClientId", .string c.clientId),
      ("PublicKey", match c.publicKey with
        | some text => .string (encodeKey text)
        | none => .null),
      ("Deleted", .bool c.deleted)]

/-- The public key of the client, read from its text. -/
def parsedPublicKey (c : ClientInfo) : Except Error (Option PublicKey) :=
  match c.publicKey with
  | none => .ok none
  | some text =>
    match PublicKey.ofPem? text with
    | .ok k => .ok (some k)
    | .error e => .error { problem := .clientKeyInvalid c.clientId, cause := some (.error e) }

end ClientInfo

end EntityHub
