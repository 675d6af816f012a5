import EntityHub.Json.Decode
import EntityHub.Json.Printer
/-!
# Access rules

A rule lets a client act on the resources that a pattern names, or keeps it from doing so.
-/

namespace EntityHub

open Json (Value Decoder)

/-- A rule on what a client may do. -/
structure AccessRule where
  resource : String
  action : String
  deny : Bool := false
deriving DecidableEq, Repr

namespace AccessRule

/-- Reads a rule. It allows unless it says otherwise. -/
def decoder : Decoder AccessRule := fun levels r => do
  let (levels, slots) ← Json.slots? ["Resource", "Action", "Deny"] levels r
  match slots with
  | [resource, action, deny] =>
    return {
      resource := ← resource.required Decoder.string levels
      action := ← action.required Decoder.string levels
      deny := ← deny.defaulted false Decoder.bool levels }
  | _ => none

/-- The rule as it is written. -/
def toValue (r : AccessRule) : Value :=
  .object [("Resource", .string r.resource), ("Action", .string r.action), ("Deny", .bool r.deny)]

/-- Reads the rules of a client. -/
def listDecoder : Decoder (List AccessRule) := Decoder.list decoder

/-- The rules of a client as they are written. -/
def listToValue (l : List AccessRule) : Value := .array (l.map toValue)

end AccessRule

end EntityHub
