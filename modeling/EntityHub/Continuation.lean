import EntityHub.Error.Basic
import EntityHub.Json.Decode
import EntityHub.Json.Printer
/-!
# Continuations

The cursor that the hub issues with a page. Its text is the hub's own and is never looked into.
-/

namespace EntityHub

open Json (Value Decoder)

/-- An opaque cursor. -/
@[ext] structure Continuation where
  value : String
deriving DecidableEq, Repr

namespace Continuation

/-- The cursor that a caller writes down. It may not be empty. -/
def ofText? (s : String) : Except Error Continuation :=
  if s.isEmpty then .error (.of .emptyContinuation) else .ok ⟨s⟩

/-- Whether the text is empty. -/
def isEmpty (c : Continuation) : Bool := c.value.isEmpty

/-- Reads a cursor. -/
def decoder : Decoder Continuation := fun levels r => do
  let (levels, slots) ← Json.slots? ["token"] levels r
  match slots with
  | [token] => return ⟨← token.required Decoder.string levels⟩
  | _ => none

/-- The cursor as it is written. -/
def toValue (c : Continuation) : Value := .object [("token", .string c.value)]

/-- The cursor in diagnostic text. -/
def debug (c : Continuation) : String := Quoted.record "Continuation" [("value", Quoted.text c.value)]

end Continuation

end EntityHub
