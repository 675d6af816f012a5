import EntityHub.Json.Parser
/-!
# Reading typed data from JSON trees

A `Decoder` reads one type from a tree, of which it may open a given number of levels. A record is
read from an object, whose unknown members it passes over unread, or from an array that gives its
fields in order. `Slot` says what a tree gives for one field.
-/

namespace EntityHub.Json

/-- Reads an `α` from a tree, of which it may open the given number of levels. -/
abbrev Decoder (α : Type) := Nat → Raw → Option α

namespace Decoder

variable {α : Type}

/-- Reads a text. -/
def string : Decoder String
  | _, .string s => s
  | _, _ => none

/-- Reads a truth value. -/
def bool : Decoder Bool
  | _, .bool b => some b
  | _, _ => none

/-- Reads an integer without sign of 64 bits. A double is refused, whatever its value. -/
def uint64 : Decoder UInt64
  | _, .number (some (.integer n _)) => if 0 ≤ n then some (.ofNat n.toNat) else none
  | _, _ => none

/-- Reads a signed integer of 64 bits. A double is refused, whatever its value. -/
def int64 : Decoder Int64
  | _, .number (some (.integer n _)) => if n < 0x8000000000000000 then some (.ofInt n) else none
  | _, _ => none

/-- Reads any value. -/
def value : Decoder Value := Value.ofRaw?

/-- Reads `null` as nothing and all else as a value of the type. -/
def optional (d : Decoder α) : Decoder (Option α)
  | _, .null => some none
  | levels, r => (d levels r).map some

/-- Reads an array of values of one type. -/
def list (d : Decoder α) : Decoder (List α)
  | levels + 1, .array items => items.mapM (d levels)
  | _, _ => none

/-- Reads an object whose members are values of one type, as their list. -/
def entries (d : Decoder α) : Decoder (List (String × α))
  | levels + 1, .object members => members.mapM fun (k, r) => return (← k, ← d levels r)
  | _, _ => none

/-- Reads an object whose members are values of one type. Of members with one key the last one
counts. -/
def dict (d : Decoder α) : Decoder (Dict α) := fun levels r => (entries d levels r).map .ofList

end Decoder

/-! ## Records -/

/-- What a tree gives for one field of a record. -/
inductive Slot where
  | given (r : Raw)
  /-- The object has no member of that name. -/
  | omitted
  /-- The array ends before the field. -/
  | cut

namespace Slot

variable {α : Type}

/-- A field that must be there. -/
def required (d : Decoder α) (levels : Nat) : Slot → Option α
  | given r => d levels r
  | _ => none

/-- A field that is `x` when it is missing. -/
def defaulted (x : α) (d : Decoder α) (levels : Nat) : Slot → Option α
  | given r => d levels r
  | _ => some x

/-- The slot of the member `k`, which may stand only once. -/
def ofMembers? (members : List (Option String × Raw)) (k : String) : Option Slot :=
  match members.filter fun m => m.1 = some k with
  | [] => some .omitted
  | [(_, r)] => some (.given r)
  | _ => none

/-- The slots of the first `n` items of an array. -/
def ofItems : Nat → List Raw → List Slot
  | 0, _ => []
  | n + 1, [] => .cut :: ofItems n []
  | n + 1, r :: l => .given r :: ofItems n l

end Slot

/-- The slots of the fields of a record, with the levels that are left to read them. Every key of
the object must be text, also one that is no field. -/
def slots? (fields : List String) : Nat → Raw → Option (Nat × List Slot)
  | levels + 1, .object members => do
    guard (members.all fun m => m.1.isSome)
    return (levels, ← fields.mapM (Slot.ofMembers? members))
  | levels + 1, .array items => do
    guard (items.length ≤ fields.length)
    return (levels, Slot.ofItems fields.length items)
  | _, _ => none

variable {α : Type}

namespace Decoder

/-- What the decoder reads from a text. -/
def ofText? (d : Decoder α) (s : String) : Option α := Raw.ofText? s >>= d maxLevels

/-- What the decoder reads from octets. -/
def ofOctets? (d : Decoder α) (l : List UInt8) : Option α := Raw.ofOctets? l >>= d maxLevels

/-- What the decoder reads from a value. -/
def ofValue? (d : Decoder α) (v : Value) : Option α := d maxLevels v.toRaw

end Decoder

end EntityHub.Json
