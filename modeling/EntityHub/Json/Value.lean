import EntityHub.Dict
import EntityHub.Json.Number
/-!
# JSON values

`Value` is data: every string is text and every number is held. `Raw` is the tree of a JSON text
before that: a string or a number that cannot be held is still a leaf, and members keep their
order and repetitions, since a reader may pass over them. `Value.ofRaw?` turns the one into the
other and puts the members of each object in ascending order of their keys.
-/

namespace EntityHub.Json

/-- A JSON value. -/
inductive Value where
  | null
  | bool (b : Bool)
  | number (n : Number)
  | string (s : String)
  | array (items : List Value)
  /-- An object, by the entries of a dictionary. -/
  | object (members : List (String × Value))

instance : Inhabited Value := ⟨.null⟩

/-- The tree of a JSON text. -/
inductive Raw where
  | null
  | bool (b : Bool)
  /-- A number, `none` if it is too large to be held. -/
  | number (n : Option Number)
  /-- A string, `none` if it is no text: ill-formed octets or half a surrogate pair. -/
  | string (s : Option String)
  | array (items : List Raw)
  /-- An object; a key is `none` if it is no text. -/
  | object (members : List (Option String × Raw))

/-- The levels of arrays and objects that may stand inside each other in what is read. -/
def maxLevels : Nat := 127

namespace Value

/-- The object of a dictionary. -/
def ofDict (d : Dict Value) : Value := .object d.entries

/-- The member of an object at `k`. -/
def get? (k : String) : Value → Option Value
  | .object members => members.lookup k
  | _ => none

/-- The text of a string. -/
def string? : Value → Option String
  | .string s => some s
  | _ => none

mutual

/-- The value of a tree of at most `levels` levels whose leaves can all be held. Of members with
one key the last one counts. -/
def ofRaw? (levels : Nat) : Raw → Option Value
  | .null => some .null
  | .bool b => some (.bool b)
  | .number n => n.map .number
  | .string s => s.map .string
  | .array items =>
    match levels with
    | 0 => none
    | levels + 1 => (ofRawItems? levels items).map .array
  | .object members =>
    match levels with
    | 0 => none
    | levels + 1 => (ofRawMembers? levels members).map fun l => ofDict (.ofList l)

/-- The values of the items of an array. -/
def ofRawItems? (levels : Nat) : List Raw → Option (List Value)
  | [] => some []
  | r :: l => do return (← ofRaw? levels r) :: (← ofRawItems? levels l)

/-- The entries that the members of an object give, in their order. -/
def ofRawMembers? (levels : Nat) : List (Option String × Raw) → Option (List (String × Value))
  | [] => some []
  | (k, r) :: l => do return (← k, ← ofRaw? levels r) :: (← ofRawMembers? levels l)

end

mutual

/-- The tree of a value. -/
def toRaw : Value → Raw
  | .null => .null
  | .bool b => .bool b
  | .number n => .number (some n)
  | .string s => .string (some s)
  | .array items => .array (toRawItems items)
  | .object members => .object (toRawMembers members)

/-- The trees of the items of an array. -/
def toRawItems : List Value → List Raw
  | [] => []
  | v :: l => v.toRaw :: toRawItems l

/-- The trees of the members of an object. -/
def toRawMembers : List (String × Value) → List (Option String × Raw)
  | [] => []
  | (k, v) :: l => (some k, v.toRaw) :: toRawMembers l

end

end Value

end EntityHub.Json
