import EntityHub.Json.Value
/-!
# Writing JSON text

The compact text of a value: no blanks, members in their order. In strings only the quote, the
backslash and the control characters below U+0020 are escaped, the latter by a letter where JSON
has one and by four hexadecimal digits otherwise.
-/

namespace EntityHub.Json

/-- A lower-case hexadecimal digit. -/
def hexChar (n : Nat) : Char := if n < 10 then .ofNat ('0'.toNat + n) else .ofNat ('a'.toNat + (n - 10))

/-- A character as it is written in a string. -/
def escapeChar (c : Char) : List Char :=
  if c = '"' then ['\\', '"']
  else if c = '\\' then ['\\', '\\']
  else if c = '\x08' then ['\\', 'b']
  else if c = '\x0c' then ['\\', 'f']
  else if c = '\n' then ['\\', 'n']
  else if c = '\r' then ['\\', 'r']
  else if c = '\t' then ['\\', 't']
  else if c < ' ' then ['\\', 'u', '0', '0', hexChar (c.toNat / 16), hexChar (c.toNat % 16)]
  else [c]

/-- A string in quotes. -/
def quoted (s : String) : List Char := '"' :: s.toList.flatMap escapeChar ++ ['"']

namespace Value

mutual

/-- The characters of a value. -/
def chars : Value → List Char
  | .null => ['n', 'u', 'l', 'l']
  | .bool true => ['t', 'r', 'u', 'e']
  | .bool false => ['f', 'a', 'l', 's', 'e']
  | .number n => n.text.toList
  | .string s => quoted s
  | .array [] => ['[', ']']
  | .array (v :: l) => '[' :: v.chars ++ moreItems l ++ [']']
  | .object [] => ['{', '}']
  | .object ((k, v) :: l) => '{' :: quoted k ++ ':' :: v.chars ++ moreMembers l ++ ['}']

/-- The items after the first. -/
def moreItems : List Value → List Char
  | [] => []
  | v :: l => ',' :: v.chars ++ moreItems l

/-- The members after the first. -/
def moreMembers : List (String × Value) → List Char
  | [] => []
  | (k, v) :: l => ',' :: quoted k ++ ':' :: v.chars ++ moreMembers l

end

/-- The text of a value. -/
def text (v : Value) : String := .ofList v.chars

/-- The integer that a 64-bit natural is written as. -/
def ofUInt64 (n : UInt64) : Value :=
  .number (.integer n.toNat ⟨by omega, by have := n.toNat_lt; omega⟩)

/-- The integer that a signed 64-bit number is written as. -/
def ofInt64 (n : Int64) : Value :=
  .number (.integer n.toInt ⟨by have := n.le_toInt; omega, by have := n.toInt_lt; omega⟩)

end Value

end EntityHub.Json
