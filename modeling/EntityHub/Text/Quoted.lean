import EntityHub.Text.Printable
/-!
# Quoted diagnostic text

How texts, options, lists and records are written for diagnosis: a text between quotes with
escapes, `Some(x)` and `None`, `[a, b]`, and `Name { field: x, other: y }`, which ends in `, .. }`
when the record has fields that are not shown.
-/

namespace EntityHub.Quoted

/-- The lower-case hexadecimal digits of a number. -/
def hex (n : Nat) : String := .ofList (Nat.toDigits 16 n)

/-- A character as it is written between quotes. -/
def escapeChar (c : Char) : String :=
  match c with
  | '"' => "\\\""
  | '\\' => "\\\\"
  | '\n' => "\\n"
  | '\r' => "\\r"
  | '\t' => "\\t"
  | '\x00' => "\\0"
  | c => if Printable.isPrintable c then .singleton c else "\\u\x7b" ++ hex c.toNat ++ "\x7d"

/-- A text between quotes. -/
def text (s : String) : String := "\"" ++ .join (s.toList.map escapeChar) ++ "\""

/-- An optional value. -/
def option : Option String → String
  | none => "None"
  | some s => "Some(" ++ s ++ ")"

/-- A list of values. -/
def list (l : List String) : String := "[" ++ ", ".intercalate l ++ "]"

/-- The truth values. -/
def bool (b : Bool) : String := if b then "true" else "false"

/-- A record with all its fields. -/
def record (name : String) (fields : List (String × String)) : String :=
  name ++ " \x7b " ++ ", ".intercalate (fields.map fun f => f.1 ++ ": " ++ f.2) ++ " \x7d"

/-- A record of which only some fields are shown. -/
def openRecord (name : String) (fields : List (String × String)) : String :=
  name ++ " \x7b " ++ .join (fields.map fun f => f.1 ++ ": " ++ f.2 ++ ", ") ++ ".. \x7d"

/-- What stands for a value that must not be shown. -/
def redacted : String := text "[REDACTED]"

end EntityHub.Quoted
