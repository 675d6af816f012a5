import EntityHub.Json.Value
import EntityHub.Text.Utf8
/-!
# Reading JSON text

`Raw.parse?` reads the tree of a JSON text. The text is a list of characters in which `none`
stands for an ill-formed part of the octets it came from; such a part may only stand in a string,
and makes that string a leaf that is no text.
-/

namespace EntityHub.Json

/-- Text that may have ill-formed parts. -/
abbrev Source := List (Option Char)

namespace Raw

/-! ## Blanks, digits and escapes -/

/-- Whether a character may stand between the tokens. -/
def isBlank (c : Char) : Bool := c = ' ' || c = '\n' || c = '\t' || c = '\r'

/-- The text after the blanks at its front. -/
def skipBlanks : Source → Source
  | some c :: s => if isBlank c then skipBlanks s else some c :: s
  | s => s

/-- The value of a decimal digit. -/
def digit? (c : Char) : Option Nat := if c.isDigit then some (c.toNat - '0'.toNat) else none

/-- The value of a hexadecimal digit. -/
def hexDigit? (c : Char) : Option Nat :=
  if c.isDigit then some (c.toNat - '0'.toNat)
  else if 'a' ≤ c ∧ c ≤ 'f' then some (c.toNat - 'a'.toNat + 10)
  else if 'A' ≤ c ∧ c ≤ 'F' then some (c.toNat - 'A'.toNat + 10)
  else none

/-- The digits at the front of a text and what follows them. -/
def digits : Source → List Nat × Source
  | some c :: s =>
    match digit? c with
    | some d => ((d :: (digits s).1), (digits s).2)
    | none => ([], some c :: s)
  | s => ([], s)

/-- The value of four hexadecimal digits. -/
def hex4? (a b c d : Char) : Option Nat := do
  return (((← hexDigit? a) * 16 + (← hexDigit? b)) * 16 + (← hexDigit? c)) * 16 + (← hexDigit? d)

/-! ## Strings -/

/-- One part of a string: a character, a 16-bit unit written as an escape, or an ill-formed
part. -/
inductive Piece where
  | char (c : Char)
  | unit (n : Nat)
  | illFormed

/-- The character that a one-letter escape stands for. -/
def escape? : Char → Option Char
  | '"' => some '"'
  | '\\' => some '\\'
  | '/' => some '/'
  | 'b' => some '\x08'
  | 'f' => some '\x0c'
  | 'n' => some '\n'
  | 'r' => some '\r'
  | 't' => some '\t'
  | _ => none

/-- The parts of a string up to its closing quote, and what follows that. Control characters and
unknown escapes are refused. -/
def pieces? : Source → Option (List Piece × Source)
  | some '"' :: s => some ([], s)
  | some '\\' :: some 'u' :: some a :: some b :: some c :: some d :: s => do
    let n ← hex4? a b c d
    let (l, s) ← pieces? s
    return (.unit n :: l, s)
  | some '\\' :: some c :: s => do
    let c ← escape? c
    let (l, s) ← pieces? s
    return (.char c :: l, s)
  | some '\\' :: _ => none
  | some c :: s => do
    guard (' ' ≤ c)
    let (l, s) ← pieces? s
    return (.char c :: l, s)
  | none :: s => do
    let (l, s) ← pieces? s
    return (.illFormed :: l, s)
  | [] => none

/-- The characters of the parts of a string. Two units that form a surrogate pair are one
character; a half that stands alone is none. -/
def characters? : List Piece → Option (List Char)
  | [] => some []
  | .char c :: l => (characters? l).map (c :: ·)
  | .illFormed :: _ => none
  | .unit n :: l =>
    if n < 0xD800 ∨ 0xDFFF < n then (characters? l).map (.ofNat n :: ·)
    else if n < 0xDC00 then
      match l with
      | .unit m :: l =>
        if 0xDC00 ≤ m ∧ m ≤ 0xDFFF then
          (characters? l).map (.ofNat (0x10000 + (n - 0xD800) * 0x400 + (m - 0xDC00)) :: ·)
        else none
      | _ => none
    else none

/-- The string after its opening quote, and what follows it. -/
def string? (s : Source) : Option (Option String × Source) := do
  let (l, s) ← pieces? s
  return ((characters? l).map .ofList, s)

/-! ## Numbers -/

/-- The exponent part at the front of a text, if there is one. -/
def exponent? : Source → Option (Option Int × Source)
  | some c :: s =>
    if c = 'e' ∨ c = 'E' then
      let (negative, s) : Bool × Source :=
        match s with
        | some '+' :: s => (false, s)
        | some '-' :: s => (true, s)
        | s => (false, s)
      match digits s with
      | ([], _) => none
      | (l, s) =>
        let n : Int := NumberText.value l
        some (some (if negative then -n else n), s)
    else some (none, some c :: s)
  | s => some (none, s)

/-- The digits after a decimal point at the front of a text, if there is one. -/
def fraction? : Source → Option (Option (List Nat) × Source)
  | some '.' :: s =>
    match digits s with
    | ([], _) => none
    | (l, s) => some (some l, s)
  | s => some (none, s)

/-- The number at the front of a text. Its whole part has no zero in front of other digits. -/
def number? (s : Source) : Option (Raw × Source) := do
  let (negative, s) : Bool × Source :=
    match s with
    | some '-' :: s => (true, s)
    | s => (false, s)
  match digits s with
  | ([], _) => none
  | (0 :: _ :: _, _) => none
  | (whole, s) =>
    let (fraction, s) ← fraction? s
    let (exponent, s) ← exponent? s
    let t : NumberText :=
      { negative, whole, fraction := fraction.getD [], exponent, point := fraction.isSome }
    return (.number t.number?, s)

/-! ## Trees -/

/-- The text after a word, if it begins with it. -/
def word? : List Char → Source → Option Source
  | [], s => some s
  | c :: w, some d :: s => if c = d then word? w s else none
  | _ :: _, _ => none

mutual

/-- The tree at the front of a text without blanks there. Each level, item and member takes one
step of `fuel`. -/
def value? : Nat → Source → Option (Raw × Source)
  | 0, _ => none
  | fuel + 1, s =>
    match s with
    | some 'n' :: _ => (word? ['n', 'u', 'l', 'l'] s).map (.null, ·)
    | some 't' :: _ => (word? ['t', 'r', 'u', 'e'] s).map (.bool true, ·)
    | some 'f' :: _ => (word? ['f', 'a', 'l', 's', 'e'] s).map (.bool false, ·)
    | some '"' :: s => (string? s).map fun (t, s) => (.string t, s)
    | some '[' :: s =>
      match skipBlanks s with
      | some ']' :: s => some (.array [], s)
      | s => (items? fuel s).map fun (l, s) => (.array l, s)
    | some '{' :: s =>
      match skipBlanks s with
      | some '}' :: s => some (.object [], s)
      | s => (members? fuel s).map fun (l, s) => (.object l, s)
    | s => number? s

/-- The items of an array up to its closing bracket, from the first item on. -/
def items? : Nat → Source → Option (List Raw × Source)
  | 0, _ => none
  | fuel + 1, s => do
    let (r, s) ← value? fuel s
    match skipBlanks s with
    | some ']' :: s => return ([r], s)
    | some ',' :: s =>
      let (l, s) ← items? fuel (skipBlanks s)
      return (r :: l, s)
    | _ => none

/-- The members of an object up to its closing brace, from the first key on. -/
def members? : Nat → Source → Option (List (Option String × Raw) × Source)
  | 0, _ => none
  | fuel + 1, s =>
    match s with
    | some '"' :: s => do
      let (k, s) ← string? s
      match skipBlanks s with
      | some ':' :: s =>
        let (r, s) ← value? fuel (skipBlanks s)
        match skipBlanks s with
        | some '}' :: s => return ([(k, r)], s)
        | some ',' :: s =>
          let (l, s) ← members? fuel (skipBlanks s)
          return ((k, r) :: l, s)
        | _ => none
      | _ => none
    | _ => none

end

/-- The tree of a text that is one JSON value and blanks around it. -/
def parse? (s : Source) : Option Raw := do
  let (r, s) ← value? (s.length + 1) (skipBlanks s)
  guard (skipBlanks s).isEmpty
  return r

/-- The tree of JSON octets. -/
def ofOctets? (l : List UInt8) : Option Raw := parse? (Utf8.scan l)

/-- The tree of a JSON text. -/
def ofText? (s : String) : Option Raw := parse? (s.toList.map some)

end Raw

end EntityHub.Json
