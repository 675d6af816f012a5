import EntityHub.Codec.Base64
/-!
# PEM

Octets in armour: a line that opens the block and names it, lines of base64 of 64 characters, the
last one shorter, and a line that closes it. Text may stand before the opening line, none after the
closing one. The lines may end in any of the three ways; writing ends them with a line feed.
-/

namespace EntityHub.Pem

/-- The characters of a full line. -/
def lineWidth : Nat := 64

/-- What every opening line begins with. -/
def opening : List Char := "-----BEGIN ".toList

/-- What ends the opening line, after the name of the block. -/
def dashes : List Char := "-----".toList

/-- The closing line. -/
def closing (label : String) : List Char := ("-----END " ++ label ++ "-----").toList

/-! ## Parts of a text -/

/-- What follows the end of line at the front. -/
def afterEol? : List Char → Option (List Char)
  | '\r' :: '\n' :: l => some l
  | '\n' :: l => some l
  | '\r' :: l => some l
  | _ => none

/-- What stands before the end of line at the end. -/
def beforeEol? (l : List Char) : Option (List Char) :=
  match l.reverse with
  | '\n' :: '\r' :: r => some r.reverse
  | '\n' :: r => some r.reverse
  | '\r' :: r => some r.reverse
  | _ => none

/-- What follows `start`. -/
def after? (start l : List Char) : Option (List Char) :=
  if start.isPrefixOf l then some (l.drop start.length) else none

/-- What stands before `stop`. -/
def before? (stop l : List Char) : Option (List Char) :=
  if stop.isSuffixOf l then some (l.take (l.length - stop.length)) else none

/-- The text from the first opening line on that stands at the start of a line. -/
def block? : List Char → Option (List Char)
  | [] => none
  | c :: l =>
    if c = '\x00' then none
    else if c = '\n' && opening.isPrefixOf l then some l
    else block? l

/-- An end of line takes at least one character. -/
theorem length_lt_of_afterEol? {l rest : List Char} (h : afterEol? l = some rest) :
    rest.length < l.length := by
  unfold afterEol? at h
  split at h <;> grind

/-- The characters of lines, all full but the last. -/
def unwrap? (l : List Char) : Option (List Char) :=
  if lineWidth < l.length then
    match h : afterEol? (l.drop lineWidth) with
    | some rest =>
      have : rest.length < l.length :=
        Nat.lt_of_lt_of_le (length_lt_of_afterEol? h) (by simp)
      (unwrap? rest).map (l.take lineWidth ++ ·)
    | none => none
  else some ((beforeEol? l).getD l)
termination_by l.length

/-- Lines of characters, all full but the last, with a line feed after each. -/
def wrap (l : List Char) : List Char :=
  if lineWidth < l.length then l.take lineWidth ++ '\n' :: wrap (l.drop lineWidth)
  else l ++ ['\n']
termination_by l.length
decreasing_by simp [lineWidth] at *; omega

/-! ## Blocks -/

/-- The octets of the block with a name. -/
def decode? (label text : String) : Option (List UInt8) := do
  let l := text.toList
  let l ← if opening.isPrefixOf l then some l else block? l
  let l ← after? (opening ++ label.toList ++ dashes) l
  let l ← afterEol? l
  let l ← before? (closing label) ((beforeEol? l).getD l)
  let l ← beforeEol? l
  if l.isEmpty then none else (unwrap? l).bind Base64.decode?

/-- Octets as a block with a name. -/
def encode (label : String) (l : List UInt8) : String :=
  .ofList (opening ++ label.toList ++ dashes ++ '\n' :: wrap (Base64.encode l) ++ closing label ++ ['\n'])

end EntityHub.Pem
