import EntityHub.Url.Percent
/-!
# Forms

Pairs of names and values as one text, in the form in which queries and bodies carry them.
-/

namespace EntityHub.Form

/-- A name or a value. -/
def part (s : String) : List Char :=
  s.toList.flatMap fun c => if c = ' ' then ['+'] else Percent.encodeChar Percent.formSet c

/-- A pair. -/
def pair (p : String × String) : List Char := part p.1 ++ '=' :: part p.2

/-- The pairs of a form. -/
def encode (l : List (String × String)) : String := .ofList (['&'].intercalate (l.map pair))

end EntityHub.Form
