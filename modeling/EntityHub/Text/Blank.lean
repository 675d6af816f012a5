/-!
# Blank text

The white space of Unicode, and texts that hold nothing else.
-/

namespace EntityHub

/-- Whether a character has the Unicode property `White_Space`. -/
def isWhiteSpace (c : Char) : Bool :=
  let n := c.toNat
  (0x9 ≤ n && n ≤ 0xD) || n = 0x20 || n = 0x85 || n = 0xA0 || n = 0x1680 ||
    (0x2000 ≤ n && n ≤ 0x200A) || n = 0x2028 || n = 0x2029 || n = 0x202F || n = 0x205F || n = 0x3000

/-- Whether a text has no character but white space. -/
def isBlank (s : String) : Bool := s.toList.all isWhiteSpace

/-- The text without the white space at its ends. -/
def trim (s : String) : String :=
  .ofList (((s.toList.dropWhile isWhiteSpace).reverse.dropWhile isWhiteSpace).reverse)

/-- The text without the slashes at its end. -/
def dropTrailingSlashes (s : String) : String :=
  .ofList ((s.toList.reverse.dropWhile (· = '/')).reverse)

end EntityHub
