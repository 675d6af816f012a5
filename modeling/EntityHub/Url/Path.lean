import EntityHub.Text.Split
import EntityHub.Url.Percent
/-!
# Paths

The path of a URL is a list of segments, or a text that only its scheme understands. A segment of
two dots takes back the one before it unless that is a drive, a segment of one dot stands for
nothing; either may be written with its dots encoded. Tabs and line ends in a text do not count.
-/

namespace EntityHub.Url

/-- Whether a character is a tab or ends a line. -/
def isBreak (c : Char) : Bool := Percent.among "\t\n\r" c

/-- The characters of a text that count. -/
def visible (l : List Char) : List Char := l.filter fun c => !isBreak c

/-- A path. -/
inductive Path where
  | custom (text : String)
  | segments (l : List String)
deriving DecidableEq, Repr

namespace Path

/-- The path in a URL. -/
def text : Path → String
  | custom text => text
  | segments l => .join (l.map ("/" ++ ·))

/-- A segment with its encoded dots as dots. -/
def dots : List Char → List Char
  | '%' :: '2' :: 'e' :: l | '%' :: '2' :: 'E' :: l => '.' :: dots l
  | c :: l => c :: dots l
  | [] => []

/-- Whether a segment stands for nothing. -/
def isSingleDot (l : List Char) : Bool := dots l = ['.']

/-- Whether a segment takes back the one before it. -/
def isDoubleDot (l : List Char) : Bool := dots l = ['.', '.']

/-- A segment as it is kept. -/
def segment (l : List Char) : String := .ofList (Percent.encode Percent.pathSet l)

/-- Whether characters are the letter of a drive with its mark. -/
def isDrive : List Char → Bool
  | [c, d] => c.isAlpha && (d = ':' || d = '|')
  | _ => false

/-- Whether a segment begins with a drive. Two dots do not take it back. -/
def stays (s : String) : Bool := isDrive (s.toList.takeWhile (· ≠ '\\'))

/-- The segments without the last one, the nearest first. -/
def shorten : List String → List String
  | s :: before => if stays s then s :: before else before
  | [] => []

/-- The segments after one more, the nearest first. A path that ends in dots ends in an empty
segment. -/
def step (before : List String) (s : List Char) (isLast : Bool) : List String :=
  if !isDoubleDot s && !isSingleDot s then segment s :: before
  else
    let before := if isDoubleDot s then shorten before else before
    if isLast then "" :: before else before

/-- The segments of a path behind those that are settled, the nearest first. -/
def settle : List String → List (List Char) → List String
  | before, [] => before.reverse
  | before, s :: rest => settle (step before s rest.isEmpty) rest

/-- The segments of a text. Under a special scheme a backslash is a slash. -/
def ofText (special : Bool) (l : List Char) : List String :=
  settle [] (pieces (fun c => c = '/' || (special && c = '\\')) l)

/-! ## Paths to files -/

/-- A drive in front of a path, as it is kept. -/
def drive? (l : List Char) : Option String :=
  if isDrive l then some (.ofList (l.take 1 ++ [':'])) else none

/-- A drive, and a name that nothing but tabs and line ends separates from it. -/
def driveAndName? (l : List Char) : Option (String × String) :=
  match l.dropWhile isBreak with
  | c :: l =>
    match l.dropWhile isBreak with
    | ':' :: b :: l =>
      let name := visible l
      if c.isAlpha && isBreak b && !name.isEmpty then some (.ofList [c, ':'], segment name) else none
    | _ => none
  | [] => none

/-- The segments of a path to a file, behind those that are settled, and whether a drive comes
first. Its letter is marked by a colon. -/
def settleFile : List String → List (List Char) → List String × Bool
  | before, [] => (before.reverse, false)
  | before, s :: rest =>
    match before, drive? (visible s), driveAndName? s with
    | [], some drive, _ => (settle [drive] (rest.map visible), true)
    | [], none, some (drive, name) => (settle [name, drive] (rest.map visible), false)
    | before, _, _ => settleFile (step before (visible s) rest.isEmpty) rest

/-- The segments of a text that names a file, and whether a drive comes first. Empty ones in front
do not count. -/
def ofFileText (l : List Char) : List String × Bool :=
  let (settled, hasDrive) := settleFile [] (pieces (fun c => c = '/' || c = '\\') l)
  match settled.dropWhile (· = "") with
  | [] => ([""], hasDrive)
  | named => (named, hasDrive)

end Path

end EntityHub.Url
