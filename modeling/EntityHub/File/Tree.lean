import EntityHub.Text.Split
/-!
# Trees of files

Directories and files by their paths, each file with its contents and its permissions. There are no
links. A path is given as a text, which names one part after another; all parts but the last have
to be directories. The tree also knows which of the coming writes the system will refuse.
-/

namespace EntityHub.File

/-- The names that lead from the root to a place. -/
abbrev Path := List String

/-- What stands at a path. -/
inductive Node where
  | directory
  | file (contents : List UInt8) (mode : Nat)
deriving DecidableEq

/-- A tree of files below a root directory. -/
structure Tree where
  nodes : List (Path × Node) := []
  /-- For each coming write whether the system refuses it. Once none is left, none is refused. -/
  refusals : List Bool := []
deriving DecidableEq

namespace Tree

/-! ## Places -/

/-- What stands at a path. The root is a directory. -/
def get? (t : Tree) (p : Path) : Option Node := if p = [] then some .directory else t.nodes.lookup p

/-- The tree with something else at a path. -/
def put (t : Tree) (p : Path) (n : Node) : Tree :=
  { t with nodes := (p, n) :: t.nodes.filter (·.1 ≠ p) }

/-- The tree without what stands at a path. -/
def erase (t : Tree) (p : Path) : Tree := { t with nodes := t.nodes.filter (·.1 ≠ p) }

/-- Whether a text can be a path. -/
def isPath (text : String) : Bool :=
  text ≠ "" && !text.toList.contains '\x00' && text.utf8ByteSize < 4096

/-- Whether a text can name a part of a path. -/
def isName (s : String) : Bool := s.utf8ByteSize ≤ 255

/-- The parts that a text names, between its slashes. -/
def parts (text : String) : List String := (pieces (· = '/') text.toList).map .ofList

/-- The place that a part names in a directory. -/
def enter? (t : Tree) (p : Path) (part : String) : Option Path :=
  if t.get? p = some .directory && isName part then
    some (if part = "" || part = "." then p else if part = ".." then p.dropLast else p ++ [part])
  else none

/-- The place that a text leads to. -/
def resolve? (t : Tree) (text : String) : Option Path :=
  if isPath text then (parts text).foldlM t.enter? [] else none

/-- The path of a file in a directory. -/
def join (directory name : String) : String :=
  if directory = "" || directory.toList.getLast? = some '/' then directory ++ name
  else directory ++ "/" ++ name

/-! ## Operations -/

/-- Whether a path leads to a directory. -/
def isDirectory (t : Tree) (text : String) : Bool :=
  (t.resolve? text).bind t.get? = some .directory

/-- The contents of a file. -/
def read? (t : Tree) (text : String) : Option (List UInt8) :=
  match (t.resolve? text).bind t.get? with
  | some (.file contents _) => some contents
  | _ => none

/-- Permissions are nine bits: three for the owner, for a group, and for the others. -/
def permissions (mode : Nat) : Nat := mode % 0o1000

/-- The permissions of every directory: all for its owner, reading and entering for the others. -/
def directoryMode : Nat := 0o755

/-- The permissions of what stands at a path. -/
def mode? (t : Tree) (text : String) : Option Nat :=
  match (t.resolve? text).bind t.get? with
  | some (.file _ mode) => some mode
  | some .directory => some directoryMode
  | none => none

/-- The tree after the system has met one more write, and whether it refuses it. -/
def attempt (t : Tree) : Bool × Tree :=
  (t.refusals.headD false, { t with refusals := t.refusals.tail })

/-- Writes a file whole, in place of what it held. A new file gets the permissions `mode`, one that
is there keeps its own. Nothing is written where a directory stands or above which none does. -/
def write? (t : Tree) (text : String) (contents : List UInt8) (mode : Nat) : Bool × Tree :=
  let (refused, t) := t.attempt
  match refused, t.resolve? text with
  | false, some p =>
    match t.get? p with
    | some .directory => (false, t)
    | some (.file _ kept) => (true, t.put p (.file contents kept))
    | none => (true, t.put p (.file contents (permissions mode)))
  | _, _ => (false, t)

/-- Gives a file other permissions. -/
def setMode? (t : Tree) (text : String) (mode : Nat) : Bool × Tree :=
  match t.resolve? text with
  | some p =>
    match t.get? p with
    | some (.file contents _) => (true, t.put p (.file contents (permissions mode)))
    | _ => (false, t)
  | none => (false, t)

/-- Removes a file. -/
def remove? (t : Tree) (text : String) : Bool × Tree :=
  match t.resolve? text with
  | some p =>
    match t.get? p with
    | some (.file ..) => (true, t.erase p)
    | _ => (false, t)
  | none => (false, t)

/-- Follows parts from a place on and makes the directories that are missing, up to a part that
leads nowhere. -/
def makeFrom (t : Tree) (p : Path) : List String → Option Path × Tree
  | [] => (some p, t)
  | part :: parts =>
    match t.enter? p part with
    | none => (none, t)
    | some p =>
      match t.get? p with
      | some .directory => t.makeFrom p parts
      | some (.file ..) => (none, t)
      | none => (t.put p .directory).makeFrom p parts

/-- Makes a directory and those above it that are missing. Those that have been made stay, also if
a later one cannot be. A directory that a single dot comes after has to be there, and for no path at
all there is nothing to make. -/
def makeDirectory? (t : Tree) (text : String) : Bool × Tree :=
  let isIdle (part : String) : Bool := part = "" || part = "."
  let parts := parts text
  let idle := parts.reverse.takeWhile isIdle
  let named := parts.take (parts.length - idle.length)
  let made := if idle.contains "." then named.dropLast else named
  if isPath text then
    let (_, t) := t.makeFrom [] made
    (t.isDirectory text, t)
  else (text = "", t)

/-- The names in a directory, in order. -/
def names (t : Tree) (text : String) : List String :=
  let below (p q : Path) : Option String := q.getLast?.filter fun name => q = p ++ [name]
  match t.resolve? text with
  | some p => (t.nodes.filterMap fun n => below p n.1).mergeSort
  | none => []

/-! ## What a change leaves -/

/-- What has been put at a path stands there. -/
theorem get?_put_self (t : Tree) {p : Path} (n : Node) (h : p ≠ []) : (t.put p n).get? p = some n := by
  simp [get?, put, h]

/-- To leave out the entries of one path does not change what is found at another. -/
theorem lookup_filter_ne {p q : Path} (h : q ≠ p) :
    ∀ l : List (Path × Node), (l.filter (·.1 ≠ p)).lookup q = l.lookup q
  | [] => rfl
  | (r, m) :: l => by
    by_cases hr : r = p
    · have hq : (q == r) = false := beq_eq_false_iff_ne.mpr (hr ▸ h)
      simpa [hr, List.lookup_cons, hr ▸ hq] using lookup_filter_ne h l
    · simp only [List.filter_cons, ne_eq, hr, not_false_eq_true, decide_true, if_true,
        List.lookup_cons, lookup_filter_ne h l]

/-- Elsewhere nothing changes. -/
theorem get?_put_ne (t : Tree) {p q : Path} (n : Node) (h : q ≠ p) : (t.put p n).get? q = t.get? q := by
  have hq : (q == p) = false := beq_eq_false_iff_ne.mpr h
  simp only [get?, put, List.lookup_cons, hq, lookup_filter_ne h]

end Tree

end EntityHub.File
