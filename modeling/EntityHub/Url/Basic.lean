import EntityHub.Url.Host
import EntityHub.Url.Path
/-!
# URLs

Absolute URLs and their texts. Reading brings a text into its normal form: the scheme and the domain
name in lower case, addresses as numbers, dots in the path taken out, the usual port number left
out, and characters encoded where they may not stand.
-/

namespace EntityHub

/-- An absolute URL. -/
structure Url where
  scheme : String
  username : String := ""
  password : Option String := none
  host : Option Url.Host := none
  /-- The port number, if it is not that of the scheme. -/
  port : Option Nat := none
  path : Url.Path
  query : Option String := none
  fragment : Option String := none
deriving DecidableEq, Repr

namespace Url

/-! ## Schemes -/

/-- The special schemes with their ports. -/
def ports : List (String × Option Nat) :=
  [("http", some 80), ("https", some 443), ("ws", some 80), ("wss", some 443), ("ftp", some 21),
    ("file", none)]

/-- Whether a scheme has rules of its own. -/
def isSpecial (scheme : String) : Bool := (ports.lookup scheme).isSome

/-- The port number that a scheme stands for. -/
def defaultPort? (scheme : String) : Option Nat := (ports.lookup scheme).join

/-! ## Writing -/

/-- User name and password in front of a host. -/
def credentials (u : Url) : String :=
  let password := match u.password with
    | some p => ":" ++ p
    | none => ""
  if u.username = "" && u.password.isNone then "" else u.username ++ password ++ "@"

/-- What stands between scheme and path. A path of segments without a host must not look like one. -/
def authority (u : Url) : String :=
  match u.host, u.path with
  | some host, _ =>
    let port := match u.port with
      | some n => ":" ++ toString n
      | none => ""
    "//" ++ u.credentials ++ host.text ++ port
  | none, .segments ("" :: _ :: _) => "/."
  | none, _ => ""

/-- The text of a URL. -/
def text (u : Url) : String :=
  let query := match u.query with
    | some q => "?" ++ q
    | none => ""
  let fragment := match u.fragment with
    | some f => "#" ++ f
    | none => ""
  u.scheme ++ ":" ++ u.authority ++ u.path.text ++ query ++ fragment

/-! ## Reading -/

/-- A text without the blanks and controls at its ends. -/
def trimmed (s : String) : List Char :=
  let strip (l : List Char) : List Char := (l.dropWhile (· ≤ ' ')).reverse
  strip (strip s.toList)

/-- Whether a character can be in a scheme. -/
def isSchemeChar (c : Char) : Bool := c.isAlphanum || Percent.among "+-." c

/-- The scheme at the front of a text, and what follows its colon. -/
def scheme? (l : List Char) : Option (String × List Char) :=
  match cut (· = ':') l with
  | (scheme, some rest) =>
    let scheme := visible scheme
    if scheme.head?.any Char.isAlpha && scheme.all isSchemeChar then
      some (.ofList (scheme.map Char.toLower), rest)
    else none
  | (_, none) => none

/-- The text of user name and password, if there is one, and the text of host and port. -/
def splitCredentials (l : List Char) : Option (List Char) × List Char :=
  let host := (l.reverse.takeWhile (· ≠ '@')).reverse
  if host.length = l.length then (none, l) else (some (l.take (l.length - host.length - 1)), host)

/-- The text of a host, and the text of its port after a colon outside brackets. -/
def splitPort : Bool → List Char → List Char × Option (List Char)
  | _, [] => ([], none)
  | bracketed, c :: l =>
    if c = ':' && !bracketed then ([], some l)
    else
      let (host, port) := splitPort (c = '[' || (bracketed && c ≠ ']')) l
      (c :: host, port)

/-- The texts of the parts that stand in front of a path. -/
structure Authority where
  credentials : Option (List Char)
  host : List Char
  port : Option (List Char)

/-- The parts in front of a path, and the path. A backslash, though it ends no host under a scheme
without rules of its own, ends a port, and the path begins with it. -/
def splitAuthority (special : Bool) (l : List Char) : Authority × List Char :=
  let inside (c : Char) : Bool := !(c = '/' || (special && c = '\\'))
  let (credentials, rest) := splitCredentials (l.takeWhile inside)
  let (host, port) := splitPort false rest
  let extra := (port.getD []).dropWhile (· ≠ '\\')
  (⟨credentials, host, port.map fun p => p.takeWhile (· ≠ '\\')⟩,
    (if extra.isEmpty then [] else '/' :: extra) ++ l.dropWhile inside)

/-- The port number that a text gives, if it is not that of the scheme. -/
def port? (scheme : String) (l : List Char) : Except Fault (Option Nat) :=
  match Ipv4.digits? 10 l with
  | some n =>
    if n < 65536 then .ok (if l.isEmpty || some n = defaultPort? scheme then none else some n)
    else .error .invalidPort
  | none => .error .invalidPort

/-- The URL with an authority. `more` says that something follows it. -/
def withAuthority? (u : Url) (more : Bool) (a : Authority) : Except Fault Url := do
  let special := isSpecial u.scheme
  if a.credentials = some [] && a.host.isEmpty && a.port.isNone && more then throw .emptyHost
  let (username, password) := cut (· = ':') (a.credentials.getD [])
  let encoded (l : List Char) : String := .ofList (Percent.encode Percent.userSet l)
  let u := { u with
    username := encoded username
    password := (password.filter fun (p : List Char) => !p.isEmpty).map encoded }
  if special && a.host.isEmpty then throw .emptyHost
  let host ← if special then Host.special? a.host else Host.custom? a.host
  if a.host.isEmpty && (a.port.isSome || u.credentials ≠ "") then throw .emptyHost
  let port ← match a.port with
    | some l => port? u.scheme l
    | none => pure none
  return { u with host := some host, port }

/-- The host of a file. That of the machine itself is left out. -/
def fileHost? (l : List Char) : Except Fault Host := do
  if l.isEmpty then return .custom ""
  let host ← Host.special? l
  return if host = .domain "localhost" then .custom "" else host

/-- What follows a slash at the front of a text. -/
def afterSlash? (l : List Char) : Option (List Char) :=
  match l.dropWhile isBreak with
  | c :: l => if c = '/' || c = '\\' then some l else none
  | [] => none

/-- The URL of a file with a path from a text. A path that begins with a drive needs no host. -/
def withFilePath (u : Url) (host : Host) (l : List Char) : Url :=
  let (segments, hasDrive) := Path.ofFileText l
  { u with host := some (if hasDrive then .custom "" else host), path := .segments segments }

/-- The URL of a file with host and path from a text. -/
def withFile? (u : Url) (l : List Char) : Except Fault Url := do
  let here : Host := .custom ""
  let some path := afterSlash? l | return u.withFilePath here l
  let some rest := afterSlash? path | return u.withFilePath here path
  let isInside (c : Char) : Bool := !(c = '/' || c = '\\')
  let hostText := visible (rest.takeWhile isInside)
  if Path.isDrive hostText then return u.withFilePath here rest
  let path := rest.dropWhile isInside
  let host ← fileHost? hostText
  return u.withFilePath host (if host = here then path else path.drop 1)

/-- The URL with authority and path from a text. -/
def withHierarchy? (u : Url) (l : List Char) : Except Fault Url := do
  let special := isSpecial u.scheme
  let more := u.query.isSome || u.fragment.isSome
  let path (l : List Char) : Path :=
    match l with
    | [] => .segments (if special then [""] else [])
    | _ :: l => .segments (Path.ofText special l)
  if special then
    let (authority, rest) := splitAuthority true (l.dropWhile fun c => c = '/' || c = '\\')
    return { ← u.withAuthority? (more || !rest.isEmpty) authority with path := path rest }
  else
    match l with
    | '/' :: '/' :: l =>
      let (authority, rest) := splitAuthority false l
      return { ← u.withAuthority? (more || !rest.isEmpty) authority with path := path rest }
    | '/' :: _ => return { u with path := path l }
    | l => return { u with path := .custom (.ofList (Percent.encode Percent.controlSet l)) }

/-- The URL that a text stands for. -/
def ofText? (s : String) : Except Fault Url := do
  let some (scheme, rest) := scheme? (trimmed s) | throw .relativeWithoutBase
  let (rest, fragment) := cut (· = '#') rest
  let (rest, query) := cut (· = '?') rest
  let querySet := if isSpecial scheme then Percent.specialQuerySet else Percent.querySet
  let encoded (set : Char → Bool) (l : List Char) : String := .ofList (Percent.encode set (visible l))
  let u : Url :=
    { scheme
      path := .segments []
      query := query.map (encoded querySet)
      fragment := fragment.map (encoded Percent.fragmentSet) }
  if scheme = "file" then u.withFile? rest else u.withHierarchy? (visible rest)

end Url

end EntityHub
