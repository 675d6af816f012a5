import EntityHub.Url.Basic
import EntityHub.Url.Form
/-!
# Queries and credentials of a URL

Pairs are added to the query that a URL has. User name and password are taken out of a URL before it
is sent, as they travel apart from it.
-/

namespace EntityHub.Url

/-- The query that comes of pairs behind an earlier one. An empty query is none. -/
def joinQuery (earlier : Option String) (pairs : List (String × String)) : Option String :=
  let parts := (earlier.getD "" :: [Form.encode pairs]).filter (· ≠ "")
  if parts.isEmpty then none else some ("&".intercalate parts)

/-- The URL with pairs added to its query. -/
def addPairs (u : Url) (pairs : List (String × String)) : Url :=
  { u with query := joinQuery u.query pairs }

/-- An encoded text read back. -/
def decoded? (s : String) : Option String := Utf8.decode? (Percent.decode (Utf8.encode s))

/-- User name and password of a URL, if it has one of them. -/
def credentials? (u : Url) : Option (String × Option String) := do
  let name ← decoded? u.username
  let password := u.password.bind decoded?
  if name = "" && password.isNone then none else some (name, password)

/-- What of a URL is sent: all but user name, password and fragment. -/
def sent (u : Url) : Url := { u with username := "", password := none, fragment := none }

end EntityHub.Url
