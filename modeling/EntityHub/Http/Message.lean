import EntityHub.Codec.Base64
import EntityHub.Http.Status
import EntityHub.Url.Query
/-!
# Requests and replies
-/

namespace EntityHub.Http

/-- What a request does. -/
inductive Method where
  | get
  | post
deriving DecidableEq, Repr

/-- The name of a method. -/
def Method.text : Method → String
  | get => "GET"
  | post => "POST"

/-- The headers of a request that matter here. -/
structure Headers where
  authorization : Option String := none
  contentType : Option String := none
  accept : String := "*/*"
  userAgent : Option String := none
deriving DecidableEq

/-- A request as it is sent. -/
structure Request where
  method : Method
  url : Url
  headers : Headers
  body : List UInt8 := []
deriving DecidableEq

/-- A reply. -/
structure Reply where
  status : Status
  /-- The body, unless it ended early. -/
  body : Option (List UInt8)
deriving DecidableEq

/-- The body as text. One that ended early is none. -/
def Reply.text (r : Reply) : String := (r.body.map Utf8.lossy).getD ""

/-- The type of a body in JSON. -/
def jsonType : String := "application/json"

/-- The type of a body that is a form. -/
def formType : String := "application/x-www-form-urlencoded"

/-- Whether a text can be the value of a header: it has no control but the tab. -/
def isHeaderValue (s : String) : Bool := s.toList.all fun c => c = '\t' || (' ' ≤ c && c ≠ '\x7f')

/-- The value by which a user and a password authorize a request. -/
def basicCredentials (user : String) (password : Option String) : String :=
  "Basic " ++ .ofList (Base64.encode (Utf8.encode (user ++ ":" ++ password.getD "")))

/-- The value by which a token authorizes a request. -/
def bearerCredentials (token : String) : String := "Bearer " ++ token

end EntityHub.Http
