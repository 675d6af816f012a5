import EntityHub.Http.Config
import EntityHub.Http.Peer
import EntityHub.Text.Blank
/-!
# Agents

An agent turns a draft into a request and sends it. It adds its own name, and authorizes the request
by user name and password of the URL if the draft does not say how.
-/

namespace EntityHub.Http

/-- The machine on which the library runs. -/
structure Platform where
  system : String
  processor : String
deriving DecidableEq

/-- What sends requests. -/
structure Agent where
  /-- The name under which requests are sent. -/
  userAgent : Option String := none
  timeout : Duration := .ofSeconds 30
deriving DecidableEq

/-- What a caller wants sent. -/
structure Draft where
  method : Method
  /-- Pairs to add to the query. -/
  pairs : Option (List (String × String)) := none
  authorization : Option String := none
  contentType : Option String := none
  accept : String := "*/*"
  body : List UInt8 := []

/-- A draft that posts a form. -/
def Draft.form (fields : List (String × String)) : Draft where
  method := .post
  contentType := some formType
  body := Utf8.encode (Form.encode fields)

namespace Agent

/-- The name and version of this library. -/
def product : String := "datahub-client/0.1.0"

/-- The name under which the requests of an application are sent. -/
def nameOf (platform : Platform) (application : Option String) : String :=
  let own := product ++ " (" ++ platform.system ++ "; " ++ platform.processor ++ ")"
  match (application.map trim).filter (· ≠ "") with
  | some application => application ++ " " ++ own
  | none => own

/-- The agent of a configuration. The name must be fit for a header. -/
def ofConfig? (platform : Platform) (config : Config) : Except Error Agent :=
  let name := nameOf platform config.userAgent
  if isHeaderValue name then .ok { userAgent := some name, timeout := config.timeout }
  else .error (.ofFault .httpClientRefused .headerValue)

/-- The request that a draft makes of a URL. -/
def request (a : Agent) (u : Url) (d : Draft) : Request where
  method := d.method
  url := match d.pairs with
    | some pairs => (u.addPairs pairs).sent
    | none => u.sent
  headers :=
    { authorization := d.authorization.or (u.credentials?.map fun c => basicCredentials c.1 c.2)
      contentType := d.contentType
      accept := d.accept
      userAgent := a.userAgent }
  body := d.body

/-- Sends a draft to a URL. -/
def send (a : Agent) (u : Url) (d : Draft) : StateM Peer (Except Fault Reply) :=
  Peer.send (a.request u d)

/-- Sends a draft to what should be a URL. -/
def sendTo (a : Agent) (target : String) (d : Draft) : StateM Peer (Except Fault Reply) :=
  match Url.ofText? target with
  | .ok u => a.send u d
  | .error _ => return .error .transport

end Agent

end EntityHub.Http
