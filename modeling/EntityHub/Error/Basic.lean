import EntityHub.Error.Problem
import EntityHub.Http.Status
import EntityHub.Url.Fault
/-!
# Errors

An `Error` is a problem with what is known about it: the strategy in use, the status of the reply
and the cause below it. A cause is a fault of something outside the library (a text, a key, the
network), a failed authentication exchange, or another error.
-/

namespace EntityHub

/-- A fault of something outside the library. -/
inductive Fault where
  /-- A text that is not the JSON it should be. -/
  | json
  | url (fault : Url.Fault)
  /-- A text that cannot be the value of a header. -/
  | headerValue
  /-- A key text that cannot be read, or a key that cannot be written or used. -/
  | key
  | signature
  | file
  /-- A request of which nothing is heard. -/
  | transport
  /-- A reply whose body ended early. -/
  | body
  /-- A fault that a caller's own code describes. -/
  | described (text : String)
deriving DecidableEq, Repr

/-- A fault in words. -/
def Fault.text : Fault → String
  | json => "malformed JSON"
  | url fault => fault.text
  | headerValue => "not a header value"
  | key => "unusable key"
  | signature => "key refused"
  | file => "file not accessible"
  | transport => "no reply"
  | body => "body ended early"
  | described text => text

/-- Why the metadata of an identity provider could not be had. -/
inductive DiscoveryFault where
  | unreachable
  | status (status : Http.Status)
  | invalidMetadata
  | tokenEndpointMissing
deriving DecidableEq, Repr

namespace DiscoveryFault

/-- The reason in words. -/
def text : DiscoveryFault → String
  | unreachable => "provider unreachable"
  | status s => "unexpected status " ++ s.text
  | invalidMetadata => "invalid provider metadata"
  | tokenEndpointMissing => "provider metadata has no token_endpoint"

/-- The fault below, if there is one. -/
def fault? : DiscoveryFault → Option Fault
  | unreachable => some .transport
  | invalidMetadata => some .json
  | status _ | tokenEndpointMissing => none

end DiscoveryFault

/-- Why an authentication exchange gave no token. -/
inductive AuthFailure where
  | discovery (url : String) (reason : DiscoveryFault)
  /-- The token endpoint refused. -/
  | grant (url : String) (status : Http.Status) (body : String)
  | network (url : String)
  | invalidResponse (url : String)
  /-- The client assertion could not be made. -/
  | assertion (problem : Problem) (fault : Fault)
deriving DecidableEq, Repr

namespace AuthFailure

/-- The failure in words. -/
def text : AuthFailure → String
  | discovery url reason => "discovery at " ++ url ++ " failed: " ++ reason.text
  | grant url status _ =>
    "token grant at " ++ url ++ " was rejected with HTTP " ++ toString status.code
  | network url => "token endpoint " ++ url ++ " is unreachable"
  | invalidResponse url => "token endpoint " ++ url ++ " returned an invalid body"
  | assertion .. => "unable to build client assertion"

/-- Whether something below the failure caused it. -/
def hasCause : AuthFailure → Bool
  | discovery _ reason => reason.fault?.isSome
  | grant .. => false
  | network _ | invalidResponse _ | assertion .. => true

end AuthFailure

/-- A problem with what is known about it, over the causes `γ`. -/
structure Report (γ : Type) where
  problem : Problem
  strategy : Option AuthStrategy := none
  /-- The status code of the reply that told of the problem. -/
  status : Option Nat := none
  cause : Option γ := none

/-- What lies below an error. -/
inductive Cause where
  | fault (f : Fault)
  | failure (f : AuthFailure)
  | error (e : Report Cause)

/-- A failure of the library. -/
abbrev Error := Report Cause

/-- A cause in words. An error names its kind, its message, its status and its own cause. -/
def Cause.text : Cause → String
  | .fault f => f.text
  | .failure f => f.text
  | .error ⟨problem, _, status, cause⟩ =>
    let status := match status with
      | some n => " (HTTP " ++ toString n ++ ")"
      | none => ""
    let cause := match cause with
      | some c => ": " ++ c.text
      | none => ""
    problem.kind.text ++ ": " ++ problem.message ++ status ++ cause

namespace Error

/-- The error of a problem alone. -/
def of (problem : Problem) : Error := { problem }

/-- The error of a problem that a fault caused. -/
def ofFault (problem : Problem) (fault : Fault) : Error := { problem, cause := some (.fault fault) }

/-- The kind of an error. -/
def kind (e : Error) : ErrorKind := e.problem.kind

/-- The message of an error, without its kind and cause. -/
def message (e : Error) : String := e.problem.message

/-- The whole text of an error. -/
def text (e : Error) : String := (Cause.error e).text

end Error

end EntityHub
