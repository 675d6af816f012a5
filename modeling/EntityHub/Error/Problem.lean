import EntityHub.Auth.Strategy
import EntityHub.Text.Quoted
/-!
# Problems

Everything that the library can find wrong, one constructor for each cause. `Problem.kind` files
a problem under one of six kinds and `Problem.message` is the only place where it gets its words.
A caller's own token source or page fetcher reports problems of its own (`reported`).
-/

namespace EntityHub

/-- The kinds of problem. -/
inductive ErrorKind where
  | configuration
  | parameter
  | authentication
  | notImplemented
  | request
  | clientProcessing
deriving DecidableEq, Repr

namespace ErrorKind

/-- The name of a kind. -/
def text : ErrorKind → String
  | configuration => "configuration error"
  | parameter => "parameter error"
  | authentication => "authentication error"
  | notImplemented => "not implemented"
  | request => "request error"
  | clientProcessing => "client processing error"

/-- The name used in diagnostic text. -/
def label : ErrorKind → String
  | configuration => "Configuration"
  | parameter => "Parameter"
  | authentication => "Authentication"
  | notImplemented => "NotImplemented"
  | request => "Request"
  | clientProcessing => "ClientProcessing"

/-- All kinds. -/
def all : List ErrorKind :=
  [configuration, parameter, authentication, notImplemented, request, clientProcessing]

/-- The kind of a name in diagnostic text. -/
def ofLabel? (s : String) : Option ErrorKind := all.find? (·.label = s)

/-- Whether a problem of this kind is found before anything is sent. -/
def isLocal : ErrorKind → Bool
  | configuration | parameter | notImplemented => true
  | authentication | request | clientProcessing => false

end ErrorKind

/-- What a request to the hub is for. -/
inductive Purpose where
  | getEntities
  | getChanges
  | runQuery
  | getClients
  | addClient
  | deleteClient
  | getAccessRules
  | setAccessRules
deriving DecidableEq, Repr

/-- The purpose in words. -/
def Purpose.text : Purpose → String
  | getEntities => "get entities"
  | getChanges => "get changes"
  | runQuery => "run query"
  | getClients => "get clients"
  | addClient => "add client"
  | deleteClient => "delete client"
  | getAccessRules => "get client access control list"
  | setAccessRules => "set client access control list"

/-- A cause of failure. -/
inductive Problem where
  /-- Fields that the strategy needs are blank. -/
  | missingFields (strategy : AuthStrategy) (fields : List String)
  | httpClientRefused
  | emptyContinuation
  | invalidUrl
  | serverUrlRequired
  | serverUrlInvalid
  | serverUrlScheme (scheme : String)
  | requestPathInvalid (path : String)
  | startingEntityRequired
  | notAQueryCursor
  | datasetNameRequired
  | clientIdEmpty
  | privateKeyUnreadable
  | publicKeyUnreadable
  | privateKeyNotExportable
  | publicKeyNotExportable
  | keyNotGenerated (bits : Nat)
  | assertionUnsigned
  | keyLocationRequired
  | keyLocationNotADirectory (path : String)
  | keyFileUnreadable (path : String)
  | keyFileUnwritable (path : String)
  | authenticationFailed (strategy : AuthStrategy)
  | accessTokenFormat
  | userFlowUnsupported
  | requestFailed (purpose : Purpose)
  /-- A scripted source of pages has none for the cursor. -/
  | pageNotScripted (cursor : Option String)
  | responseUnreadable (purpose : Purpose)
  | entityPageNotAnArray
  | pageContextInvalid
  | pageContinuationInvalid
  | pageEntityInvalid
  | queryResponseNotAnArray
  | queryResponseShort (size : Nat)
  | queryContinuationsInvalid
  | queryResultsInvalid
  | queryContextInvalid
  | clientKeyInvalid (id : String)
  /-- A problem that a caller's own code reports. -/
  | reported (kind : ErrorKind) (message : String)
deriving DecidableEq, Repr

namespace Problem

/-- The kind of a problem. -/
def kind : Problem → ErrorKind
  | missingFields .. | httpClientRefused => .configuration
  | emptyContinuation | invalidUrl | serverUrlRequired | serverUrlInvalid | serverUrlScheme _
  | requestPathInvalid _ | startingEntityRequired | notAQueryCursor | datasetNameRequired
  | clientIdEmpty | privateKeyUnreadable | publicKeyUnreadable | privateKeyNotExportable
  | publicKeyNotExportable | keyNotGenerated _ | assertionUnsigned | keyLocationRequired
  | keyLocationNotADirectory _ | keyFileUnreadable _ | keyFileUnwritable _ => .parameter
  | authenticationFailed _ | accessTokenFormat => .authentication
  | userFlowUnsupported => .notImplemented
  | requestFailed _ | pageNotScripted _ => .request
  | responseUnreadable _ | entityPageNotAnArray | pageContextInvalid | pageContinuationInvalid
  | pageEntityInvalid | queryResponseNotAnArray | queryResponseShort _ | queryContinuationsInvalid
  | queryResultsInvalid | queryContextInvalid | clientKeyInvalid _ => .clientProcessing
  | reported kind _ => kind

/-- A problem in words. -/
def message : Problem → String
  | missingFields strategy fields =>
    strategy.text ++ " authentication is missing " ++ ", ".intercalate fields
  | httpClientRefused => "unable to create HTTP client"
  | emptyContinuation => "continuation token cannot be empty"
  | invalidUrl => "invalid URL"
  | serverUrlRequired => "server url is required"
  | serverUrlInvalid => "server url is not valid"
  | serverUrlScheme scheme => "server url scheme must be http or https, got " ++ scheme
  | requestPathInvalid path => "invalid request path " ++ path
  | startingEntityRequired => "query requires at least one starting entity"
  | notAQueryCursor => "not a query continuation"
  | datasetNameRequired => "dataset name is required"
  | clientIdEmpty => "client id cannot be empty"
  | privateKeyUnreadable => "failed to parse RSA private key PEM"
  | publicKeyUnreadable => "failed to parse RSA public key PEM"
  | privateKeyNotExportable => "unable to export private key"
  | publicKeyNotExportable => "unable to export public key"
  | keyNotGenerated bits => "unable to generate " ++ toString bits ++ "-bit RSA key"
  | assertionUnsigned => "unable to sign client assertion"
  | keyLocationRequired => "key location is required"
  | keyLocationNotADirectory path => "key location " ++ path ++ " is not a directory"
  | keyFileUnreadable path => "unable to read key file " ++ path
  | keyFileUnwritable path => "unable to write key file " ++ path
  | authenticationFailed strategy => "unable to authenticate using " ++ strategy.text
  | accessTokenFormat => "invalid access token format"
  | userFlowUnsupported => "user flow authentication is not supported"
  | requestFailed purpose => "unable to " ++ purpose.text
  | pageNotScripted cursor =>
    "no page scripted for cursor " ++ Quoted.option (cursor.map Quoted.text)
  | responseUnreadable purpose => "unable to process response to " ++ purpose.text
  | entityPageNotAnArray => "entity page is not a JSON array"
  | pageContextInvalid => "invalid @context object"
  | pageContinuationInvalid => "invalid @continuation object"
  | pageEntityInvalid => "invalid entity in page"
  | queryResponseNotAnArray => "query response is not a JSON array"
  | queryResponseShort size =>
    "query response has " ++ toString size ++ " elements, expected context and results"
  | queryContinuationsInvalid => "invalid query continuations"
  | queryResultsInvalid => "invalid query results"
  | queryContextInvalid => "invalid query context"
  | clientKeyInvalid id => "public key of client " ++ id ++ " is not valid"
  | reported _ message => message

end Problem

end EntityHub
