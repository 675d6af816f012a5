import EntityHub.Client.Basic
import EntityHub.Query.Basic
import EntityHub.Query.Page
import EntityHub.Stream.Record
/-!
# Running queries

A query is posted to the hub, which answers a page and the continuations to go on from. A walk over
the results carries these continuations in one cursor, as a JSON array. An empty array marks the end:
from there on pages are empty and nothing is sent.
-/

namespace EntityHub

open Json (Decoder)

namespace Query

/-- Where queries are posted. -/
def path : String := "/query"

/-- The cursor that carries continuations. -/
def encodeCursor (continuations : List String) : Continuation := ⟨(stringsToValue continuations).text⟩

/-- The continuations that a cursor carries. -/
def decodeCursor (c : Continuation) : Except Error (List String) :=
  match (Decoder.list Decoder.string).ofText? c.value with
  | some l => .ok l
  | none => .error (.ofFault .notAQueryCursor .json)

/-- A page of results as a page of records. It always tells where to go on. -/
def toPage (p : QueryPage) : Page QueryResult where
  items := p.results
  continuation := some (encodeCursor p.continuations)
  context := if p.context.isEmpty then none else some p.context

variable {τ : Type} [TokenSource τ]

/-- Asks for the page that follows continuations. -/
def fetchPage (q : Query) (now : Instant) (continuations : List String) : ClientAction τ QueryPage := do
  let body ← Client.postValue now .runQuery path (q.body continuations)
  MonadExcept.ofExcept (QueryPage.ofOctets? body)

/-- The page at a cursor. -/
def fetchAt (q : Query) (now : Instant) : Option Continuation → ClientAction τ (Page QueryResult)
  | none => toPage <$> q.fetchPage now []
  | some c => do
    match ← MonadExcept.ofExcept (decodeCursor c) with
    | [] => return {}
    | continuations => toPage <$> q.fetchPage now continuations

/-- The results of a query as a source of records. -/
def fetch (q : Query) (now : Instant) : Fetch (Client τ) QueryResult := fun cursor =>
  (q.fetchAt now cursor).run

end Query

namespace Client

variable {τ : Type} [TokenSource τ]

/-- The first page of a query. -/
def query (now : Instant) (q : Query) : ClientAction τ QueryPage := do
  MonadExcept.ofExcept q.validate
  q.fetchPage now []

/-- Begins a walk over the results of a query. -/
def queryStream (now : Instant) (q : Query) (cursor : Option Continuation) :
    ClientAction τ (RecordStream QueryResult) := do
  MonadExcept.ofExcept q.validate
  ExceptT.mk (RecordStream.start (q.fetch now) cursor)

end Client

end EntityHub
