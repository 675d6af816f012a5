import EntityHub.Client.Basic
import EntityHub.Entity.Page
import EntityHub.Stream.Record
/-!
# Datasets

The entities of a dataset and the log of their changes, page by page. A feed asks for one page after
another with the same choices. If it expands identifiers, it does so by the last context with any
prefixes that it has met, since later pages may come without one.
-/

namespace EntityHub

/-- Which records of a dataset are asked for. -/
inductive FeedKind where
  | entities
  /-- The log of changes, or only the latest version of each entity. -/
  | changes (latestOnly : Bool)
deriving DecidableEq, Repr

/-- What is asked of a dataset. -/
structure DatasetQuery where
  kind : FeedKind := .entities
  /-- The greatest number of records on a page; none if it is 0. -/
  limit : Option UInt32 := none
  reverse : Bool := false
deriving DecidableEq, Repr

namespace DatasetQuery

/-- The last part of the path. -/
def endpoint (q : DatasetQuery) : String :=
  match q.kind with
  | .entities => "entities"
  | .changes _ => "changes"

/-- The name under which a cursor is sent. -/
def cursorName (q : DatasetQuery) : String :=
  match q.kind with
  | .entities => "from"
  | .changes _ => "since"

/-- What a request is for. -/
def purpose (q : DatasetQuery) : Purpose :=
  match q.kind with
  | .entities => .getEntities
  | .changes _ => .getChanges

/-- The pairs by which a page is asked for. -/
def pairs (q : DatasetQuery) (cursor : Option Continuation) : List (String × String) :=
  ((q.limit.filter (0 < ·)).toList.map fun n => ("limit", toString n.toNat)) ++
  (if q.reverse then [("reverse", "true")] else []) ++
  (if q.kind = .changes true then [("latestOnly", "true")] else []) ++
  (cursor.toList.map fun c => (q.cursorName, c.value))

/-- The path of the records of a dataset. -/
def path (q : DatasetQuery) (dataset : String) : String :=
  "/datasets/" ++ Percent.segment dataset ++ "/" ++ q.endpoint

end DatasetQuery

/-- A feed of a dataset. -/
structure DatasetFeed where
  dataset : String
  query : DatasetQuery
deriving DecidableEq, Repr

/-- How the identifiers of a feed are expanded: not at all, or by the last context that it has met. -/
abbrev Expansion := Option Context

namespace Expansion

/-- The expansion after a page. -/
def turn (e : Expansion) (p : EntityPage) : Expansion :=
  e.map fun last => if p.context.isEmpty then last else p.context

/-- The page with its entities expanded. -/
def apply (e : Expansion) (p : EntityPage) : EntityPage :=
  match e with
  | some context => { p with entities := p.entities.map (Entity.expand context) }
  | none => p

end Expansion

namespace DatasetFeed

variable {τ : Type}

/-- The feed of a dataset, which must have a name. -/
def ofName? (dataset : String) (query : DatasetQuery) : Except Error DatasetFeed :=
  if isBlank dataset then .error (.of .datasetNameRequired) else .ok { dataset, query }

variable [TokenSource τ]

/-- Asks for a page as it is. -/
def fetchPlain (f : DatasetFeed) (now : Instant) (cursor : Option Continuation) :
    ClientAction τ EntityPage := do
  let body ← Client.getBody now f.query.purpose (f.query.path f.dataset) (f.query.pairs cursor)
  MonadExcept.ofExcept (EntityPage.ofOctets? body)

/-- Asks for a page and expands it. -/
def fetchPage (f : DatasetFeed) (now : Instant) (cursor : Option Continuation) :
    ExceptT Error (StateM (Client τ × Expansion)) EntityPage := do
  let (c, e) ← get
  let (r, c) := (f.fetchPlain now cursor).run.run c
  match r with
  | .ok p =>
    set (c, e.turn p)
    return (e.turn p).apply p
  | .error x =>
    set (c, e)
    throw x

/-- The pages of the feed as a source of records. -/
def fetch (f : DatasetFeed) (now : Instant) : Fetch (Client τ × Expansion) Entity := fun cursor => do
  return (← (f.fetchPage now cursor).run).map EntityPage.toPage

end DatasetFeed

namespace Client

variable {τ : Type}

/-- The client of one dataset in diagnostic text. -/
def datasetDebug [TokenSource τ] (c : Client τ) (dataset : String) : String :=
  Quoted.record "DatasetClient" [("client", c.debug), ("name", Quoted.text dataset)]

/-- Runs what needs an expansion of its own. -/
def withExpansion {α : Type} (expand : Bool)
    (a : ExceptT Error (StateM (Client τ × Expansion)) α) : ClientAction τ (α × Expansion) := do
  let start : Expansion := if expand then some {} else none
  let (r, (c, e)) := a.run.run (← get, start)
  set c
  return (← MonadExcept.ofExcept r, e)

variable [TokenSource τ]

/-- One page of a dataset, expanded if asked for. -/
def datasetPage (now : Instant) (dataset : String) (query : DatasetQuery)
    (cursor : Option Continuation) (expand : Bool) : ClientAction τ EntityPage := do
  let feed ← MonadExcept.ofExcept (DatasetFeed.ofName? dataset query)
  return (← withExpansion expand (feed.fetchPage now cursor)).1

/-- Begins a walk over the records of a dataset. -/
def datasetStream (now : Instant) (dataset : String) (query : DatasetQuery)
    (cursor : Option Continuation) (expand : Bool) :
    ClientAction τ (DatasetFeed × RecordStream Entity × Expansion) := do
  let feed ← MonadExcept.ofExcept (DatasetFeed.ofName? dataset query)
  let (stream, e) ← withExpansion expand (ExceptT.mk (RecordStream.start (feed.fetch now) cursor))
  return (feed, stream, e)

end Client

end EntityHub
