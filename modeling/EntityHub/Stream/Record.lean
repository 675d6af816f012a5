import EntityHub.Stream.Page
/-!
# Record streams

A record stream walks the pages of a source one record at a time. It keeps the cursor and the
context of the last page that had one, so a caller can store the cursor and go on from it later. A
failed fetch changes nothing. `RecordStream.poll` is the stream that ends with its first end or
error.
-/

namespace EntityHub

/-- A walk over pages. -/
@[ext] structure RecordStream (α : Type) where
  /-- The records of the current page that were not handed out yet. -/
  buffered : List α := []
  /-- The cursor of the next fetch. -/
  continuation : Option Continuation := none
  /-- The prefixes in force. -/
  context : Option Context := none
  pagesFetched : Nat := 0

namespace RecordStream

variable {σ α : Type}

/-- The walk after a further page. A page without cursor or context leaves the earlier one. -/
def turn (s : RecordStream α) (p : Page α) : RecordStream α where
  buffered := p.items
  continuation := p.continuation.or s.continuation
  context := p.context.or s.context
  pagesFetched := s.pagesFetched + 1

/-- Begins a walk at a cursor by fetching the first page. -/
def start (fetch : Fetch σ α) (cursor : Option Continuation) :
    StateM σ (Except Error (RecordStream α)) := do
  match ← fetch cursor with
  | .ok p => return .ok (turn { continuation := cursor } p)
  | .error e => return .error e

/-- The next record, after fetching a page if none is left. A page without records ends the walk
for now; the next call fetches again. -/
def next (fetch : Fetch σ α) (s : RecordStream α) :
    StateM σ (Except Error (Option α) × RecordStream α) := do
  match s.buffered with
  | x :: l => return (.ok (some x), { s with buffered := l })
  | [] =>
    match ← fetch s.continuation with
    | .error e => return (.error e, s)
    | .ok p =>
      let s := s.turn p
      return (.ok s.buffered.head?, { s with buffered := s.buffered.tail })

/-- The next item of a walk that ends for good with the first page without records and after the
first error, and the walk that is left. -/
def poll (fetch : Fetch σ α) :
    Option (RecordStream α) → StateM σ (Option (Except Error α × Option (RecordStream α)))
  | none => return none
  | some s => do
    match ← s.next fetch with
    | (.ok (some x), s) => return some (.ok x, some s)
    | (.ok none, _) => return none
    | (.error e, _) => return some (.error e, none)

/-- The first `limit` items of a walk that ends for good. -/
def collect (fetch : Fetch σ α) : Nat → Option (RecordStream α) → StateM σ (List (Except Error α))
  | 0, _ => return []
  | limit + 1, s => do
    match ← poll fetch s with
    | none => return []
    | some (x, s) => return x :: (← collect fetch limit s)

/-- The walk in diagnostic text. -/
def debug (s : RecordStream α) : String :=
  Quoted.openRecord "RecordStream"
    [("buffered", toString s.buffered.length),
      ("continuation", Quoted.option (s.continuation.map Continuation.debug)),
      ("pages_fetched", toString s.pagesFetched)]

end RecordStream

end EntityHub
