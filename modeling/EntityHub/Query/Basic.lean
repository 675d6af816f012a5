import EntityHub.Error.Basic
import EntityHub.Json.Printer
import EntityHub.Text.Blank
/-!
# Queries

A traversal of the entity graph: from the starting entities along a predicate, or against it. The
body of a request is the query and, after the first page, the continuations to go on from.
-/

namespace EntityHub

open Json (Value)

/-- A graph query. -/
structure Query where
  startingEntities : List String
  /-- The relation to follow; `*` stands for any. -/
  predicate : String := "*"
  /-- Follow the relation backwards. -/
  inverse : Bool := false
  /-- The datasets to stay in; all if there are none. -/
  datasets : List String := []
  details : Bool := false
  limit : Option UInt32 := none
  noPartialMerging : Bool := false
deriving DecidableEq

namespace Query

/-- A query must start somewhere: not every starting entity may be blank. -/
def validate (q : Query) : Except Error Unit :=
  if q.startingEntities.all isBlank then .error (.of .startingEntityRequired) else .ok ()

/-- The texts of a list as they are written. -/
def stringsToValue (l : List String) : Value := .array (l.map .string)

/-- The fields of a query as they are written. -/
def fields (q : Query) : List (String × Value) :=
  [("startingEntities", stringsToValue q.startingEntities), ("predicate", .string q.predicate),
    ("inverse", .bool q.inverse)] ++
  (if q.datasets.isEmpty then [] else [("datasets", stringsToValue q.datasets)]) ++
  [("details", .bool q.details)] ++
  (q.limit.toList.map fun n => ("limit", Value.ofUInt64 n.toUInt64)) ++
  [("noPartialMerging", .bool q.noPartialMerging)]

/-- The query as it is written. -/
def toValue (q : Query) : Value := .object q.fields

/-- The body of a request for the page that follows the continuations. -/
def body (q : Query) (continuations : List String) : Value :=
  .object <| q.fields ++
    if continuations.isEmpty then [] else [("continuations", stringsToValue continuations)]

/-- The query in diagnostic text. -/
def debug (q : Query) : String :=
  Quoted.record "Query"
    [("starting_entities", Quoted.list (q.startingEntities.map Quoted.text)),
      ("predicate", Quoted.text q.predicate), ("inverse", Quoted.bool q.inverse),
      ("datasets", Quoted.list (q.datasets.map Quoted.text)), ("details", Quoted.bool q.details),
      ("limit", Quoted.option (q.limit.map fun n => toString n.toNat)),
      ("no_partial_merging", Quoted.bool q.noPartialMerging)]

end Query

end EntityHub
