import EntityHub.Continuation
import EntityHub.Entity.Basic
/-!
# Query pages

The answer to a graph query: a JSON array of a context, the results and, if the traversal goes on,
its continuations. A result is a triple of subject, predicate and the entity found.
-/

namespace EntityHub

open Json (Value Decoder Raw)

/-- An entity found by a query, and the relation that led to it. -/
@[ext] structure QueryResult where
  subject : String
  predicate : String
  entity : Entity

namespace QueryResult

/-- Reads a result: exactly a triple. -/
def decoder : Decoder QueryResult
  | levels + 1, .array [subject, predicate, entity] => do
    return {
      subject := ← Decoder.string levels subject
      predicate := ← Decoder.string levels predicate
      entity := ← Entity.decoder levels entity }
  | _, _ => none

/-- The result as it is written. -/
def toValue (r : QueryResult) : Value :=
  .array [.string r.subject, .string r.predicate, r.entity.toValue]

end QueryResult

/-- A page of query results. -/
@[ext] structure QueryPage where
  /-- The prefixes used on the page. -/
  context : Context := {}
  results : List QueryResult := []
  /-- Where the traversal goes on; nowhere when there are none. -/
  continuations : List String := []

namespace QueryPage

/-- Reads one part of a page. -/
def part? {α : Type} (d : Decoder α) (problem : Problem) (v : Value) : Except Error α :=
  match d.ofValue? v with
  | some x => .ok x
  | none => .error (.ofFault problem .json)

/-- Reads a page from its parts. Of several faulty parts the continuations are reported first and
the context last. -/
def ofValues? : List Value → Except Error QueryPage
  | context :: results :: rest => do
    let continuations ←
      match rest with
      | [] | .null :: _ => pure []
      | v :: _ => part? (Decoder.list Decoder.string) .queryContinuationsInvalid v
    let results ← part? (Decoder.list QueryResult.decoder) .queryResultsInvalid results
    let context ← part? Context.decoder .queryContextInvalid context
    return { context, results, continuations }
  | l => .error (.of (.queryResponseShort l.length))

/-- Reads a page from octets. -/
def ofOctets? (l : List UInt8) : Except Error QueryPage :=
  match (Decoder.list Decoder.value).ofOctets? l with
  | some l => ofValues? l
  | none => .error (.ofFault .queryResponseNotAnArray .json)

end QueryPage

end EntityHub
