import EntityHub.Continuation
import EntityHub.Entity.Basic
/-!
# Entity pages

A page is a JSON array of entities. Among them may stand, anywhere, a context under the identifier
`@context` and a continuation under `@continuation`; of each the last one counts.
-/

namespace EntityHub

open Json (Value Decoder Raw)

/-- A page of entities. -/
@[ext] structure EntityPage where
  /-- The prefixes used on the page. -/
  context : Context := {}
  /-- The entities in the hub's order. -/
  entities : List Entity := []
  /-- Where the next page begins. -/
  continuation : Option Continuation := none

namespace EntityPage

/-- The identifier of the element that is a context. -/
def contextId : String := "@context"

/-- The identifier of the element that is a continuation. -/
def continuationId : String := "@continuation"

/-- One element of a page. -/
inductive Element where
  | context (c : Context)
  | continuation (c : Continuation)
  | entity (e : Entity)

/-- Reads an element by the identifier that it bears. -/
def Element.ofValue? (v : Value) : Except Error Element :=
  let id := (v.get? "id").bind Value.string?
  if id = some contextId then
    read Context.decoder .context .pageContextInvalid
  else if id = some continuationId then
    read Continuation.decoder .continuation .pageContinuationInvalid
  else
    read Entity.decoder .entity .pageEntityInvalid
where
  /-- Reads the element as one of its forms. -/
  read {α : Type} (d : Decoder α) (form : α → Element) (problem : Problem) : Except Error Element :=
    match d.ofValue? v with
    | some x => .ok (form x)
    | none => .error (.ofFault problem .json)

/-- The page with one more element. -/
def push (p : EntityPage) : Element → EntityPage
  | .context c => { p with context := c }
  | .continuation c => { p with continuation := some c }
  | .entity e => { p with entities := p.entities ++ [e] }

/-- Reads a page from its elements. -/
def ofValues? (l : List Value) : Except Error EntityPage := do
  return (← l.mapM Element.ofValue?).foldl push {}

/-- Reads a page from octets. -/
def ofOctets? (l : List UInt8) : Except Error EntityPage :=
  match (Decoder.list Decoder.value).ofOctets? l with
  | some l => ofValues? l
  | none => .error (.ofFault .entityPageNotAnArray .json)

/-- The page with every entity expanded by the page's own context. -/
def expand (p : EntityPage) : EntityPage :=
  { p with entities := p.entities.map (Entity.expand p.context) }

end EntityPage

end EntityHub
