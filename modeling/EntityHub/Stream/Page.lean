import EntityHub.Entity.Page
/-!
# Pages of records

What one fetch yields: records, where to go on and the prefixes in force. A `Fetch` is a source of
pages with a state of its own, to which a cursor is put, none for the first page.
-/

namespace EntityHub

/-- A page of records. -/
@[ext] structure Page (α : Type) where
  items : List α := []
  /-- Where the next page begins, if the page tells. -/
  continuation : Option Continuation := none
  /-- The prefixes used on the page, if the page tells. -/
  context : Option Context := none

/-- A source of pages over the state `σ`. -/
abbrev Fetch (σ α : Type) := Option Continuation → StateM σ (Except Error (Page α))

/-- The records of an entity page. A context without prefixes is none. -/
def EntityPage.toPage (p : EntityPage) : Page Entity where
  items := p.entities
  continuation := p.continuation
  context := if p.context.isEmpty then none else some p.context

end EntityHub
