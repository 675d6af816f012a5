import EntityHub.Stream.Page
/-!
# Scripted pages

Sources of pages that stand in for a hub: pages laid out by cursor, with a log of the cursors that
were asked for, and a list of outcomes that are given in turn.
-/

namespace EntityHub

/-- Pages laid out by cursor. -/
structure ScriptedPages (α : Type) where
  /-- The pages, each with the cursor that it answers. No cursor stands twice. -/
  pages : List (Option String × Page α) := []
  /-- The cursors asked for, the first one first. -/
  calls : List (Option String) := []

namespace ScriptedPages

variable {α : Type}

/-- The script with a page for a cursor, in place of an earlier one. -/
def insert (s : ScriptedPages α) (cursor : Option String) (p : Page α) : ScriptedPages α :=
  { s with pages := s.pages.filter (fun e => e.1 ≠ cursor) ++ [(cursor, p)] }

/-- Answers with the page of a cursor. -/
def fetch : Fetch (ScriptedPages α) α := fun cursor s =>
  let cursor := cursor.map Continuation.value
  let s := { s with calls := s.calls ++ [cursor] }
  match s.pages.lookup cursor with
  | some p => (.ok p, s)
  | none => (.error { problem := .pageNotScripted cursor, status := some 404 }, s)

/-- The script with an empty log. -/
def reset (s : ScriptedPages α) : ScriptedPages α := { s with calls := [] }

/-- A cursor of the script that was never asked for, if there is one. -/
def unasked? (s : ScriptedPages α) : Option (Option String) :=
  (s.pages.map Prod.fst).find? fun cursor => !s.calls.contains cursor

/-- What is wrong when a cursor was never asked for. -/
def unaskedText (cursor : Option String) : String :=
  "expected fetch from " ++ Quoted.option (cursor.map Quoted.text) ++ " was never made"

/-- The script in diagnostic text. -/
def debug (s : ScriptedPages α) : String :=
  Quoted.record "MockPages"
    [("pages", toString s.pages.length), ("calls", toString s.calls.length)]

end ScriptedPages

/-- Outcomes that are given in turn. -/
structure ScriptedOutcomes (α : Type) where
  outcomes : List (Except Error (Page α)) := []
  /-- The cursors asked for, the first one first. -/
  calls : List (Option String) := []

namespace ScriptedOutcomes

variable {α : Type}

/-- Answers with the next outcome, and with an empty page when none is left. -/
def fetch : Fetch (ScriptedOutcomes α) α := fun cursor s =>
  let calls := s.calls ++ [cursor.map Continuation.value]
  match s.outcomes with
  | x :: l => (x, ⟨l, calls⟩)
  | [] => (.ok {}, ⟨[], calls⟩)

/-- Any source made of a function, in diagnostic text. -/
def debug : String := Quoted.openRecord "FnFetcher" []

end ScriptedOutcomes

end EntityHub
