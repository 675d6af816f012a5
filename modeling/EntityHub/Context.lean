import EntityHub.Json.Decode
import EntityHub.Json.Printer
/-!
# Contexts

A context maps prefixes to namespace URIs. `Context.expand?` replaces the prefix of an identifier,
the part before its first colon, by its URI; an identifier without a colon or with an unknown
prefix has no expansion. `Context.expand` keeps such an identifier as it is.
-/

namespace EntityHub

open Json (Value Decoder)

/-- A map from prefixes to namespace URIs. -/
@[ext] structure Context where
  namespaces : Dict String := ∅
deriving DecidableEq

/-- The part of a list before the first occurrence of `a` and the part after it. -/
def splitFirst {α : Type} [DecidableEq α] (a : α) : List α → Option (List α × List α)
  | [] => none
  | b :: l => if b = a then some ([], l) else (splitFirst a l).map fun (x, y) => (b :: x, y)

theorem splitFirst_eq_some_iff {α : Type} [DecidableEq α] {a : α} {l x y : List α} :
    splitFirst a l = some (x, y) ↔ l = x ++ a :: y ∧ a ∉ x := by
  induction l generalizing x with
  | nil => simp [splitFirst]
  | cons b l ih =>
    simp only [splitFirst]
    split
    · next h =>
      subst h
      cases x with
      | nil => simp
      | cons c x => simp +contextual
    · next h =>
      cases x with
      | nil => simp [h]
      | cons c x =>
        simp only [Option.map_eq_some_iff, Prod.exists, Prod.mk.injEq, List.cons.injEq,
          List.cons_append, List.mem_cons, not_or]
        constructor
        · rintro ⟨x', y', h', ⟨rfl, rfl⟩, rfl⟩
          obtain ⟨rfl, hx⟩ := ih.1 h'
          exact ⟨⟨rfl, rfl⟩, fun e => h e.symm, hx⟩
        · rintro ⟨⟨rfl, rfl⟩, -, hx⟩
          exact ⟨x, y, ih.2 ⟨rfl, hx⟩, ⟨rfl, rfl⟩, rfl⟩

namespace Context

/-- The URI of a prefix. -/
def uri? (c : Context) (p : String) : Option String := c.namespaces.get? p

/-- The context with a further prefix. -/
def insert (c : Context) (p uri : String) : Context := ⟨c.namespaces.insert p uri⟩

/-- Whether no prefix is known. -/
def isEmpty (c : Context) : Bool := c.namespaces.isEmpty

/-- The identifier with its prefix replaced, if it has a known one. -/
def expand? (c : Context) (id : String) : Option String := do
  let (p, rest) ← splitFirst ':' id.toList
  return (← c.uri? (.ofList p)) ++ .ofList rest

/-- The identifier with its prefix replaced if it has a known one, and as it is otherwise. -/
def expand (c : Context) (id : String) : String := (c.expand? id).getD id

/-- Reads a context. Without namespaces it is empty. -/
def decoder : Decoder Context := fun levels r => do
  let (levels, slots) ← Json.slots? ["namespaces"] levels r
  match slots with
  | [namespaces] =>
    return ⟨← namespaces.defaulted ∅ (Decoder.dict Decoder.string) levels⟩
  | _ => none

/-- The context as it is written. -/
def toValue (c : Context) : Value := .object [("namespaces", .ofDict (c.namespaces.map .string))]

end Context

end EntityHub
