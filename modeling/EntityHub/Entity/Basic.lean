import EntityHub.Context
/-!
# Entities

One version of a node of the hub's graph: its identifier, its relations to other entities and its
properties. `Entity.expand` replaces every prefixed identifier by its full URI. A relation or
property whose key expands to that of another takes the place of the other when its own key is the
greater one.
-/

namespace EntityHub

open Json (Value Decoder)

/-- One version of an entity. -/
@[ext] structure Entity where
  id : String
  /-- When the hub stored the version, in nanoseconds. -/
  recorded : Option UInt64 := none
  /-- The version marks the entity as deleted. -/
  deleted : Bool := false
  /-- The relations to other entities, by name: identifiers, or arrays of them. -/
  references : Dict Value := ∅
  /-- The properties, by name. -/
  props : Dict Value := ∅

namespace Entity

/-- The property of that name. -/
def prop? (e : Entity) (k : String) : Option Value := e.props.get? k

/-- The relation of that name. -/
def reference? (e : Entity) (k : String) : Option Value := e.references.get? k

/-! ## Expansion -/

mutual

/-- The targets of a relation with their identifiers expanded, in nested arrays too. A target that
is no text and no array is left alone. -/
def expandTargets (c : Context) : Value → Value
  | .string s => .string (c.expand s)
  | .array items => .array (expandItems c items)
  | v => v

/-- Each of several targets with its identifiers expanded. -/
def expandItems (c : Context) : List Value → List Value
  | [] => []
  | v :: l => expandTargets c v :: expandItems c l

end

/-- The entries with their keys expanded and `f` applied to the values. -/
def expandKeys (c : Context) (f : Value → Value) (d : Dict Value) : Dict Value :=
  .ofList (d.entries.map fun e => (c.expand e.1, f e.2))

/-- The entity with full URIs in place of prefixed identifiers. -/
def expand (c : Context) (e : Entity) : Entity :=
  { e with
    id := c.expand e.id
    references := expandKeys c (expandTargets c) e.references
    props := expandKeys c (fun v => v) e.props }

/-! ## Wire form -/

/-- Reads an entity. Only its identifier must be there. -/
def decoder : Decoder Entity := fun levels r => do
  let (levels, slots) ← Json.slots? ["id", "recorded", "deleted", "refs", "props"] levels r
  match slots with
  | [id, recorded, deleted, refs, props] =>
    return {
      id := ← id.required Decoder.string levels
      recorded := ← recorded.defaulted none (Decoder.optional Decoder.uint64) levels
      deleted := ← deleted.defaulted false Decoder.bool levels
      references := ← refs.defaulted ∅ (Decoder.dict Decoder.value) levels
      props := ← props.defaulted ∅ (Decoder.dict Decoder.value) levels }
  | _ => none

/-- The entity as it is written. -/
def toValue (e : Entity) : Value :=
  let recorded := e.recorded.toList.map fun n => ("recorded", Value.ofUInt64 n)
  .object <| [("id", .string e.id)] ++ recorded ++
    [("deleted", .bool e.deleted), ("refs", .ofDict e.references), ("props", .ofDict e.props)]

end Entity

end EntityHub
