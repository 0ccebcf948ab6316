import NestedQuery.Entity
import NestedQuery.Filter.Basic
import NestedQuery.Json.Reader
import NestedQuery.Schema.Basic

set_option autoImplicit false

namespace NestedQuery

/-- The `data` column of one row: JSON text, or NULL. -/
abbrev Row := Option String

namespace Materialize

def coerce (type : FieldType) (value : Json) : Json :=
  match type, value with
  | .boolean, .number (.int n) =>
    if n = 0 then .bool false else if n = 1 then .bool true else value
  | _, _ => value

def takeAttributes (schema : Schema) (entity : String)
    (attributes payload : List (String × Json)) :
    List String → List (String × Json) × List (String × Json)
  | [] => (attributes, payload)
  | field :: rest =>
    match Keyed.find? field payload with
    | none => takeAttributes schema entity attributes payload rest
    | some value =>
      let value := coerce (schema.fieldType entity field) value
      takeAttributes schema entity (Keyed.insert field value attributes)
        (Keyed.erase field payload) rest

def parse (text : String) : Except Error Json :=
  match Json.read text with
  | .ok value => .ok value
  | .error fault => .error (.malformedPayload fault)

def relationPayload (name : String) (payload : List (String × Json)) : Except Error Json :=
  -- The payload of a relation, which some backends give as JSON text.
  match Keyed.find? name payload with
  | some (.string text) => parse text
  | some value => .ok value
  | none => .ok .null

def relatedOf (entity name : String) (multiplicity : Multiplicity)
    (target : Json → Except Error Entity) (payload : Json) :
    Except Error (Option (Related Entity)) :=
  match multiplicity, payload with
  | .many, .null => .ok (some (.many []))
  | .many, .array items => (items.mapM target).map fun entities => some (.many entities)
  | .one, .null => .ok none
  | .one, .object members => (target (.object members)).map fun entity => some (.one entity)
  | _, other => .error (.materialize (.relation entity name other))

def entityWith (schema : Schema) (entity : String) (fields : Option Fields)
    (relations : List (String × Json) → Except Error (List (String × Related Entity)))
    (payload : Json) : Except Error Entity :=
  match payload with
  | .object members => do
    let names ← schema.fieldNames entity
    let (attributes, rest) :=
      takeAttributes schema entity [] members (Fields.project fields names)
    return { model := entity, attributes, relations := ← relations rest }
  | other => .error (.materialize (.notObject entity other))

mutual

def entityOf (schema : Schema) (entity : String) : Filter → Json → Except Error Entity
  | ⟨_, _, _, _, fields, includes⟩ =>
    entityWith schema entity fields (relationsOf schema entity includes [])

def relationsOf (schema : Schema) (entity : String) :
    List (Include Filter) → List (String × Related Entity) → List (String × Json) →
      Except Error (List (String × Related Entity))
  | [], relations, _ => .ok relations
  | ⟨name, scope⟩ :: rest, relations, payload => do
    let relation ← schema.relation entity name
    let value ← relationPayload name payload
    let target := match scope with
      | none => entityWith schema relation.target none (fun _ => .ok [])
      | some scope => entityOf schema relation.target scope
    let related ← relatedOf entity name relation.multiplicity target value
    let relations := related.elim relations fun related => Keyed.insert name related relations
    relationsOf schema entity rest relations (Keyed.erase name payload)

end

def valueEntities (schema : Schema) (entity : String) (filter : Filter) :
    Json → Except Error (List Entity)
  | .null => .ok []
  | .array items => items.mapM (entityOf schema entity filter)
  | .object members => do return [← entityOf schema entity filter (.object members)]
  | other => .error (.materialize (.neitherObjectNorArray entity other))

def rowEntities (schema : Schema) (entity : String) (filter : Filter) :
    Row → Except Error (List Entity)
  | none => .ok []
  | some text => do valueEntities schema entity filter (← parse text)

end Materialize

def materialize (schema : Schema) (entity : String) (filter : Filter) (rows : List Row) :
    Except Error (List Entity) :=
  (rows.mapM (Materialize.rowEntities schema entity filter)).map List.flatten

end NestedQuery
