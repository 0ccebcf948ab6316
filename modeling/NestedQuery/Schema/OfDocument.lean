import NestedQuery.Document
import NestedQuery.Schema.Basic
import NestedQuery.Toml.Decode

set_option autoImplicit false

namespace NestedQuery

open Document

def FieldType.choices : List (String × FieldType) :=
  [("scalar", .scalar), ("boolean", .boolean), ("date", .date)]

def RelationKind.choices : List (String × RelationKind) :=
  [("belongsTo", .belongsTo), ("hasOne", .hasOne), ("hasMany", .hasMany)]

def Through.shape : Shape where
  name := "Through"
  slots :=
    [Slot.of "entity" readText,
     (Slot.of "key_to_owner" readText).orAs "keyToOwner",
     (Slot.of "key_to_target" readText).orAs "keyToTarget",
     (Slot.of "target_key" readText).orAs "targetKey"]

def Through.ofDocument (format : Format) (document : Document) : Except Fault Through := do
  let members ← shape.members document
  let entity ← members.required "entity" readText
  let keyToOwner ← members.required "key_to_owner" readText
  let keyToTarget ← members.required "key_to_target" readText
  let targetKey ← members.field "target_key" readText defaultKey
  shape.checkEnd format document
  return { entity, keyToOwner, keyToTarget, targetKey }

def Relation.shape (format : Format) : Shape where
  name := "RelationMeta"
  slots :=
    [Slot.of "target" readText,
     Slot.of "kind" (readChoice format RelationKind.choices),
     (Slot.of "foreign_key" readText).orAs "foreignKey",
     (Slot.of "owner_key" readText).orAs "ownerKey",
     Slot.of "through" (readOptional (Through.ofDocument format))]

def Relation.ofDocument (format : Format) (document : Document) : Except Fault Relation := do
  let members ← (shape format).members document
  let target ← members.required "target" readText
  let kind ← members.required "kind" (readChoice format RelationKind.choices)
  let foreignKey ← members.field "foreign_key" readText ""
  let ownerKey ← members.field "owner_key" readText defaultKey
  let through ← members.field "through" (readOptional (Through.ofDocument format)) none
  (shape format).checkEnd format document
  return { target, kind, foreignKey, ownerKey, through }

def Field.shape (format : Format) : Shape where
  name := "FieldDef"
  slots :=
    [Slot.of "name" readText,
     Slot.of "column" (readOptional readText),
     Slot.of "type" (readChoice format FieldType.choices)]

def Field.ofDocument (format : Format) (document : Document) : Except Fault Field := do
  let members ← (shape format).members document
  let name ← members.required "name" readText
  let column ← members.field "column" (readOptional readText) none
  let type ← members.field "type" (readChoice format FieldType.choices) .scalar
  (shape format).checkEnd format document
  return { name, column, type }

def EntityDef.shape (format : Format) : Shape where
  name := "EntityDef"
  slots :=
    [Slot.of "table" (readOptional readText),
     Slot.of "id" readText,
     Slot.of "fields" (readList (Field.ofDocument format)),
     Slot.of "relations" (readCatalog (Relation.ofDocument format))]

def EntityDef.ofDocument (format : Format) (document : Document) : Except Fault EntityDef := do
  let members ← (shape format).members document
  let table ← members.field "table" (readOptional readText) none
  let id ← members.field "id" readText defaultKey
  let fields ← members.field "fields" (readList (Field.ofDocument format)) []
  let relations ← members.field "relations" (readCatalog (Relation.ofDocument format)) .empty
  (shape format).checkEnd format document
  return { table, id, fields, relations }

def Schema.shape (format : Format) : Shape where
  name := "Schema"
  slots := [Slot.of "entities" (readCatalog (EntityDef.ofDocument format))]

def Schema.ofDocument (format : Format) (document : Document) : Except Fault Schema := do
  let members ← (shape format).members document
  let entities ← members.field "entities" (readCatalog (EntityDef.ofDocument format)) .empty
  (shape format).checkEnd format document
  return { entities }

def Schema.ofJson (value : Json) : Except Fault Schema := ofDocument .json value.toDocument

def Schema.ofToml (text : String) : Except Toml.Fault Schema :=
  Toml.decode (ofDocument .toml) text

end NestedQuery
