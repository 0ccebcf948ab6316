import NestedQuery.Literal

set_option autoImplicit false

namespace NestedQuery

inductive RelationKind
  -- In `belongsTo` the owner holds the foreign key, in the others the target does.
  | belongsTo
  | hasOne
  | hasMany
deriving DecidableEq

inductive Multiplicity
  | one
  | many
deriving DecidableEq

def defaultKey : String := "id"

structure Through where
  entity : String
  keyToOwner : String
  keyToTarget : String
  targetKey : String := defaultKey
deriving DecidableEq

structure Relation where
  target : String
  kind : RelationKind
  foreignKey : String := ""
  ownerKey : String := defaultKey
  through : Option Through := none
deriving DecidableEq

namespace Relation

def belongsTo (target key : String) : Relation := { target, kind := .belongsTo, foreignKey := key }

def hasOne (target key : String) : Relation := { target, kind := .hasOne, foreignKey := key }

def hasMany (target key : String) : Relation := { target, kind := .hasMany, foreignKey := key }

def hasManyThrough (target join keyToOwner keyToTarget : String) : Relation :=
  { target, kind := .hasMany, through := some { entity := join, keyToOwner, keyToTarget } }

def withOwnerKey (relation : Relation) (key : String) : Relation :=
  { relation with ownerKey := key }

def multiplicity (relation : Relation) : Multiplicity :=
  match relation.through, relation.kind with
  | some _, _ => .many
  | none, .hasMany => .many
  | none, .belongsTo | none, .hasOne => .one

end Relation

structure Field where
  name : String
  column : Option String := none
  type : FieldType := .scalar
deriving DecidableEq

structure EntityDef where
  table : Option String := none
  id : String := defaultKey
  fields : List Field := []
  relations : Catalog Relation := .empty

namespace EntityDef

def ofTable (table : String) : EntityDef := { table := some table }

def withTypedField (entity : EntityDef) (name column : String) (type : FieldType) : EntityDef :=
  let column := if column = name then none else some column
  { entity with fields := entity.fields ++ [{ name, column, type }] }

def withField (entity : EntityDef) (name : String) : EntityDef :=
  entity.withTypedField name name .scalar

def withId (entity : EntityDef) (field : String) : EntityDef := { entity with id := field }

def withRelation (entity : EntityDef) (name : String) (relation : Relation) : EntityDef :=
  { entity with relations := entity.relations.insert name relation }

def field? (entity : EntityDef) (name : String) : Option Field :=
  entity.fields.find? (fun field => field.name = name)

end EntityDef

structure Schema where
  entities : Catalog EntityDef := .empty

namespace Schema

instance : Inhabited Schema := ⟨{}⟩

def withEntity (schema : Schema) (name : String) (entity : EntityDef) : Schema :=
  { schema with entities := schema.entities.insert name entity }

def entity (schema : Schema) (name : String) : Except Error EntityDef :=
  match schema.entities.find? name with
  | some entity => .ok entity
  | none => .error (.unknownEntity name)

def tableName (schema : Schema) (entity : String) : Except Error String :=
  (schema.entity entity).map fun definition => definition.table.getD entity

def fieldNames (schema : Schema) (entity : String) : Except Error (List String) :=
  (schema.entity entity).map fun definition => definition.fields.map Field.name

def field? (schema : Schema) (entity field : String) : Option Field :=
  (schema.entities.find? entity).bind fun definition => definition.field? field

def columnName (schema : Schema) (entity field : String) : String :=
  ((schema.field? entity field).bind Field.column).getD field

def fieldType (schema : Schema) (entity field : String) : FieldType :=
  ((schema.field? entity field).map Field.type).getD .scalar

def relation (schema : Schema) (entity relation : String) : Except Error Relation := do
  match (← schema.entity entity).relations.find? relation with
  | some found => return found
  | none => .error (.unknownRelation entity relation)

def idField (schema : Schema) (entity : String) : String :=
  ((schema.entities.find? entity).map EntityDef.id).getD defaultKey

end Schema

end NestedQuery
