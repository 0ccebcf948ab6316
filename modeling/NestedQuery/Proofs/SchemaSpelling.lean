import NestedQuery.Proofs.Records
import NestedQuery.Proofs.SchemaLookups
import NestedQuery.Schema.OfDocument

set_option autoImplicit false

namespace NestedQuery

open Document

structure Through.SpelledBy (through : Through) (members : List (String × Json)) : Prop where
  entity : Written members ["entity"] (IsText through.entity) False
  keyToOwner : Written members ["key_to_owner", "keyToOwner"] (IsText through.keyToOwner) False
  keyToTarget : Written members ["key_to_target", "keyToTarget"] (IsText through.keyToTarget) False
  targetKey : Written members ["target_key", "targetKey"] (IsText through.targetKey)
    (through.targetKey = defaultKey)

structure Relation.SpelledBy (relation : Relation) (members : List (String × Json)) : Prop where
  target : Written members ["target"] (IsText relation.target) False
  kind : Written members ["kind"] (IsChoice RelationKind.choices relation.kind) False
  foreignKey : Written members ["foreign_key", "foreignKey"] (IsText relation.foreignKey)
    (relation.foreignKey = "")
  ownerKey : Written members ["owner_key", "ownerKey"] (IsText relation.ownerKey)
    (relation.ownerKey = defaultKey)
  through : Written members ["through"] (IsOptional (IsRecord Through.SpelledBy) relation.through)
    (relation.through = none)

structure Field.SpelledBy (field : Field) (members : List (String × Json)) : Prop where
  name : Written members ["name"] (IsText field.name) False
  column : Written members ["column"] (IsOptional IsText field.column) (field.column = none)
  type : Written members ["type"] (IsChoice FieldType.choices field.type) (field.type = .scalar)

structure EntityDef.SpelledBy (entity : EntityDef) (members : List (String × Json)) : Prop where
  table : Written members ["table"] (IsOptional IsText entity.table) (entity.table = none)
  id : Written members ["id"] (IsText entity.id) (entity.id = defaultKey)
  fields : Written members ["fields"] (IsList (IsRecord Field.SpelledBy) entity.fields)
    (entity.fields = [])
  relations : Written members ["relations"]
    (IsCatalog (IsRecord Relation.SpelledBy) entity.relations) (entity.relations = .empty)

structure Schema.SpelledBy (schema : Schema) (members : List (String × Json)) : Prop where
  entities : Written members ["entities"]
    (IsCatalog (IsRecord EntityDef.SpelledBy) schema.entities) (schema.entities = .empty)

theorem not_isText_null (text : String) : ¬ IsText text .null := nofun

theorem not_isRecord_null {α : Type} (spelled : α → List (String × Json) → Prop) (a : α) :
    ¬ IsRecord spelled a .null := nofun

theorem Through.decodes : Decodes (IsRecord Through.SpelledBy) (Through.ofDocument .json) := by
  intro through value meant
  obtain ⟨members, rfl, spelled⟩ := meant
  -- The members are checked in their own order first, then each field is read.
  have fits : ∀ slot ∈ shape.slots, slot.Fits (Json.toEntries members) := by
    simp only [shape, List.forall_mem_cons]
    exact ⟨spelled.entity.fits _ (fun _ => rfl) decodes_text,
      spelled.keyToOwner.fits _ (fun _ => rfl) decodes_text,
      spelled.keyToTarget.fits _ (fun _ => rfl) decodes_text,
      spelled.targetKey.fits _ (fun _ => rfl) decodes_text, by simp⟩
  have read := Shape.members_object rfl (by decide) fits
  refine bind_eq_ok.2 ⟨_, read, ?_⟩
  refine bind_eq_ok.2 ⟨_, spelled.entity.required (.of "entity" readText) decodes_text rfl, ?_⟩
  refine bind_eq_ok.2 ⟨_, spelled.keyToOwner.required
    ((Slot.of "key_to_owner" readText).orAs "keyToOwner") decodes_text rfl, ?_⟩
  refine bind_eq_ok.2 ⟨_, spelled.keyToTarget.required
    ((Slot.of "key_to_target" readText).orAs "keyToTarget") decodes_text rfl, ?_⟩
  refine bind_eq_ok.2 ⟨_, spelled.targetKey.field
    ((Slot.of "target_key" readText).orAs "targetKey") decodes_text rfl, ?_⟩
  rfl

theorem Relation.decodes : Decodes (IsRecord Relation.SpelledBy) (Relation.ofDocument .json) := by
  intro relation value meant
  obtain ⟨members, rfl, spelled⟩ := meant
  have through := Through.decodes.optional (not_isRecord_null Through.SpelledBy)
  have kind := decodes_choice .json RelationKind.choices
  have fits : ∀ slot ∈ (shape .json).slots, slot.Fits (Json.toEntries members) := by
    simp only [shape, List.forall_mem_cons]
    exact ⟨spelled.target.fits _ (fun _ => rfl) decodes_text,
      spelled.kind.fits _ (fun _ => rfl) kind,
      spelled.foreignKey.fits _ (fun _ => rfl) decodes_text,
      spelled.ownerKey.fits _ (fun _ => rfl) decodes_text,
      spelled.through.fits _ (fun _ => rfl) through, by simp⟩
  have read := Shape.members_object rfl (by decide) fits
  refine bind_eq_ok.2 ⟨_, read, ?_⟩
  refine bind_eq_ok.2 ⟨_, spelled.target.required (.of "target" readText) decodes_text rfl, ?_⟩
  refine bind_eq_ok.2 ⟨_, spelled.kind.required (.of "kind" _) kind rfl, ?_⟩
  refine bind_eq_ok.2 ⟨_, spelled.foreignKey.field
    ((Slot.of "foreign_key" readText).orAs "foreignKey") decodes_text rfl, ?_⟩
  refine bind_eq_ok.2 ⟨_, spelled.ownerKey.field
    ((Slot.of "owner_key" readText).orAs "ownerKey") decodes_text rfl, ?_⟩
  exact bind_eq_ok.2 ⟨_, spelled.through.field (.of "through" _) through rfl, rfl⟩

theorem Field.decodes : Decodes (IsRecord Field.SpelledBy) (Field.ofDocument .json) := by
  intro field value meant
  obtain ⟨members, rfl, spelled⟩ := meant
  have column := decodes_text.optional not_isText_null
  have type := decodes_choice .json FieldType.choices
  have fits : ∀ slot ∈ (shape .json).slots, slot.Fits (Json.toEntries members) := by
    simp only [shape, List.forall_mem_cons]
    exact ⟨spelled.name.fits _ (fun _ => rfl) decodes_text,
      spelled.column.fits _ (fun _ => rfl) column, spelled.type.fits _ (fun _ => rfl) type, by simp⟩
  have read := Shape.members_object rfl (by decide) fits
  refine bind_eq_ok.2 ⟨_, read, ?_⟩
  refine bind_eq_ok.2 ⟨_, spelled.name.required (.of "name" readText) decodes_text rfl, ?_⟩
  refine bind_eq_ok.2 ⟨_, spelled.column.field (.of "column" _) column rfl, ?_⟩
  exact bind_eq_ok.2 ⟨_, spelled.type.field (.of "type" _) type rfl, rfl⟩

theorem EntityDef.decodes :
    Decodes (IsRecord EntityDef.SpelledBy) (EntityDef.ofDocument .json) := by
  intro entity value meant
  obtain ⟨members, rfl, spelled⟩ := meant
  have table := decodes_text.optional not_isText_null
  have fields := Field.decodes.list
  have relations := Relation.decodes.catalog
  have fits : ∀ slot ∈ (shape .json).slots, slot.Fits (Json.toEntries members) := by
    simp only [shape, List.forall_mem_cons]
    exact ⟨spelled.table.fits _ (fun _ => rfl) table,
      spelled.id.fits _ (fun _ => rfl) decodes_text, spelled.fields.fits _ (fun _ => rfl) fields,
      spelled.relations.fits _ (fun _ => rfl) relations, by simp⟩
  have read := Shape.members_object rfl (by decide) fits
  refine bind_eq_ok.2 ⟨_, read, ?_⟩
  refine bind_eq_ok.2 ⟨_, spelled.table.field (.of "table" _) table rfl, ?_⟩
  refine bind_eq_ok.2 ⟨_, spelled.id.field (.of "id" readText) decodes_text rfl, ?_⟩
  refine bind_eq_ok.2 ⟨_, spelled.fields.field (.of "fields" _) fields rfl, ?_⟩
  exact bind_eq_ok.2 ⟨_, spelled.relations.field (.of "relations" _) relations rfl, rfl⟩

theorem Schema.decodes : Decodes (IsRecord Schema.SpelledBy) (Schema.ofDocument .json) := by
  intro schema value meant
  obtain ⟨members, rfl, spelled⟩ := meant
  have entities := EntityDef.decodes.catalog
  have fits : ∀ slot ∈ (shape .json).slots, slot.Fits (Json.toEntries members) := by
    simp only [shape, List.forall_mem_cons]
    exact ⟨spelled.entities.fits _ (fun _ => rfl) entities, by simp⟩
  have read := Shape.members_object rfl (by decide) fits
  refine bind_eq_ok.2 ⟨_, read, ?_⟩
  exact bind_eq_ok.2 ⟨_, spelled.entities.field (.of "entities" _) entities rfl, rfl⟩

/-- What spells a schema is read as that schema, and neither lookups nor statements show whether
tables and columns with the names of their entities and fields are written out. -/
theorem Schema.ofJson_spelled {schema schema' : Schema} {value : Json}
    (written : schema.WrittenOut schema') (spelled : IsRecord Schema.SpelledBy schema' value) :
    Schema.ofJson value = .ok schema' ∧ schema.SameLookups schema' ∧
      ∀ adapter entity filter options, compile schema' adapter entity filter options =
        compile schema adapter entity filter options :=
  ⟨Schema.decodes schema' value spelled, written.sameLookups, written.sameLookups.compile_eq⟩

namespace Sample

def userTags : Relation := .hasManyThrough "Tag" "UserTag" "userId" "tagId"

def tagged : Schema :=
  Schema.withEntity {} "Tag" (.ofTable "tags")
    |>.withEntity "User"
      { fields := [{ name := "id" }, { name := "born", type := .date }]
        relations := Catalog.empty.insert "tags" userTags }

def taggedOut : Schema :=
  Schema.withEntity {} "Tag" (.ofTable "tags")
    |>.withEntity "User"
      { table := some "User"
        fields := [{ name := "id" }, { name := "born", column := some "born", type := .date }]
        relations := Catalog.empty.insert "tags" userTags }

def through : List (String × Json) :=
  [("keyToTarget", .string "tagId"), ("entity", .string "UserTag"),
    ("key_to_owner", .string "userId")]

def relation : List (String × Json) :=
  [("through", .object through), ("note", .null), ("kind", .string "hasMany"),
    ("target", .string "Tag"), ("ownerKey", .string "id")]

def born : List (String × Json) :=
  [("type", .string "date"), ("column", .string "born"), ("name", .string "born")]

def user : List (String × Json) :=
  [("relations", .object [("tags", .object relation)]), ("table", .string "User"),
    ("fields", .array [.object [("name", .string "id"), ("column", .null)], .object born])]

def document : List (String × Json) :=
  [("version", .string "1"),
    ("entities", .object [("User", .object user), ("Tag", .object [("table", .string "tags")])])]

end Sample

theorem Schema.ofJson_spelled_tagged : Sample.tagged.WrittenOut Sample.taggedOut ∧
    IsRecord Schema.SpelledBy Sample.taggedOut (.object Sample.document) ∧
    Schema.ofJson (.object Sample.document) = .ok Sample.taggedOut ∧
    Sample.tagged.SameLookups Sample.taggedOut := by
  have written : Sample.tagged.WrittenOut Sample.taggedOut := by
    refine .cons ⟨rfl, .inl rfl, rfl, .nil, rfl⟩ (.cons ⟨rfl, .inr ⟨rfl, rfl⟩, rfl, ?_, rfl⟩ .nil)
    exact .cons ⟨rfl, .inl rfl, rfl⟩ (.cons ⟨rfl, .inr ⟨rfl, rfl⟩, rfl⟩ .nil)
  have through : Through.SpelledBy ⟨"UserTag", "userId", "tagId", defaultKey⟩ Sample.through :=
    ⟨.given rfl rfl, .given rfl rfl, .given rfl rfl, .leftOut rfl rfl⟩
  have relation : Sample.userTags.SpelledBy Sample.relation :=
    ⟨.given rfl rfl, .given rfl ⟨_, rfl, rfl⟩, .leftOut rfl rfl, .given rfl rfl,
      .given rfl ⟨_, rfl, through⟩⟩
  have born : Field.SpelledBy ⟨"born", some "born", .date⟩ Sample.born :=
    ⟨.given rfl rfl, .given rfl rfl, .given rfl ⟨_, rfl, rfl⟩⟩
  have id : Field.SpelledBy { name := "id" } [("name", .string "id"), ("column", .null)] :=
    ⟨.given rfl rfl, .given rfl rfl, .leftOut rfl rfl⟩
  have user : EntityDef.SpelledBy
      { table := some "User"
        fields := [{ name := "id" }, { name := "born", column := some "born", type := .date }]
        relations := Catalog.empty.insert "tags" Sample.userTags } Sample.user :=
    ⟨.given rfl rfl, .leftOut rfl rfl,
      .given rfl ⟨_, rfl, .cons ⟨_, rfl, id⟩ (.cons ⟨_, rfl, born⟩ .nil)⟩,
      .given rfl ⟨_, [("tags", Sample.userTags)], rfl, .refl _,
        .cons ⟨rfl, _, rfl, relation⟩ .nil⟩⟩
  have tag : EntityDef.SpelledBy (.ofTable "tags") [("table", .string "tags")] :=
    ⟨.given rfl rfl, .leftOut rfl rfl, .leftOut rfl rfl, .leftOut rfl rfl⟩
  have spelled : IsRecord Schema.SpelledBy Sample.taggedOut (.object Sample.document) :=
    ⟨_, rfl, ⟨.given rfl ⟨_, [("User", _), ("Tag", _)], rfl, .swap _ _ _,
      .cons ⟨rfl, _, rfl, user⟩ (.cons ⟨rfl, _, rfl, tag⟩ .nil)⟩⟩⟩
  obtain ⟨decoded, same, -⟩ := Schema.ofJson_spelled written spelled
  exact ⟨written, spelled, decoded, same⟩

end NestedQuery
