import NestedQuery.Proofs.IncludeTree
import NestedQuery.Proofs.Taking
import NestedQuery.Proofs.Values

set_option autoImplicit false

namespace NestedQuery

namespace Schema

structure SameLookups (schema schema' : Schema) : Prop where
  tableName : ∀ entity, schema'.tableName entity = schema.tableName entity
  fieldNames : ∀ entity, schema'.fieldNames entity = schema.fieldNames entity
  columnName : ∀ entity field, schema'.columnName entity field = schema.columnName entity field
  fieldType : ∀ entity field, schema'.fieldType entity field = schema.fieldType entity field
  relation : ∀ entity name, schema'.relation entity name = schema.relation entity name
  idField : ∀ entity, schema'.idField entity = schema.idField entity

end Schema

namespace Compile

variable {schema schema' : Schema} {adapter : Adapter}

theorem column_same (same : schema.SameLookups schema') : column schema' = column schema := by
  funext entity tableAlias field
  rw [column, column, same.columnName]

theorem operand_same (same : schema.SameLookups schema') : operand schema' = operand schema := by
  funext entity field literal
  rw [operand, operand, same.fieldType]

theorem resolve_same (same : schema.SameLookups schema') (entity : String) (tableAlias : Alias)
    (tree : Where) :
    resolve schema' entity tableAlias tree = resolve schema entity tableAlias tree := by
  induction tree using Formula.induction with
  | leaf leaf => rw [resolve, resolve, operand_same same, column_same same]
  | group connective parts ih =>
    have partsSame : resolveParts schema' entity tableAlias parts =
        resolveParts schema entity tableAlias parts := by
      induction parts with
      | nil => rfl
      | cons part rest restSame =>
        rw [List.forall_mem_cons] at ih
        rw [resolveParts, resolveParts, ih.1, restSame ih.2]
    rw [resolve, resolve, partsSame]

theorem level_same (same : schema.SameLookups schema') (entity : String) (filter : Filter)
    (place : Level) (relations : Except Error (List (String × Sql.Select) × Alias)) :
    level schema' adapter entity filter place relations =
      level schema adapter entity filter place relations := by
  have predicate : resolve schema' entity place.tableAlias =
      resolve schema entity place.tableAlias := funext (resolve_same same entity place.tableAlias)
  simp only [level, same.tableName, same.fieldNames, predicate, columnsOf, rowsOf, resolveOrder,
    column_same same]

theorem levelOf_same (same : schema.SameLookups schema') (entity : String) (parent last : Alias)
    (relation : Relation) :
    levelOf schema' entity parent last relation = levelOf schema entity parent last relation := by
  simp only [levelOf, same.tableName, directLevel, throughLevel, correlationOf, column_same same]

theorem planIncludes_same (same : schema.SameLookups schema') {includes : List (Include Filter)}
    (scopes : ∀ included ∈ includes, ∀ entity place,
      plan schema' adapter entity place (included.scope.getD {}) =
        plan schema adapter entity place (included.scope.getD {}))
    (entity : String) (parent last : Alias) :
    planIncludes schema' adapter entity parent last includes =
      planIncludes schema adapter entity parent last includes := by
  induction includes generalizing last with
  | nil => simp only [planIncludes]
  | cons included rest ih =>
    rw [List.forall_mem_cons] at scopes
    rw [planIncludes_cons, planIncludes_cons]
    simp only [same.relation, levelOf_same same, scopes.1, ih scopes.2]

theorem plan_same (same : schema.SameLookups schema') (entity : String) (place : Level)
    (filter : Filter) :
    plan schema' adapter entity place filter = plan schema adapter entity place filter := by
  induction filter using Filter.induction generalizing entity place with
  | level filter ih =>
    have scopes := planIncludes_same same fun included mem entity place =>
      ih included mem entity place
    rw [plan_eq_level, plan_eq_level, level_same same, scopes]

end Compile

theorem Schema.SameLookups.compile_eq {schema schema' : Schema} (same : schema.SameLookups schema')
    (adapter : Adapter) (entity : String) (filter : Filter) (options : Options) :
    compile schema' adapter entity filter options =
      compile schema adapter entity filter options := by
  rw [compile, compile, statement, statement, Compile.plan_same same]

def WrittenOut (default : String) (given given' : Option String) : Prop :=
  given' = given ∨ given = none ∧ given' = some default

theorem WrittenOut.getD_eq {default : String} {given given' : Option String}
    (written : WrittenOut default given given') : given'.getD default = given.getD default := by
  rcases written with rfl | ⟨rfl, rfl⟩ <;> rfl

structure Field.WrittenOut (field field' : Field) : Prop where
  name : field'.name = field.name
  column : NestedQuery.WrittenOut field.name field.column field'.column
  type : field'.type = field.type

structure EntityDef.WrittenOut (name : String) (entity entity' : EntityDef) : Prop where
  table : NestedQuery.WrittenOut name entity.table entity'.table
  id : entity'.id = entity.id
  fields : List.Forall₂ Field.WrittenOut entity.fields entity'.fields
  relations : entity'.relations = entity.relations

def Schema.WrittenOut (schema schema' : Schema) : Prop :=
  List.Forall₂ (fun entry entry' => entry'.1 = entry.1 ∧ entry.2.WrittenOut entry.1 entry'.2)
    schema.entities.entries schema'.entities.entries

theorem Keyed.rel_find? {α β : Type} {related : String → α → β → Prop}
    {entries : List (String × α)} {entries' : List (String × β)}
    (each : List.Forall₂
      (fun entry entry' => entry'.1 = entry.1 ∧ related entry.1 entry.2 entry'.2) entries entries')
    (name : String) :
    Option.Rel (related name) (find? name entries) (find? name entries') := by
  induction each with
  | nil => exact .none
  | cons first _ ih =>
    rw [find?, find?, first.1]
    split
    next here => exact .some (here ▸ first.2)
    · exact ih

theorem EntityDef.WrittenOut.field? {name : String} {entity entity' : EntityDef}
    (written : entity.WrittenOut name entity') (field : String) :
    Option.Rel (fun found found' => found.name = field ∧ found.WrittenOut found')
      (entity.field? field) (entity'.field? field) := by
  have fields := written.fields
  rw [EntityDef.field?, EntityDef.field?]
  generalize entity.fields = given, entity'.fields = given' at fields
  induction fields with
  | nil => exact .none
  | cons first _ ih =>
    rw [List.find?_cons, List.find?_cons, first.name]
    split
    next here => exact .some ⟨by simpa using here, first⟩
    · exact ih

theorem EntityDef.WrittenOut.names {name : String} {entity entity' : EntityDef}
    (written : entity.WrittenOut name entity') :
    entity'.fields.map Field.name = entity.fields.map Field.name := by
  have fields := written.fields
  generalize entity.fields = given, entity'.fields = given' at fields
  induction fields with
  | nil => rfl
  | cons first _ ih => rw [List.map_cons, List.map_cons, first.name, ih]

namespace Schema.WrittenOut

variable {schema schema' : Schema}

theorem find? (written : schema.WrittenOut schema') (name : String) :
    Option.Rel (EntityDef.WrittenOut name) (schema.entities.find? name)
      (schema'.entities.find? name) :=
  Keyed.rel_find? written name

theorem field? (written : schema.WrittenOut schema') (entity field : String) :
    Option.Rel (fun found found' => found.name = field ∧ found.WrittenOut found')
      (schema.field? entity field) (schema'.field? entity field) :=
  rel_bind (written.find? entity) fun _ _ definition => definition.field? field

theorem sameLookups (written : schema.WrittenOut schema') : schema.SameLookups schema' where
  tableName entity := by
    rcases rel_cases (written.find? entity) with ⟨here, here'⟩ | ⟨_, _, here, here', definition⟩
    · simp [Schema.tableName, Schema.entity, here, here']
    · simp [Schema.tableName, Schema.entity, here, here', Except.map, definition.table.getD_eq]
  fieldNames entity := by
    rcases rel_cases (written.find? entity) with ⟨here, here'⟩ | ⟨_, _, here, here', definition⟩
    · simp [Schema.fieldNames, Schema.entity, here, here']
    · simp [Schema.fieldNames, Schema.entity, here, here', Except.map, definition.names]
  columnName entity field := by
    rcases rel_cases (written.field? entity field) with ⟨here, here'⟩ | ⟨_, _, here, here', known⟩
    · simp [Schema.columnName, here, here']
    · have column := known.2.column.getD_eq
      rw [known.1] at column
      simp [Schema.columnName, here, here', column]
  fieldType entity field := by
    rcases rel_cases (written.field? entity field) with ⟨here, here'⟩ | ⟨_, _, here, here', known⟩
    · simp [Schema.fieldType, here, here']
    · simp [Schema.fieldType, here, here', known.2.type]
  relation entity name := by
    rcases rel_cases (written.find? entity) with ⟨here, here'⟩ | ⟨_, _, here, here', definition⟩
    · simp [Schema.relation, Schema.entity, here, here']
    · simp [Schema.relation, Schema.entity, here, here', definition.relations]
  idField entity := by
    rcases rel_cases (written.find? entity) with ⟨here, here'⟩ | ⟨_, _, here, here', definition⟩
    · simp [Schema.idField, here, here']
    · simp [Schema.idField, here, here', definition.id]

end Schema.WrittenOut

end NestedQuery
