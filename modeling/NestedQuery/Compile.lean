import NestedQuery.Schema.Basic
import NestedQuery.Sql.Writer

set_option autoImplicit false

namespace NestedQuery

structure Options where
  tableAlias : Alias := .first
  -- SQL of the caller's own: a clause behind the root table, a condition before the predicate.
  join : Option String := none
  restriction : Option String := none
  plural : Bool := false

namespace Compile

open Sql

structure Level where
  tableAlias : Alias
  join : Option Join
  correlation : Option Correlation
  plural : Bool
  implicitLimit : Option UInt64

def Level.ofOptions (options : Options) : Level where
  tableAlias := options.tableAlias
  join := options.join.map .given
  correlation := options.restriction.map .given
  plural := options.plural
  implicitLimit := none

def column (schema : Schema) (entity : String) (tableAlias : Alias) (field : String) : Column :=
  ⟨tableAlias, schema.columnName entity field⟩

def operand (schema : Schema) (entity field : String) (literal : Literal) : Except Error Operand :=
  match literal.toOperand (schema.fieldType entity field) with
  | .ok operand => .ok operand
  | .error fault => .error (.invalidLiteral field fault)

def resolveTest (resolve : Literal → Except Error Operand) :
    Test Literal → Except Error (Test Operand)
  | .compare comparison value => (resolve value).map (.compare comparison)
  | .isNull => .ok .isNull
  | .isNotNull => .ok .isNotNull
  | .between low high => do return .between (← resolve low) (← resolve high)
  | .oneOf values => (values.mapM resolve).map .oneOf
  | .noneOf values => (values.mapM resolve).map .noneOf
  | .like pattern => .ok (.like pattern)
  | .notLike pattern => .ok (.notLike pattern)

mutual

def resolve (schema : Schema) (entity : String) (tableAlias : Alias) :
    Where → Except Error Predicate
  | .leaf ⟨field, test⟩ =>
    (resolveTest (operand schema entity field) test).map fun test =>
      .leaf ⟨column schema entity tableAlias field, test⟩
  | .group connective parts =>
    if parts.isEmpty then .error (.invalidFilter (.emptyGroup connective))
    else (resolveParts schema entity tableAlias parts).map (.group connective)

def resolveParts (schema : Schema) (entity : String) (tableAlias : Alias) :
    List Where → Except Error (List Predicate)
  | [] => .ok []
  | part :: rest => do
    return (← resolve schema entity tableAlias part) ::
      (← resolveParts schema entity tableAlias rest)

end

def resolveOrder (schema : Schema) (entity : String) (tableAlias : Alias) (order : List OrderBy) :
    List OrderItem :=
  order.map fun entry => ⟨column schema entity tableAlias entry.field, entry.direction⟩

def pageOf (filter : Filter) (level : Level) : Option Page :=
  (filter.limit.or level.implicitLimit).map fun limit => ⟨limit, filter.skip⟩

def sourceOf (adapter : Adapter) (plural : Bool) (rows : Rows) : Source :=
  if plural && (rows.page.isSome || !rows.order.isEmpty) then
    .derived rows (!rows.order.isEmpty && adapter.windowed)
  else .direct rows

def rowsOf (schema : Schema) (entity : String) (filter : Filter) (place : Level) (table : String)
    (predicate : Option Predicate) : Rows where
  table
  tableAlias := place.tableAlias
  join := place.join
  correlation := place.correlation
  predicate
  order := resolveOrder schema entity place.tableAlias filter.order
  page := pageOf filter place

def columnsOf (schema : Schema) (entity : String) (filter : Filter) (place : Level)
    (names : List String) : List (String × Column) :=
  (Fields.project filter.fields names).map fun field =>
    (field, column schema entity place.tableAlias field)

def level (schema : Schema) (adapter : Adapter) (entity : String) (filter : Filter) (place : Level)
    (relations : Except Error (List (String × Select) × Alias)) :
    Except Error (Select × Alias) := do
  let table ← schema.tableName entity
  let names ← schema.fieldNames entity
  let (relations, last) ← relations
  let _ ← adapter.require (if place.plural then .arrays else .objects)
  let predicate ← filter.condition.mapM (resolve schema entity place.tableAlias)
  let source := sourceOf adapter place.plural (rowsOf schema entity filter place table predicate)
  return (⟨place.plural, columnsOf schema entity filter place names, relations, source⟩, last)

def correlationOf (schema : Schema) (entity : String) (parent tableAlias : Alias)
    (relation : Relation) : Correlation :=
  match relation.kind with
  | .belongsTo =>
    .equal (column schema relation.target tableAlias relation.ownerKey)
      (column schema entity parent relation.foreignKey)
  | .hasOne | .hasMany =>
    .equal (column schema relation.target tableAlias relation.foreignKey)
      (column schema entity parent relation.ownerKey)

def directLevel (schema : Schema) (entity : String) (parent tableAlias : Alias)
    (relation : Relation) : Level where
  tableAlias
  join := none
  correlation := some (correlationOf schema entity parent tableAlias relation)
  plural := relation.multiplicity = .many
  implicitLimit := if relation.multiplicity = .many then none else some 1

def throughLevel (schema : Schema) (entity : String) (parent joinAlias tableAlias : Alias)
    (relation : Relation) (through : Through) (table : String) : Level where
  tableAlias
  join := some (.inner table joinAlias
    (column schema through.entity joinAlias through.keyToTarget)
    (column schema relation.target tableAlias through.targetKey))
  correlation := some (.equal (column schema through.entity joinAlias through.keyToOwner)
    (column schema entity parent relation.ownerKey))
  plural := true
  implicitLimit := none

def levelOf (schema : Schema) (entity : String) (parent last : Alias) (relation : Relation) :
    Except Error Level := do
  match relation.through with
  | none => return directLevel schema entity parent (← last.next) relation
  | some through =>
    let joinAlias ← last.next
    let tableAlias ← joinAlias.next
    let table ← schema.tableName through.entity
    return throughLevel schema entity parent joinAlias tableAlias relation through table

mutual

def plan (schema : Schema) (adapter : Adapter) (entity : String) (place : Level) :
    Filter → Except Error (Select × Alias)
  | ⟨condition, order, limit, skip, fields, includes⟩ =>
    level schema adapter entity ⟨condition, order, limit, skip, fields, includes⟩ place
      (planIncludes schema adapter entity place.tableAlias place.tableAlias includes)

def planIncludes (schema : Schema) (adapter : Adapter) (entity : String) (parent last : Alias) :
    List (Include Filter) → Except Error (List (String × Select) × Alias)
  | [] => .ok ([], last)
  | ⟨name, scope⟩ :: rest => do
    let relation ← schema.relation entity name
    let place ← levelOf schema entity parent last relation
    let (select, last) ← match scope with
      | none => level schema adapter relation.target {} place (.ok ([], place.tableAlias))
      | some scope => plan schema adapter relation.target place scope
    let (others, last) ← planIncludes schema adapter entity parent last rest
    return ((name, select) :: others, last)

end

end Compile

def statement (schema : Schema) (adapter : Adapter) (entity : String) (filter : Filter)
    (options : Options) : Except Error Sql.Select :=
  (Compile.plan schema adapter entity (.ofOptions options) filter).map Prod.fst

def compile (schema : Schema) (adapter : Adapter) (entity : String) (filter : Filter)
    (options : Options) : Except Error String := do
  let select ← statement schema adapter entity filter options
  let aggregates ← adapter.require (if options.plural then .arrays else .objects)
  return select.write adapter aggregates

end NestedQuery
