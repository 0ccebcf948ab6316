import NestedQuery.Proofs.Aliases
import NestedQuery.Proofs.Database

set_option autoImplicit false

namespace NestedQuery

def Database.equal (db : Database) (a b : Json) : Truth :=
  -- Nothing equals NULL.
  if a.isNull || b.isNull then .unknown else if db.sameKey a b then .holds else .fails

theorem Database.equal_holds (db : Database) (a b : Json) :
    db.equal a b = .holds ↔ db.sameKey a b := by
  unfold equal
  cases a <;> cases b <;> simp [Json.isNull, db.null_sameKey, db.sameKey_null]

namespace Sql

/-- The rows in sight at a place of a statement, the nearest first. -/
abbrev Scope := List (Alias × Record)

namespace Scope

def value (scope : Scope) (column : Column) : Json :=
  match scope.find? fun row => row.1 = column.table with
  | some (_, record) => record column.name
  | none => .null

def record (scope : Scope) (tableAlias : Alias) : Record := fun name => scope.value ⟨tableAlias, name⟩

end Scope

section Rows

variable (db : Database)

def conditionValue (scope : Scope) (condition : Condition Column Operand) : Truth :=
  -- An empty list of values is spelled as a constant, and a denied pattern denies the pattern.
  let value := scope.value condition.subject
  match condition.test with
  | .oneOf [] => .fails
  | .noneOf [] => .holds
  | .notLike pattern => (db.truth (.like pattern) value).not
  | test => db.truth test value

theorem conditionValue_eq (scope : Scope) (condition : Condition Column Operand) :
    conditionValue db scope condition = db.truth condition.test (scope.value condition.subject) := by
  unfold conditionValue
  split
  next same => rw [same, db.truth_in_nothing]
  next same => rw [same, db.truth_not_in_nothing]
  next same => rw [same, db.truth_notLike]
  next => rfl

def Correlation.value (scope : Scope) : Correlation → Truth
  | .equal left right => db.equal (scope.value left) (scope.value right)
  | .given _ => .unknown

def Rows.restriction (rows : Rows) (scope : Scope) : Truth :=
  ((rows.correlation.map (Correlation.value db scope)).getD .holds).and
    ((rows.predicate.map (Formula.value (conditionValue db scope))).getD .holds)

def Join.extend (scope : Scope) : Join → List Scope
  | .inner table tableAlias left right =>
    ((db.rows table).map fun record => (tableAlias, record) :: scope).filter fun scope =>
      db.equal (scope.value left) (scope.value right) = .holds
  | .given _ => []

def Rows.found (rows : Rows) (outer : Scope) : List Scope :=
  let first := (db.rows rows.table).map fun record => (rows.tableAlias, record) :: outer
  let joined := match rows.join with
    | some join => first.flatMap fun scope => join.extend db scope
    | none => first
  joined.filter fun scope => rows.restriction db scope = .holds

def orderKeys (order : List OrderItem) : List (Key Scope) :=
  order.map fun item => (item.direction, fun scope => scope.value item.column)

def Rows.cut (rows : Rows) (outer : Scope) : List Scope :=
  Page.cut rows.page (db.sorted (orderKeys rows.order) (rows.found db outer))

/-- The rows in the order in which they reach the list of what is selected. An aggregate comes
before ordering and cutting unless these stand in a derived table. -/
def Source.arriving (plural : Bool) (outer : Scope) : Source → List Scope
  | .direct rows => if plural then rows.found db outer else rows.cut db outer
  | .derived rows _ =>
    (rows.cut db outer).map fun scope => (rows.tableAlias, scope.record rows.tableAlias) :: outer

def Source.cut {α : Type} (plural : Bool) (values : List α) : Source → List α
  | .direct rows => if plural then Page.cut rows.page values else values
  | .derived _ cutToOne => if cutToOne then values.take 1 else values

end Rows

def Join.columns : Join → List Column
  | .inner _ _ left right => [left, right]
  | .given _ => []

def Correlation.columns : Correlation → List Column
  | .equal left right => [left, right]
  | .given _ => []

def Rows.aliases (rows : Rows) : List Alias := rows.tables.map Prod.snd

def Source.aliases : Source → List Alias
  | .direct rows => rows.aliases
  | .derived rows _ => [rows.tableAlias]

def Rows.columns (rows : Rows) : List Column :=
  rows.join.elim [] Join.columns ++ rows.correlation.elim [] Correlation.columns ++
    rows.predicate.elim [] (fun predicate => predicate.leaves.map Condition.subject) ++
    rows.order.map OrderItem.column

def Rows.isComposed (rows : Rows) : Bool :=
  match rows.join, rows.correlation with
  | some (.given _), _ => false
  | _, some (.given _) => false
  | _, _ => true

def inSight (visible : List Alias) (columns : List Column) : Bool :=
  columns.all fun column => visible.contains column.table

def Source.isWellFormed (visible : List Alias) (columns : List Column) (source : Source) : Bool :=
  source.rows.isComposed && inSight (source.rows.aliases ++ visible) source.rows.columns &&
    inSight (source.aliases ++ visible) (columns ++ source.rows.order.map OrderItem.column)

def arrayRows (dialect : Dialect) (ordered : Bool) (objects : List Json) : List Json :=
  -- The rows of an array: one, or with a window as many as there are elements.
  match dialect, ordered with
  | .mysql, true => objects.map fun _ => .array objects
  | .mysql, false => [if objects.isEmpty then .null else .array objects]
  | .sqlite, _ | .postgresql, _ => [.array objects]

def single {α : Type} (dialect : Dialect) : List α → Option (Option α)
  -- The one row of a subquery, if it has any; SQLite takes the first of several.
  | [] => some none
  | [a] => some (some a)
  | a :: _ :: _ => if dialect = .sqlite then some (some a) else none

theorem single_isSome {α : Type} {dialect : Dialect} {as : List α}
    (one : dialect = .sqlite ∨ as.length ≤ 1) : (single dialect as).isSome := by
  unfold single
  split
  · rfl
  · rfl
  · rcases one with rfl | short
    · rfl
    · simp at short

mutual

def Select.evaluate (db : Database) (dialect : Dialect) :
    Select → Scope → Option (List Json)
  | ⟨plural, columns, relations, source⟩, outer =>
    if source.isWellFormed (outer.map Prod.fst) (columns.map Prod.snd) then
      let order := source.rows.order
      let arriving := source.arriving db plural outer
      let rows :=
        if plural && dialect ≠ .sqlite then db.sorted (orderKeys order) arriving else arriving
      (rows.mapM fun scope =>
        (evaluateRelations db dialect relations scope).map fun members =>
          Json.object
            (columns.map (fun column => (column.1, scope.value column.2)) ++ members)).map
        fun objects =>
          source.cut plural
            (if plural then arrayRows dialect (!order.isEmpty) objects else objects)
    else none

def evaluateRelations (db : Database) (dialect : Dialect) :
    List (String × Select) → Scope → Option (List (String × Json))
  | [], _ => some []
  | (name, select) :: rest, scope =>
    ((select.evaluate db dialect scope).bind (single dialect)).bind fun value =>
      (evaluateRelations db dialect rest scope).map fun others =>
        (name, value.getD .null) :: others

end

end Sql

end NestedQuery
