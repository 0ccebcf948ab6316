import NestedQuery.Sql.Adapter
import NestedQuery.Sql.Statement

set_option autoImplicit false

namespace NestedQuery.Sql

def Column.write (dialect : Dialect) (column : Column) : String :=
  column.table.write ++ "." ++ dialect.quoteName column.name

def writeCondition (adapter : Adapter) (condition : Condition Column Operand) : String :=
  -- An empty list of values is spelled as a constant.
  let column := condition.subject.write adapter.dialect
  let operand := Operand.write adapter.dialect
  let list := fun values => "(" ++ ", ".intercalate (values.map operand) ++ ")"
  match condition.test with
  | .compare comparison value => column ++ " " ++ comparison.symbol ++ " " ++ operand value
  | .isNull => column ++ " IS NULL"
  | .isNotNull => column ++ " IS NOT NULL"
  | .between low high => column ++ " BETWEEN " ++ operand low ++ " AND " ++ operand high
  | .oneOf [] => "1 = 0"
  | .oneOf values => column ++ " IN " ++ list values
  | .noneOf [] => "1 = 1"
  | .noneOf values => column ++ " NOT IN " ++ list values
  | .like pattern => adapter.matching column pattern
  | .notLike pattern => adapter.notMatching column pattern

mutual

def writePredicate (adapter : Adapter) : Predicate → String
  -- Every group stands in parentheses, so that it can be a part of another.
  | .leaf condition => writeCondition adapter condition
  | .group connective parts =>
    "(" ++ (" " ++ connective.keyword ++ " ").intercalate (writeParts adapter parts) ++ ")"

def writeParts (adapter : Adapter) : List Predicate → List String
  | [] => []
  | part :: rest => writePredicate adapter part :: writeParts adapter rest

end

def writeEquality (dialect : Dialect) (left right : Column) : String :=
  left.write dialect ++ " = " ++ right.write dialect

def Join.write (dialect : Dialect) : Join → String
  | .inner table tableAlias left right =>
    "INNER JOIN " ++ dialect.quoteName table ++ " AS " ++ tableAlias.write ++ " ON " ++
      writeEquality dialect left right
  | .given text => text

def Correlation.write (dialect : Dialect) : Correlation → String
  | .equal left right => writeEquality dialect left right
  | .given text => text

def OrderItem.write (dialect : Dialect) (item : OrderItem) : String :=
  match item.direction with
  | some direction => item.column.write dialect ++ " " ++ direction.keyword
  | none => item.column.write dialect

def writeOrder (dialect : Dialect) (order : List OrderItem) : String :=
  ", ".intercalate (order.map (OrderItem.write dialect))

def Page.write (page : Page) : String :=
  " LIMIT " ++ toString page.limit.toNat ++
    match page.offset with
    | some offset => " OFFSET " ++ toString offset.toNat
    | none => ""

def Rows.conditions (adapter : Adapter) (rows : Rows) : List String :=
  (rows.correlation.map (Correlation.write adapter.dialect)).toList ++
    (rows.predicate.map (writePredicate adapter)).toList

def Rows.write (adapter : Adapter) (rows : Rows) : String :=
  let dialect := adapter.dialect
  let join := rows.join.elim "" fun join => " " ++ join.write dialect
  let conditions := rows.conditions adapter
  let restriction :=
    if conditions.isEmpty then "" else " WHERE " ++ " AND ".intercalate conditions
  let order := if rows.order.isEmpty then "" else " ORDER BY " ++ writeOrder dialect rows.order
  let page := rows.page.elim "" Page.write
  dialect.quoteName rows.table ++ " AS " ++ rows.tableAlias.write ++ join ++ restriction ++
    order ++ page

def Source.write (adapter : Adapter) : Source → String
  | .direct rows => rows.write adapter
  | .derived rows cutToOne =>
    "(SELECT " ++ rows.tableAlias.write ++ ".* FROM " ++ rows.write adapter ++ ") AS " ++
      rows.tableAlias.write ++ if cutToOne then " LIMIT 1" else ""

mutual

def Select.write (adapter : Adapter) (aggregates : Aggregates) : Select → String
  | ⟨plural, columns, relations, source⟩ =>
    let fields := columns.map (fun column => (column.1, column.2.write adapter.dialect)) ++
      writeRelations adapter aggregates relations
    let pairs := adapter.pairs fields
    let order := source.rows.order
    let value :=
      if plural then
        aggregates.array pairs
          (if order.isEmpty then none else some (writeOrder adapter.dialect order))
      else aggregates.object pairs
    "SELECT " ++ value ++ " AS data FROM " ++ source.write adapter

def writeRelations (adapter : Adapter) (aggregates : Aggregates) :
    List (String × Select) → List (String × String)
  | [] => []
  | (name, select) :: rest =>
    (name, adapter.embed (select.write adapter aggregates)) ::
      writeRelations adapter aggregates rest

end

end NestedQuery.Sql
