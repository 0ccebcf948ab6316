import NestedQuery.Error
import NestedQuery.Pattern

set_option autoImplicit false

namespace NestedQuery

/-- How a backend builds JSON from the text `'key', value, 'key', value`. -/
structure Aggregates where
  object : String → String
  -- The array over all rows; the second argument is the order of its elements, if it has one.
  array : String → Option String → String
  -- An ordered array is a window function: every row carries the whole array.
  windowed : Bool

structure Adapter where
  dialect : Dialect
  matching : String → Pattern → String
  notMatching : String → Pattern → String
  aggregates : Option Aggregates := none
  embed : String → String := fun sql => "(" ++ sql ++ ")"

namespace Adapter

def windowed (adapter : Adapter) : Bool := adapter.aggregates.any Aggregates.windowed

def pairs (adapter : Adapter) (fields : List (String × String)) : String :=
  ", ".intercalate (fields.map fun field => adapter.dialect.quoteText field.1 ++ ", " ++ field.2)

def require (adapter : Adapter) (feature : Feature) : Except Error Aggregates :=
  match adapter.aggregates with
  | some aggregates => .ok aggregates
  | none => .error (.unsupportedBackend adapter.dialect feature)

def objectOf (adapter : Adapter) (fields : List (String × String)) : Except Error String :=
  (adapter.require .objects).map fun aggregates => aggregates.object (adapter.pairs fields)

def arrayOf (adapter : Adapter) (fields : List (String × String)) (order : Option String) :
    Except Error String :=
  (adapter.require .arrays).map fun aggregates => aggregates.array (adapter.pairs fields) order

def sqliteMatching (column : String) : Pattern → String
  -- Where case counts `GLOB` stands in for `LIKE`, which ignores case here.
  | .like text true => column ++ " LIKE " ++ Dialect.sqlite.quoteText text
  | .like text false => column ++ " GLOB " ++ Dialect.sqlite.quoteText (Pattern.likeToGlob text)
  | .regex source ignoreCase =>
    let source := if ignoreCase then "(?i)" ++ source else source
    "regexp(" ++ Dialect.sqlite.quoteText source ++ ", " ++ column ++ ")"

def sqlite : Adapter where
  -- The elements of an array come in the order of the rows below; subqueries lose their JSON type.
  dialect := .sqlite
  matching := sqliteMatching
  notMatching := fun column pattern => "NOT " ++ sqliteMatching column pattern
  aggregates := some
    { object := fun pairs => "json_object(" ++ pairs ++ ")"
      array := fun pairs _ => "json_group_array(json_object(" ++ pairs ++ "))"
      windowed := false }
  embed := fun sql => "json((" ++ sql ++ "))"

def postgresqlOperator : Pattern → Bool → String
  | .like _ true, false => "ILIKE"
  | .like _ true, true => "NOT ILIKE"
  | .like _ false, false => "LIKE"
  | .like _ false, true => "NOT LIKE"
  | .regex _ true, false => "~*"
  | .regex _ true, true => "!~*"
  | .regex _ false, false => "~"
  | .regex _ false, true => "!~"

def postgresqlMatching (negated : Bool) (column : String) (pattern : Pattern) : String :=
  let text := match pattern with
    | .like text _ => text
    | .regex source _ => source
  column ++ " " ++ postgresqlOperator pattern negated ++ " " ++ Dialect.postgresql.quoteText text

def postgresql : Adapter where
  -- The array over no rows is NULL and read as an empty one; its order is part of the aggregate.
  dialect := .postgresql
  matching := postgresqlMatching false
  notMatching := postgresqlMatching true
  aggregates := some
    { object := fun pairs => "json_build_object(" ++ pairs ++ ")"
      array := fun pairs order =>
        let ordering := match order with
          | some order => " ORDER BY " ++ order
          | none => ""
        "COALESCE(json_agg(json_build_object(" ++ pairs ++ ")" ++ ordering ++ "), '[]'::json)"
      windowed := false }

def mysqlMatching (column : String) : Pattern → String
  | .like text true => column ++ " LIKE " ++ Dialect.mysql.quoteText text
  | .like text false => column ++ " LIKE BINARY " ++ Dialect.mysql.quoteText text
  | .regex source ignoreCase =>
    "REGEXP_LIKE(" ++ column ++ ", " ++ Dialect.mysql.quoteText source ++ ", '" ++
      (if ignoreCase then "i" else "c") ++ "')"

def mysqlNotMatching (column : String) : Pattern → String
  | .like text true => column ++ " NOT LIKE " ++ Dialect.mysql.quoteText text
  | .like text false => column ++ " NOT LIKE BINARY " ++ Dialect.mysql.quoteText text
  | .regex source ignoreCase => "NOT " ++ mysqlMatching column (.regex source ignoreCase)

def mysql : Adapter where
  -- Only as a window function over the full frame does an array have an order.
  dialect := .mysql
  matching := mysqlMatching
  notMatching := mysqlNotMatching
  aggregates := some
    { object := fun pairs => "JSON_OBJECT(" ++ pairs ++ ")"
      array := fun pairs order =>
        let aggregate := "JSON_ARRAYAGG(JSON_OBJECT(" ++ pairs ++ "))"
        match order with
        | none => aggregate
        | some order =>
          aggregate ++ " OVER (ORDER BY " ++ order ++
            " ROWS BETWEEN UNBOUNDED PRECEDING AND UNBOUNDED FOLLOWING)"
      windowed := true }

def ofDialect : Dialect → Adapter
  | .sqlite => sqlite
  | .postgresql => postgresql
  | .mysql => mysql

end Adapter

end NestedQuery
