import NestedQuery.Literal
import NestedQuery.Pattern

set_option autoImplicit false

namespace NestedQuery

inductive Comparison
  | eq
  | neq
  | gt
  | gte
  | lt
  | lte
deriving DecidableEq

def Comparison.symbol : Comparison → String
  | .eq => "="
  | .neq => "!="
  | .gt => ">"
  | .gte => ">="
  | .lt => "<"
  | .lte => "<="

inductive Test (ν : Type)
  | compare (comparison : Comparison) (value : ν)
  | isNull
  | isNotNull
  | between (low high : ν)
  | oneOf (values : List ν)
  | noneOf (values : List ν)
  | like (pattern : Pattern)
  | notLike (pattern : Pattern)

structure Condition (κ ν : Type) where
  subject : κ
  test : Test ν

inductive Formula (α : Type)
  | leaf (a : α)
  | group (connective : Connective) (parts : List (Formula α))

abbrev Where := Formula (Condition String Literal)

namespace Where

def test (field : String) (operator : Test Literal) : Where := .leaf ⟨field, operator⟩

def eq (field : String) (value : Literal) : Where := test field (.compare .eq value)

def all (parts : List Where) : Where := .group .all parts

def any (parts : List Where) : Where := .group .any parts

end Where

inductive Direction
  | asc
  | desc
deriving DecidableEq

def Direction.keyword : Direction → String
  | .asc => "ASC"
  | .desc => "DESC"

structure OrderBy where
  field : String
  direction : Option Direction
deriving DecidableEq

def Direction.parse (word : String) : Option Direction :=
  if Text.sameIgnoringCase word "asc" then some .asc
  else if Text.sameIgnoringCase word "desc" then some .desc
  else none

def OrderBy.parse (text : String) : Except Error OrderBy :=
  match Text.words text.toList with
  | [field] => .ok ⟨String.ofList field, none⟩
  | [field, word] =>
    match Direction.parse (String.ofList word) with
    | some direction => .ok ⟨String.ofList field, some direction⟩
    | none => .error (.invalidOrder text)
  | _ => .error (.invalidOrder text)

inductive Fields
  | only (names : List String)
  | except (names : List String)

def Fields.project (fields : Option Fields) (all : List String) : List String :=
  match fields with
  | none => all
  | some (.only names) => names
  | some (.except names) => all.filter (fun name => !names.contains name)

structure Include (φ : Type) where
  relation : String
  scope : Option φ

structure Filter where
  condition : Option Where := none
  order : List OrderBy := []
  limit : Option UInt64 := none
  skip : Option UInt64 := none
  fields : Option Fields := none
  includes : List (Include Filter) := []

instance : Inhabited Filter := ⟨{}⟩

namespace Filter

def withCondition (filter : Filter) (condition : Where) : Filter :=
  { filter with condition := some condition }

def orderedBy (filter : Filter) (entry : String) : Except Error Filter :=
  (OrderBy.parse entry).map fun parsed => { filter with order := filter.order ++ [parsed] }

def limitedTo (filter : Filter) (limit : UInt64) : Filter := { filter with limit := some limit }

def skipping (filter : Filter) (skip : UInt64) : Filter := { filter with skip := some skip }

def selecting (filter : Filter) (fields : Fields) : Filter := { filter with fields := some fields }

def including (filter : Filter) (relation : String) (scope : Option Filter) : Filter :=
  { filter with includes := filter.includes ++ [⟨relation, scope⟩] }

end Filter

end NestedQuery
