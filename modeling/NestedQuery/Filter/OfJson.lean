import NestedQuery.Filter.Basic
import NestedQuery.Json.Reader

set_option autoImplicit false

namespace NestedQuery

def refused {α : Type} (fault : FilterFault) : Except Error α := .error (.invalidFilter fault)

namespace Where

def literalOf (field operator : String) (operand : Json) : Except Error Literal :=
  match Literal.ofJson? operand with
  | some literal => .ok literal
  | none => .error (.unsupportedPredicate field operator operand)

def literalsOf (field operator : String) (operand : Json) : Except Error (List Literal) :=
  match operand with
  | .array items => items.mapM (literalOf field operator)
  | other => .error (.unsupportedPredicate field operator other)

def patternOf (field operator : String) (operand : Json) (ignoreCase : Bool) :
    Except Error Pattern :=
  match operand with
  | .string text => .ok (Pattern.parse text ignoreCase)
  | other => .error (.unsupportedPredicate field operator other)

def asRegex : Pattern → Pattern
  -- The pattern as a regular expression, whether or not it is in slash notation.
  | .regex source ignoreCase => .regex source ignoreCase
  | .like text ignoreCase => .regex text ignoreCase

def equalityOf (field operator : String) (operand : Json) (comparison : Comparison)
    (ofNull : Test Literal) : Except Error (Test Literal) :=
  if operand.isNull then .ok ofNull
  else (literalOf field operator operand).map (.compare comparison)

def testOf (field operator : String) (operand : Json) (ignoreCase : Bool) :
    Except Error (Test Literal) :=
  match operator with
  | "eq" => equalityOf field operator operand .eq .isNull
  | "neq" | "ne" => equalityOf field operator operand .neq .isNotNull
  | "gt" => (literalOf field operator operand).map (.compare .gt)
  | "gte" => (literalOf field operator operand).map (.compare .gte)
  | "lt" => (literalOf field operator operand).map (.compare .lt)
  | "lte" => (literalOf field operator operand).map (.compare .lte)
  | "between" => do
    match ← literalsOf field operator operand with
    | [low, high] => .ok (.between low high)
    | _ => .error (.unsupportedPredicate field operator operand)
  | "inq" | "in" => (literalsOf field operator operand).map .oneOf
  | "nin" | "notIn" => (literalsOf field operator operand).map .noneOf
  | "like" => (patternOf field operator operand ignoreCase).map .like
  | "nlike" | "notLike" => (patternOf field operator operand ignoreCase).map .notLike
  | "ilike" => (patternOf field operator operand true).map .like
  | "nilike" => (patternOf field operator operand true).map .notLike
  | "regexp" => (patternOf field operator operand ignoreCase).map (fun p => .like (asRegex p))
  | _ => .error (.unsupportedPredicate field operator operand)

def ignoresCase (field : String) (operators : List (String × Json)) : Except Error Bool :=
  match Keyed.find? "options" operators with
  | none => .ok false
  | some (.string flags) => .ok (flags.toList.contains 'i')
  | some other => .error (.unsupportedPredicate field "options" other)

def ofField (field : String) (value : Json) : Except Error Where := do
  match value with
  | .null => return test field .isNull
  | .object operators =>
    let ignoreCase ← ignoresCase field operators
    let tests ← (operators.filter (fun entry => entry.1 ≠ "options")).mapM fun entry =>
      testOf field entry.1 entry.2 ignoreCase
    match tests.map (test field) with
    | [] => .error (.unsupportedPredicate field "\x7b\x7d" value)
    | [only] => return only
    | parts => return all parts
  | scalar => return eq field (← literalOf field "eq" scalar)

def ofParts : List Where → Option Where
  | [] => none
  | [only] => some only
  | parts => some (all parts)

mutual

def ofJson : Json → Except Error (Option Where)
  | .null => .ok none
  | .object members => (ofMembers members).map ofParts
  | other => refused (.condition other)

def ofMembers : List (String × Json) → Except Error (List Where)
  | [] => .ok []
  | (key, value) :: rest => do
    let part ←
      if key = Connective.all.key then ofGroup .all value
      else if key = Connective.any.key then ofGroup .any value
      else ofField key value
    return part :: (← ofMembers rest)

def ofGroup (connective : Connective) : Json → Except Error Where
  | .array items =>
    if items.isEmpty then refused (.group connective (.array items))
    else (ofItems connective items).map (.group connective)
  | other => refused (.group connective other)

def ofItems (connective : Connective) : List Json → Except Error (List Where)
  | [] => .ok []
  | item :: rest => do
    match ← ofJson item with
    | none => refused (.emptyClause connective)
    | some part => return part :: (← ofItems connective rest)

end

end Where

namespace Filter

def countOf (key : String) (value : Json) : Except Error (Option UInt64) :=
  match value with
  | .null => .ok none
  | .number (.int n) => .ok (if n < 0 then none else some n.toUInt64)
  | .number (.uint n _) => .ok (some n)
  | other => refused (.count key other)

def orderOf (value : Json) : Except Error (List OrderBy) := do
  let entries ← match value with
    | .null => .ok []
    | .string text => .ok ((Text.pieces ',' text.toList).map String.ofList)
    | .array items => items.mapM fun item =>
      match item with
      | .string text => .ok text
      | other => refused (.orderEntry other)
    | other => refused (.order other)
  entries.mapM OrderBy.parse

def fieldsOf (value : Json) : Except Error (Option Fields) := do
  match value with
  | .null => return none
  | .array items =>
    let names ← items.mapM fun item =>
      match item with
      | .string name => .ok name
      | other => refused (.fieldName other)
    return if names.isEmpty then none else some (.only names)
  | .object members =>
    let flags ← members.mapM fun member =>
      match member.2 with
      | .bool flag => .ok (member.1, flag)
      | other => refused (.fieldFlag member.1 other)
    let only := (flags.filter Prod.snd).map Prod.fst
    return if !only.isEmpty then some (.only only)
      else if !flags.isEmpty then some (.except (flags.map Prod.fst))
      else none
  | other => refused (.fields other)

def relationIn (members : List (String × Json)) : Option Json :=
  (Keyed.find? "relation" members).orElse fun _ => Keyed.find? "rel" members

mutual

def ofJson : Json → Except Error Filter
  | .null => .ok {}
  | .object members => ofMembers {} members
  | other => refused (.notObject other)

def ofMembers (filter : Filter) : List (String × Json) → Except Error Filter
  | [] => .ok filter
  | (key, value) :: rest => do
    let filter ← match key with
      | "where" => (Where.ofJson value).map fun condition => { filter with condition }
      | "order" => (orderOf value).map fun order => { filter with order }
      | "limit" => (countOf key value).map fun limit => { filter with limit }
      | "skip" | "offset" => (countOf key value).map fun skip => { filter with skip }
      | "fields" => (fieldsOf value).map fun fields => { filter with fields }
      | "include" => (includesOf value).map fun includes => { filter with includes }
      | other => refused (.unknownKey other)
    ofMembers filter rest

def includesOf : Json → Except Error (List (Include Filter))
  | .null => .ok []
  | .bool false => .ok []
  | .string name => .ok [⟨name, none⟩]
  | .array items => includesOfItems items
  | .object members =>
    match relationIn members with
    | none => shorthandIncludes members
    | some (.string name) => (scopeIn members).map fun scope => [⟨name, scope⟩]
    | some other => refused (.inclusionName other)
  | other => refused (.inclusion other)

def includesOfItems : List Json → Except Error (List (Include Filter))
  | [] => .ok []
  | item :: rest => do return (← includesOf item) ++ (← includesOfItems rest)

def scopeIn : List (String × Json) → Except Error (Option Filter)
  | [] => .ok none
  | (key, value) :: rest =>
    if key ≠ "scope" then scopeIn rest
    else if value.isNull then .ok none
    else (ofJson value).map some

def shorthandIncludes : List (String × Json) → Except Error (List (Include Filter))
  | [] => .ok []
  | (name, nested) :: rest => do
    let scope ← match nested with
      | .null => .ok none
      | .bool true => .ok none
      | nested => (includesOf nested).map fun includes => some { includes }
    return ⟨name, scope⟩ :: (← shorthandIncludes rest)

end

def parse (text : String) : Except Error Filter :=
  match Json.read text with
  | .ok value => ofJson value
  | .error fault => refused (.notJson fault)

end Filter

end NestedQuery
