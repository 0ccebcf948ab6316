import NestedQuery.Filter.Basic

set_option autoImplicit false

namespace NestedQuery

structure Alias where
  index : Nat
  inRange : index < UInt32.size
deriving DecidableEq

namespace Alias

def first : Alias := ⟨0, by decide⟩

def ofNat? (n : Nat) : Option Alias :=
  if h : n < UInt32.size then some ⟨n, h⟩ else none

def next (tableAlias : Alias) : Except Error Alias :=
  match ofNat? (tableAlias.index + 1) with
  | some following => .ok following
  | none => .error (.invalidFilter .aliasesExhausted)

def write (tableAlias : Alias) : String := "_" ++ toString tableAlias.index

theorem write_injective {first second : Alias} (same : first.write = second.write) :
    first = second := by
  have digits := congrArg String.toList ((String.append_right_inj "_").1 same)
  rw [Nat.toString_eq_repr, Nat.toString_eq_repr, Nat.toList_repr, Nat.toList_repr] at digits
  have index := congrArg (fun digits => Nat.ofDigitChars 10 digits 0) digits
  simp only [Nat.ofDigitChars_ten_toDigits] at index
  obtain ⟨_, _⟩ := first
  obtain ⟨_, _⟩ := second
  cases index
  rfl

@[simp] theorem write_inj {first second : Alias} : first.write = second.write ↔ first = second :=
  ⟨write_injective, congrArg write⟩

end Alias

namespace Sql

structure Column where
  table : Alias
  name : String
deriving DecidableEq

abbrev Predicate := Formula (Condition Column Operand)

inductive Join
  | inner (table : String) (tableAlias : Alias) (left right : Column)
  | given (text : String)

inductive Correlation
  | equal (left right : Column)
  | given (text : String)

structure OrderItem where
  column : Column
  direction : Option Direction

structure Page where
  -- An offset is only ever used together with a limit.
  limit : UInt64
  offset : Option UInt64

structure Rows where
  table : String
  tableAlias : Alias
  join : Option Join
  correlation : Option Correlation
  predicate : Option Predicate
  order : List OrderItem
  page : Option Page

/-- An aggregate would collapse its rows before they are ordered and cut; `derived` does that first.
-/
inductive Source
  | direct (rows : Rows)
  | derived (rows : Rows) (cutToOne : Bool)

def Source.rows : Source → Rows
  | .direct rows => rows
  | .derived rows _ => rows

/-- A plural statement gives one array over all rows, any other one object per row. -/
structure Select where
  plural : Bool
  columns : List (String × Column)
  relations : List (String × Select)
  source : Source

end Sql

end NestedQuery
