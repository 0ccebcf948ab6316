import NestedQuery.Calendar.Reader
import NestedQuery.Error

set_option autoImplicit false

namespace NestedQuery

inductive FieldType
  | scalar
  | boolean
  | date
deriving DecidableEq

instance : Inhabited FieldType := ⟨.scalar⟩

inductive Literal
  | bool (b : Bool)
  | int (n : Int64)
  | uint (n : UInt64)
  | float (x : Float)
  | text (s : String)
  | timestamp (t : Calendar.Timestamp)

inductive Operand
  | truth (b : Bool)
  | integer (n : Int)
  | decimal (x : Float) (finite : x.isFinite = true)
  | text (s : String)
  | timestamp (t : Calendar.Timestamp)

namespace Literal

def ofJson? : Json → Option Literal
  | .bool b => some (.bool b)
  | .number (.int n) => some (.int n)
  | .number (.uint n _) => some (.uint n)
  | .number (.double x _) => some (.float x)
  | .string s => some (.text s)
  | .null | .array _ | .object _ => none

def truncated (x : Float) : Int :=
  let binary := Decimal.Binary.ofFloat x
  let size : Nat :=
    binary.mantissa * Nat.pow 2 binary.exponent.toNat / Nat.pow 2 (-binary.exponent).toNat
  if Decimal.isNegative x then -size else size

def ofMillis (millis : Int) : Except LiteralFault Calendar.Timestamp :=
  match Calendar.Timestamp.ofMillis? millis with
  | some t => .ok t
  | none => .error (.millisOutOfRange millis)

def toTimestamp : Literal → Except LiteralFault Calendar.Timestamp
  -- Numbers count milliseconds from 1970-01-01 00:00:00.
  | .timestamp t => .ok t
  | .text s =>
    match Calendar.Timestamp.read s with
    | some t => .ok t
    | none => .error (.notDate s)
  | .int n => ofMillis n.toInt
  | .uint n => ofMillis n.toNat
  | .float x =>
    if !x.isFinite then .error (.notFinite x)
    else if x < -9223372036854775808.0 || 9223372036854775808.0 ≤ x then
      .error (.doubleOutOfRange x)
    else ofMillis (truncated x)
  | .bool b => .error (.truthNotDate b)

def toOperand (type : FieldType) (literal : Literal) : Except LiteralFault Operand :=
  match type with
  | .date => literal.toTimestamp.map .timestamp
  | .scalar | .boolean =>
    match literal with
    | .bool b => .ok (.truth b)
    | .int n => .ok (.integer n.toInt)
    | .uint n => .ok (.integer n.toNat)
    | .float x =>
      if finite : x.isFinite = true then .ok (.decimal x finite) else .error (.notFinite x)
    | .text s => .ok (.text s)
    | .timestamp t => .ok (.timestamp t)

end Literal

def Operand.write (dialect : Dialect) : Operand → String
  | .truth true => "TRUE"
  | .truth false => "FALSE"
  | .integer n => toString n
  | .decimal x _ => Decimal.Layout.plain.write x
  | .text s => dialect.quoteText s
  | .timestamp t => dialect.quoteText t.write

def Literal.write (dialect : Dialect) (field : String) (type : FieldType) (literal : Literal) :
    Except Error String :=
  match literal.toOperand type with
  | .ok operand => .ok (operand.write dialect)
  | .error fault => .error (.invalidLiteral field fault)

end NestedQuery
