import NestedQuery.Document
import NestedQuery.Json.Token
import NestedQuery.Text.Blank
import NestedQuery.Toml.Moment

set_option autoImplicit false

namespace NestedQuery.Toml

def ungrouped (isDigit : Char → Bool) (text : List Char) : Option (List Char) :=
  let groups := Text.pieces '_' text
  let starts := groups.tail.all fun group => group.head?.any isDigit
  let ends := groups.dropLast.all fun group => group.getLast?.any isDigit
  if starts && ends then some groups.flatten else none

def isAnyDigit (c : Char) : Bool := (Json.hexValue c).isSome

def valueIn (base : Nat) (digits : List Char) : Option Int := do
  let values ← digits.mapM Json.hexValue
  if values.isEmpty then none else some (values.foldl (fun n value => base * n + value) 0 : Nat)

def decimalValue (text : List Char) : Option Int := do
  let (negative, digits) := Decimal.splitSign text
  if digits.isEmpty || !digits.all Char.isDigit then none
  else
    let n : Int := Decimal.naturalOf digits
    return if negative then -n else n

def integerDocument : Option Int → Document
  | some n => if -Int.pow 2 127 ≤ n ∧ n < Int.pow 2 128 then .integer n else .badNumber
  | none => .badNumber

def radixDocument (base : Nat) (text : List Char) : Option Document :=
  let isDigit := fun c => (Json.hexValue c).any fun value => value < base
  if text.all fun c => c == '_' || isDigit c then
    (ungrouped isDigit text).map fun digits => integerDocument (valueIn base digits)
  else none

def decimalDocument (text : List Char) : Option Document :=
  -- Behind an underscore only the characters next to one are checked, and a digit of any base will
  -- do there. What is no decimal number then has no value.
  (ungrouped isAnyDigit text).map fun digits => integerDocument (decimalValue digits)

def floatDocument (text : List Char) : Option Document := do
  -- A number with a fraction, an exponent or both. It is infinite only if it is written so.
  let (negative, unsigned) := Decimal.splitSign (← ungrouped Char.isDigit text)
  let hasFraction := match unsigned.dropWhile Char.isDigit with
    | '.' :: rest => rest.head?.any Char.isDigit
    | _ => true
  if hasFraction && unsigned.head?.any Char.isDigit then
    let x ← Decimal.readUnsigned unsigned
    return if x.isFinite then .decimal (Decimal.signed negative x) else .badNumber
  else none

def hasLeadingZero : List Char → Bool
  | '0' :: c :: _ => c.isDigit || c == '_'
  | _ => false

def isFloatMark (c : Char) : Bool := c == '.' || c == 'e' || c == 'E'

def numberDocument (text : List Char) : Option Document :=
  match text with
  | '0' :: 'x' :: digits => radixDocument 16 digits
  | '0' :: 'o' :: digits => radixDocument 8 digits
  | '0' :: 'b' :: digits => radixDocument 2 digits
  | _ =>
    let (negative, unsigned) := Decimal.splitSign text
    let rest := unsigned.dropWhile Char.isDigit
    if unsigned = "inf".toList then some (.decimal (Decimal.signed negative (1.0 / 0.0)))
    else if unsigned = "nan".toList then some (.decimal (0.0 / 0.0))
    else if unsigned.isEmpty || hasLeadingZero unsigned then none
    else if rest.any isFloatMark then floatDocument text
    else if rest.isEmpty || rest.head? = some '_' then decimalDocument text
    else none

def momentDocument (text : List Char) : Option Document :=
  (Moment.read text).map fun moment => .moment (String.ofList moment.write)

def scalarOf (text : List Char) : Option Document :=
  if text = "true".toList then some (.truth true)
  else if text = "false".toList then some (.truth false)
  else
    (numberDocument text).orElse fun _ => momentDocument text

end NestedQuery.Toml
