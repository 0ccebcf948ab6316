set_option autoImplicit false

namespace NestedQuery.Decimal

def digitValue (c : Char) : Nat := c.toNat - '0'.toNat

def naturalOf (digits : List Char) : Nat :=
  digits.foldl (fun value digit => 10 * value + digitValue digit) 0

def nearest (digits : Nat) (exponent : Int) : Float :=
  let count := (Nat.toDigits 10 digits).length
  -- Outside these bounds the value is beyond the greatest double or below the least.
  if digits = 0 || count + exponent < -400 then 0.0
  else if count + exponent > 400 then 1.0 / 0.0
  else Float.ofScientific digits (exponent < 0) exponent.natAbs

def signed (negative : Bool) (x : Float) : Float := if negative then -x else x

def splitSign : List Char → Bool × List Char
  | '-' :: rest => (true, rest)
  | '+' :: rest => (false, rest)
  | text => (false, text)

def exponentOf : List Char → Option Int
  | [] => some 0
  | mark :: rest =>
    let (negative, digits) := splitSign rest
    if (mark = 'e' || mark = 'E') && !digits.isEmpty && digits.all Char.isDigit then
      some (if negative then -(naturalOf digits) else naturalOf digits)
    else none

def readUnsigned (text : List Char) : Option Float :=
  let whole := text.takeWhile Char.isDigit
  let afterWhole := text.dropWhile Char.isDigit
  let (fraction, afterFraction) := match afterWhole with
    | '.' :: rest => (rest.takeWhile Char.isDigit, rest.dropWhile Char.isDigit)
    | rest => ([], rest)
  if whole.isEmpty && fraction.isEmpty then none
  else (exponentOf afterFraction).map fun exponent =>
    nearest (naturalOf (whole ++ fraction)) (exponent - fraction.length)

def readFloat (text : String) : Option Float :=
  let (negative, rest) := splitSign text.toList
  if rest = "inf".toList then some (signed negative (1.0 / 0.0))
  else if rest = "NaN".toList then some (0.0 / 0.0)
  else (readUnsigned rest).map (signed negative)

end NestedQuery.Decimal
