import NestedQuery.Decimal.Shortest

set_option autoImplicit false

namespace NestedQuery.Decimal

structure Layout where
  -- The powers of ten of the first digit that are written without an exponent; `none` for all.
  positional : Option (Int × Int)
  keepPoint : Bool
  tie : Tie

/-- Numbers in SQL text and in messages: never an exponent, and no point in a whole number. -/
def Layout.plain : Layout := ⟨none, false, .awayFromZero⟩

/-- Numbers in JSON text: always a point or an exponent, so that they read back as doubles. -/
def Layout.json : Layout := ⟨some (-5, 15), true, .toEven⟩

/-- Numbers in messages about a document: never an exponent, always a point in a finite one. -/
def Layout.document : Layout := ⟨none, true, .awayFromZero⟩

def zeros (count : Int) : List Char := List.replicate count.toNat '0'

def withPoint (digits : List Char) (point : Int) (keepPoint : Bool) : List Char :=
  if point ≤ 0 then '0' :: '.' :: zeros (-point) ++ digits
  else if digits.length ≤ point then
    digits ++ zeros (point - digits.length) ++ if keepPoint then ['.', '0'] else []
  else digits.take point.toNat ++ '.' :: digits.drop point.toNat

def withExponent (digits : List Char) (exponent : Int) : List Char :=
  let significand := match digits with
    | [] => []
    | [digit] => [digit]
    | digit :: rest => digit :: '.' :: rest
  let sign := if exponent < 0 then '-' else '+'
  significand ++ 'e' :: sign :: Nat.toDigits 10 exponent.natAbs

def Layout.finite (layout : Layout) (x : Float) : List Char :=
  let shortest := (Binary.ofFloat x).shortest layout.tie
  let digits := Nat.toDigits 10 shortest.digits
  let point := digits.length + shortest.exponent
  match layout.positional with
  | none => withPoint digits point layout.keepPoint
  | some (low, high) =>
    if low ≤ point - 1 && point - 1 ≤ high then withPoint digits point layout.keepPoint
    else withExponent digits (point - 1)

def Layout.write (layout : Layout) (x : Float) : String :=
  let sign := if isNegative x then ['-'] else []
  if x.isFinite then String.ofList (sign ++ layout.finite x)
  else if x.isNaN then "NaN"
  else if isNegative x then "-inf"
  else "inf"

end NestedQuery.Decimal
