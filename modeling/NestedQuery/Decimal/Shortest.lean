set_option autoImplicit false

/-!
The shortest decimal that reads back to a given double, found by exact arithmetic: on ever finer
decimal grids the two neighbours of the value are tried, and the first grid on which one of them
rounds to the value wins.
-/

namespace NestedQuery.Decimal

/-- The finite value `mantissa * 2 ^ exponent`; `narrowBelow` where the next double below is half as
far as the one above. -/
structure Binary where
  mantissa : Nat
  exponent : Int
  narrowBelow : Bool

def Binary.ofFloat (x : Float) : Binary :=
  let bits := x.toBits.toNat
  let leading := Nat.pow 2 52
  let fraction := bits % leading
  let biased : Nat := bits / leading % Nat.pow 2 11
  if biased = 0 then ⟨fraction, -1074, false⟩
  else ⟨leading + fraction, (biased : Int) - 1075, fraction = 0 && biased > 1⟩

def isNegative (x : Float) : Bool := x.toBits.toNat / Nat.pow 2 63 = 1

/-- The number `digits * 10 ^ exponent`. -/
structure Shortest where
  digits : Nat
  exponent : Int

inductive Tie where
  | toEven
  | awayFromZero

/-- The factors that bring `n * 2 ^ i` and `d * 10 ^ j` to whole numbers. -/
def scales (i j : Int) : Nat × Nat :=
  (Nat.pow 2 i.toNat * Nat.pow 10 (-j).toNat, Nat.pow 10 j.toNat * Nat.pow 2 (-i).toNat)

/-- Whether `digits * 10 ^ exponent` lies among the reals that round to the value. -/
def Binary.readsBack (x : Binary) (digits : Nat) (exponent : Int) : Bool :=
  let (binary, decimal) := scales (x.exponent - 2) exponent
  let low := (if x.narrowBelow then 4 * x.mantissa - 1 else 4 * x.mantissa - 2) * binary
  let high := (4 * x.mantissa + 2) * binary
  let point := digits * decimal
  if x.mantissa % 2 = 0 then low ≤ point && point ≤ high else low < point && point < high

def Binary.onGrid (x : Binary) (tie : Tie) (exponent : Int) : Option Shortest :=
  let (binary, decimal) := scales x.exponent exponent
  let below := x.mantissa * binary / decimal
  let twice := 2 * x.mantissa * binary
  let middle := (2 * below + 1) * decimal
  let upper : Bool :=
    if twice = middle then
      match tie with
      | .toEven => below % 2 = 1
      | .awayFromZero => true
    else middle < twice
  match x.readsBack below exponent, x.readsBack (below + 1) exponent with
  | false, false => none
  | true, false => some ⟨below, exponent⟩
  | false, true => some ⟨below + 1, exponent⟩
  | true, true => some ⟨if upper then below + 1 else below, exponent⟩

def Binary.magnitude (x : Binary) : Int :=
  -- No positive double is below 10 ^ -324, so the scaled value has a digit before its point.
  let (binary, decimal) := scales x.exponent (-400)
  (Nat.toDigits 10 (x.mantissa * binary / decimal)).length - 400

def Binary.shortest (x : Binary) (tie : Tie) : Shortest :=
  -- Seventeen digits always read back.
  if x.mantissa = 0 then ⟨0, 0⟩
  else
    let top := x.magnitude
    let found := (List.range 17).findSome? (fun (places : Nat) => x.onGrid tie (top - 1 - places))
    match found with
    | none => ⟨0, 0⟩
    -- The coarsest grid can round up to ten of its steps.
    | some ⟨digits, exponent⟩ =>
      if digits = 10 then ⟨1, exponent + 1⟩ else ⟨digits, exponent⟩

end NestedQuery.Decimal
