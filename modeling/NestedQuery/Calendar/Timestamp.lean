import NestedQuery.Calendar.Date

set_option autoImplicit false

namespace NestedQuery.Calendar

def minYear : Int := -262143

def maxYear : Int := 262142

def nanosPerSecond : Nat := 1000000000

structure Timestamp where
  -- A leap second lies behind a whole second as its nanoseconds from `10 ^ 9` on.
  date : Date
  hour : Nat
  minute : Nat
  second : Nat
  nanosecond : Nat
  dateValid : date.Valid
  yearInRange : minYear ≤ date.year ∧ date.year ≤ maxYear
  hourBound : hour < 24
  minuteBound : minute < 60
  secondBound : second < 60
  nanosecondBound : nanosecond < 2 * nanosPerSecond
deriving DecidableEq

def padded (width n : Nat) : List Char :=
  let digits := Nat.toDigits 10 n
  List.replicate (width - digits.length) '0' ++ digits

def yearText (year : Int) : List Char :=
  if 0 ≤ year && year ≤ 9999 then padded 4 year.natAbs
  else (if year < 0 then '-' else '+') :: padded 4 year.natAbs

namespace Timestamp

/-- The nanoseconds that may follow a second of the clock: a leap second only at a minute's end. -/
def nanosAfter (second : Nat) : Nat := if second = 59 then 2 * nanosPerSecond else nanosPerSecond

theorem nanosAfter_bounds (second : Nat) :
    nanosPerSecond ≤ nanosAfter second ∧ nanosAfter second ≤ 2 * nanosPerSecond := by
  unfold nanosAfter
  split <;> omega

def ofParts? (date : Date) (hour minute second nanosecond : Nat) : Option Timestamp :=
  if h : date.Valid ∧ (minYear ≤ date.year ∧ date.year ≤ maxYear) ∧ hour < 24 ∧ minute < 60 ∧
      second < 60 ∧ nanosecond < nanosAfter second then
    some ⟨date, hour, minute, second, nanosecond, h.1, h.2.1, h.2.2.1, h.2.2.2.1, h.2.2.2.2.1,
      Nat.lt_of_lt_of_le h.2.2.2.2.2 (nanosAfter_bounds second).2⟩
  else none

def write (t : Timestamp) : String :=
  String.ofList
    (yearText t.date.year ++ '-' :: padded 2 t.date.month ++ '-' :: padded 2 t.date.day ++
      ' ' :: padded 2 t.hour ++ ':' :: padded 2 t.minute ++
      ':' :: padded 2 (t.second + t.nanosecond / nanosPerSecond))

/-- Whole seconds from 1970-01-01 00:00:00. -/
def toSeconds (t : Timestamp) : Int :=
  86400 * t.date.toDays + (3600 * t.hour + 60 * t.minute + t.second : Nat)

def ofSeconds? (seconds : Int) (nanosecond : Nat) : Option Timestamp :=
  let rest := (seconds % 86400).toNat
  ofParts? (Date.ofDays (seconds / 86400)) (rest / 3600) (rest / 60 % 60) (rest % 60) nanosecond

def ofMillis? (millis : Int) : Option Timestamp :=
  ofSeconds? (millis / 1000) (1000000 * (millis % 1000).toNat)

end Timestamp

end NestedQuery.Calendar
