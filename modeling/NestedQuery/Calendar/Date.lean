set_option autoImplicit false

namespace NestedQuery.Calendar

structure Date where
  year : Int
  month : Nat
  day : Nat
deriving DecidableEq

def isLeap (year : Int) : Bool := year % 4 = 0 && (year % 100 ≠ 0 || year % 400 = 0)

def monthLengths (year : Int) : List Nat :=
  [31, if isLeap year then 29 else 28, 31, 30, 31, 30, 31, 31, 30, 31, 30, 31]

/-- Days from the first day of year 1 to the first day of the year. -/
def daysBeforeYear (year : Int) : Int :=
  let past := year - 1
  365 * past + past / 4 - past / 100 + past / 400

def epochDay : Int := 719162

namespace Date

def monthLength (date : Date) : Nat := ((monthLengths date.year)[date.month - 1]?).getD 0

def Valid (date : Date) : Prop :=
  1 ≤ date.month ∧ date.month ≤ 12 ∧ 1 ≤ date.day ∧ date.day ≤ date.monthLength

instance (date : Date) : Decidable date.Valid := by unfold Valid; infer_instance

def toDays (date : Date) : Int :=
  let before := ((monthLengths date.year).take (date.month - 1)).foldl Nat.add 0
  daysBeforeYear date.year + before + (date.day - 1 : Int) - epochDay

end Date

def yearOf (day : Int) : Int :=
  -- The year that holds the day, counted from 0001-01-01. The estimate is off by one year at most.
  let estimate := 400 * day / 146097 + 1
  if day < daysBeforeYear estimate then estimate - 1
  else if daysBeforeYear (estimate + 1) ≤ day then estimate + 1
  else estimate

/-- The month, counted on from the given one, and the day in it that lie `offset` days ahead. -/
def monthAndDay (month : Nat) : List Nat → Nat → Nat × Nat
  | [], offset => (month, offset + 1)
  | length :: rest, offset =>
    if offset < length then (month, offset + 1) else monthAndDay (month + 1) rest (offset - length)

def Date.ofDays (days : Int) : Date :=
  let day := days + epochDay
  let year := yearOf day
  let (month, dayOfMonth) := monthAndDay 1 (monthLengths year) (day - daysBeforeYear year).toNat
  ⟨year, month, dayOfMonth⟩

end NestedQuery.Calendar
