import NestedQuery.Calendar.Reader

set_option autoImplicit false

namespace NestedQuery.Toml

structure TimeOfDay where
  hour : Nat
  minute : Nat
  second : Nat := 0
  nanosecond : Nat := 0

inductive Offset
  -- Counted from universal time. Its own letter is not the same as an offset of zero.
  | universal
  | minutes (n : Int)

inductive Moment
  | date (day : Calendar.Date)
  | time (clock : TimeOfDay)
  | dateTime (day : Calendar.Date) (clock : TimeOfDay) (offset : Option Offset)

def TimeOfDay.read (text : List Char) : Option (TimeOfDay × List Char) := do
  -- Hours and minutes, with or without seconds and a fraction of them. Second 60 is a leap second.
  let (hour, rest) ← Calendar.readDigits 2 2 text
  let (minute, rest) ← Calendar.readDigits 2 2 (← Calendar.expect ':' rest)
  if 23 < hour || 59 < minute then none
  else match Calendar.expect ':' rest with
    | none => return ({ hour, minute }, rest)
    | some rest =>
      let (second, rest) ← Calendar.readDigits 2 2 rest
      let (nanosecond, rest) ← Calendar.readFraction rest
      if 60 < second then none else return ({ hour, minute, second, nanosecond }, rest)

def Offset.read (text : List Char) : Option Offset :=
  match text with
  | [] => none
  | sign :: rest => do
    if sign = 'Z' || sign = 'z' then
      if rest.isEmpty then return .universal else none
    else if sign = '+' || sign = '-' then
      let (hours, rest) ← Calendar.readDigits 2 2 rest
      let minutes ← Calendar.complete (← Calendar.readDigits 2 2 (← Calendar.expect ':' rest))
      if 23 < hours || 59 < minutes then none
      else
        let total : Int := 60 * hours + minutes
        return .minutes (if sign = '-' then -total else total)
    else none

def readDay (text : List Char) : Option (Calendar.Date × List Char) := Calendar.readDate .exact text

def Moment.read (text : List Char) : Option Moment :=
  match readDay text with
  | none => (TimeOfDay.read text).bind fun read => (Calendar.complete read).map .time
  | some (day, []) => some (.date day)
  | some (day, separator :: rest) =>
    if separator == 'T' || separator == 't' || separator == ' ' then do
      let (clock, rest) ← TimeOfDay.read rest
      if rest.isEmpty then return .dateTime day clock none
      else return .dateTime day clock (← Offset.read rest)
    else none

def isDate (text : List Char) : Bool := (readDay text).any fun (_, rest) => rest.isEmpty

def dayText (day : Calendar.Date) : List Char :=
  Calendar.yearText day.year ++ '-' :: Calendar.padded 2 day.month ++
    '-' :: Calendar.padded 2 day.day

def TimeOfDay.write (clock : TimeOfDay) : List Char :=
  let whole := Calendar.padded 2 clock.hour ++ ':' :: Calendar.padded 2 clock.minute ++
    ':' :: Calendar.padded 2 clock.second
  if clock.nanosecond = 0 then whole
  else
    let digits := Calendar.padded 9 clock.nanosecond
    whole ++ '.' :: (digits.reverse.dropWhile (· == '0')).reverse

def Offset.write : Offset → List Char
  | .universal => ['Z']
  | .minutes n =>
    (if n < 0 then '-' else '+') :: Calendar.padded 2 (n.natAbs / 60) ++
      ':' :: Calendar.padded 2 (n.natAbs % 60)

def Moment.write : Moment → List Char
  | .date day => dayText day
  | .time clock => clock.write
  | .dateTime day clock offset =>
    dayText day ++ 'T' :: clock.write ++ (offset.map Offset.write).getD []

end NestedQuery.Toml
