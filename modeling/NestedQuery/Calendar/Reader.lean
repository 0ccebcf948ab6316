import NestedQuery.Calendar.Timestamp
import NestedQuery.Decimal.Nearest
import NestedQuery.Text.Blank

set_option autoImplicit false

namespace NestedQuery.Calendar

def readDigits (least most : Nat) (text : List Char) : Option (Nat × List Char) :=
  let digits := (text.take most).takeWhile Char.isDigit
  if digits.length < least then none
  else some (Decimal.naturalOf digits, text.drop digits.length)

def expect (c : Char) : List Char → Option (List Char)
  | [] => none
  | head :: rest => if head = c then some rest else none

/-- How a number of a date or time is written: with two digits, or with one or two behind blanks. -/
inductive Width
  | exact
  | free

def readField (width : Width) (text : List Char) : Option (Nat × List Char) :=
  match width with
  | .exact => readDigits 2 2 text
  | .free => readDigits 1 2 (Text.dropBlanks text)

def readYear (width : Width) (text : List Char) : Option (Int × List Char) := do
  match width with
  | .exact =>
    let (year, rest) ← readDigits 4 4 text
    return (year, rest)
  | .free =>
    match Text.dropBlanks text with
    | '-' :: rest =>
      let (year, rest) ← readDigits 1 rest.length rest
      return (-year, rest)
    | '+' :: rest =>
      let (year, rest) ← readDigits 1 rest.length rest
      return (year, rest)
    | rest =>
      let (year, rest) ← readDigits 1 4 rest
      return (year, rest)

def readDate (width : Width) (text : List Char) : Option (Date × List Char) := do
  let (year, rest) ← readYear width text
  let (month, rest) ← readField width (← expect '-' rest)
  let (day, rest) ← readField width (← expect '-' rest)
  let date : Date := ⟨year, month, day⟩
  if date.Valid && minYear ≤ year && year ≤ maxYear then return (date, rest) else none

def readFraction : List Char → Option (Nat × List Char)
  -- An optional fraction of a second in nanoseconds; digits after the ninth do not count.
  | '.' :: rest =>
    let digits := rest.takeWhile Char.isDigit
    if digits.isEmpty then none
    else
      let kept := digits.take 9
      some (Decimal.naturalOf kept * Nat.pow 10 (9 - kept.length), rest.drop digits.length)
  | text => some (0, text)

def readTime (width : Width) (date : Date) (text : List Char) :
    Option (Timestamp × List Char) := do
  -- The time of day on the given date. Second 60 stands for a leap second.
  let (hour, rest) ← readField width text
  let (minute, rest) ← readField width (← expect ':' rest)
  let (second, rest) ← readField width (← expect ':' rest)
  let (nanosecond, rest) ← readFraction rest
  let t ←
    if second = 60 then Timestamp.ofParts? date hour minute 59 (nanosPerSecond + nanosecond)
    else Timestamp.ofParts? date hour minute second nanosecond
  return (t, rest)

def readOffset : List Char → Option (Int × List Char)
  | [] => none
  | sign :: rest => do
    if sign = 'Z' || sign = 'z' then return (0, rest)
    else if sign = '+' || sign = '-' || sign = '\u2212' then
      let (hours, rest) ← readDigits 2 2 rest
      let (minutes, rest) ← readDigits 2 2 (← expect ':' rest)
      if 23 < hours || 59 < minutes then none
      else
        let seconds : Int := 3600 * hours + 60 * minutes
        return (if sign = '+' then seconds else -seconds, rest)
    else none

def complete {α : Type} : α × List Char → Option α
  | (value, []) => some value
  | _ => none

def readWithOffset (text : List Char) : Option Timestamp := do
  let (date, rest) ← readDate .exact text
  match rest with
  | [] => none
  | separator :: rest =>
    if separator = 'T' || separator = 't' || separator = ' ' then
      let (t, rest) ← readTime .exact date rest
      let offset ← complete (← readOffset rest)
      Timestamp.ofSeconds? (t.toSeconds - offset) t.nanosecond
    else none

def readSpaced (text : List Char) : Option Timestamp := do
  let (date, rest) ← readDate .free text
  complete (← readTime .free date (Text.dropBlanks rest))

def readJoined (text : List Char) : Option Timestamp := do
  let (date, rest) ← readDate .free text
  complete (← readTime .free date (← expect 'T' rest))

def readMidnight (text : List Char) : Option Timestamp := do
  let date ← complete (← readDate .free text)
  Timestamp.ofParts? date 0 0 0 0

def Timestamp.read (text : String) : Option Timestamp :=
  let chars := text.toList
  (readWithOffset chars).orElse fun _ =>
    (readSpaced chars).orElse fun _ =>
      (readJoined chars).orElse fun _ => readMidnight chars

end NestedQuery.Calendar
