import NestedQuery.Proofs.DateOperands

set_option autoImplicit false

namespace NestedQuery.Calendar

theorem Numeral.readDigits_stops {width n least most : Nat} {text rest : List Char}
    (numeral : Numeral width text n) (enough : least ≤ width) (room : width ≤ most)
    (ends : ∀ c ∈ rest.head?, c.isDigit = false) :
    readDigits least most (text ++ rest) = some (n, rest) := by
  obtain ⟨rfl, digits, rfl⟩ := numeral
  have stops : ∀ c ∈ (rest.take (most - text.length)).head?, c.isDigit = false := by
    intro c mem
    rw [List.head?_take] at mem
    split at mem
    · cases mem
    · exact ends c mem
  have read : ((text ++ rest).take most).takeWhile Char.isDigit = text := by
    rw [List.take_append, List.take_of_length_le room, Text.takeWhile_run digits stops]
  rw [readDigits, read]
  simp only [List.drop_left, naturalOf_eq]
  rw [if_neg (Nat.not_lt.2 enough)]

theorem numeral_padded (width n : Nat) :
    Numeral (padded width n).length (padded width n) n where
  length_eq := rfl
  digits _ mem := isDigit_of_mem_padded mem
  value := by
    rw [padded, Nat.ofDigitChars_append, Nat.ofDigitChars_replicate_zero, Nat.mul_zero,
      Nat.ofDigitChars_ten_toDigits]

theorem length_padded_pos {width : Nat} (positive : 0 < width) (n : Nat) :
    0 < (padded width n).length := by
  rw [padded, List.length_append, List.length_replicate]
  omega

theorem yearText_signed {year : Int} (signed : ¬ Date.FourDigits year) :
    yearText year = (if year < 0 then '-' else '+') :: padded 4 year.natAbs := by
  unfold Date.FourDigits at signed
  simp [yearText, signed]

theorem readYear_signed {text rest : List Char} {n : Nat}
    (read : readDigits 1 text.length text = some (n, rest)) :
    readYear .free ('-' :: text) = some (-(n : Int), rest) ∧
      readYear .free ('+' :: text) = some (↑n, rest) := by
  have minus : Text.dropBlanks ('-' :: text) = '-' :: text := rfl
  have plus : Text.dropBlanks ('+' :: text) = '+' :: text := rfl
  constructor
  · rw [readYear, minus]
    simp only [read]
    rfl
  · rw [readYear, plus]
    simp only [read]
    rfl

theorem readYear_yearText (year : Int) (rest : List Char) :
    readYear .free (yearText year ++ '-' :: rest) = some (year, '-' :: rest) := by
  by_cases digits : Date.FourDigits year
  · rw [Timestamp.yearText_fourDigits digits, (Timestamp.year_numeral digits).readYear_append,
      Int.natAbs_of_nonneg digits.1]
  · have read : readDigits 1 (padded 4 year.natAbs ++ '-' :: rest).length
          (padded 4 year.natAbs ++ '-' :: rest) = some (year.natAbs, '-' :: rest) := by
      apply (numeral_padded 4 year.natAbs).readDigits_stops (length_padded_pos (by decide) _)
      · rw [List.length_append]
        omega
      · rintro c ⟨⟩
        rfl
    obtain ⟨minus, plus⟩ := readYear_signed read
    rw [yearText_signed digits, List.cons_append]
    by_cases before : year < 0
    · rw [if_pos before, minus, show -(year.natAbs : Int) = year by omega]
    · rw [if_neg before, plus, show (year.natAbs : Int) = year by omega]

theorem readYear_exact_signed {year : Int} (signed : ¬ Date.FourDigits year) (rest : List Char) :
    readYear .exact (yearText year ++ rest) = none := by
  rw [yearText_signed signed, List.cons_append]
  split <;> rfl

namespace Timestamp

variable (t : Timestamp)

def shownSecond : Nat := t.second + t.nanosecond / nanosPerSecond

def dateText : List Char :=
  yearText t.date.year ++ '-' :: (padded 2 t.date.month ++ '-' :: padded 2 t.date.day)

def clockText : List Char :=
  padded 2 t.hour ++ ':' :: (padded 2 t.minute ++ ':' :: padded 2 t.shownSecond)

theorem toList_write : t.write.toList = t.dateText ++ ' ' :: t.clockText := by
  rw [write, String.toList_ofList]
  simp [dateText, clockText, shownSecond]

theorem shownSecond_le : t.shownSecond ≤ 60 := by
  have secondBound := t.secondBound
  have nanosecondBound := t.nanosecondBound
  unfold shownSecond nanosPerSecond at *
  omega

/-- The time that is shown, without the fraction of its second: second 60 is the leap second behind
second 59. -/
def wholeSecond : Timestamp :=
  { t with
    second := if t.shownSecond = 60 then 59 else t.shownSecond
    nanosecond := if t.shownSecond = 60 then nanosPerSecond else 0
    secondBound := by have := t.shownSecond_le; split <;> omega
    nanosecondBound := by split <;> decide }

theorem write_wholeSecond : t.wholeSecond.write = t.write := by
  rw [write, write]
  simp only [wholeSecond]
  by_cases leap : t.shownSecond = 60
  · rw [if_pos leap, if_pos leap, ← shownSecond, leap, Nat.div_self (by decide)]
  · rw [if_neg leap, if_neg leap, Nat.zero_div, Nat.add_zero, shownSecond]

theorem ofParts?_wholeSecond :
    (if t.shownSecond = 60 then ofParts? t.date t.hour t.minute 59 nanosPerSecond
      else ofParts? t.date t.hour t.minute t.shownSecond 0) = some t.wholeSecond := by
  have counted : t.wholeSecond.nanosecond < nanosAfter t.wholeSecond.second := by
    simp only [wholeSecond]
    split
    · decide
    · exact Nat.lt_of_lt_of_le (by decide) (nanosAfter_bounds _).1
  have parts : ofParts? t.date t.hour t.minute t.wholeSecond.second t.wholeSecond.nanosecond =
      some t.wholeSecond :=
    dif_pos ⟨t.dateValid, t.yearInRange, t.hourBound, t.minuteBound, t.wholeSecond.secondBound,
      counted⟩
  rw [← parts]
  simp only [wholeSecond]
  split <;> rfl

theorem readDate_dateText (rest : List Char) :
    readDate .free (t.dateText ++ rest) = some (t.date, rest) := by
  simp only [readDate, dateText, List.append_assoc, List.cons_append, readYear_yearText,
    t.month_numeral.readField_append, t.day_numeral.readField_append, expect_cons,
    Option.bind_eq_bind, Option.bind_some, Option.pure_def]
  simp [t.dateValid, t.yearInRange]

theorem readTime_clockText (width : Width) :
    readTime width t.date t.clockText = some (t.wholeSecond, []) := by
  have seconds : Numeral 2 (padded 2 t.shownSecond) t.shownSecond :=
    numeral_two (by have := t.shownSecond_le; omega)
  have last := seconds.readField_append width []
  rw [List.append_nil] at last
  simp only [readTime, clockText, t.hour_numeral.readField_append,
    t.minute_numeral.readField_append, expect_cons, last, readFraction, Option.bind_eq_bind,
    Option.bind_some, Option.pure_def, Nat.add_zero]
  have parts := t.ofParts?_wholeSecond
  split at parts
  next leap => rw [if_pos leap, parts, Option.bind_some]
  next before => rw [if_neg before, parts, Option.bind_some]

theorem dropBlanks_clockText : Text.dropBlanks (' ' :: t.clockText) = t.clockText :=
  t.hour_numeral.dropBlanks_append (by decide) _

theorem dateText_fourDigits (digits : Date.FourDigits t.date.year) :
    DateText t.dateText t.date := by
  have year : ((t.date.year.natAbs : Nat) : Int) = t.date.year := Int.natAbs_of_nonneg digits.1
  have same : t.date = ⟨(t.date.year.natAbs : Nat), t.date.month, t.date.day⟩ := by rw [year]
  have valid := t.dateValid
  rw [same] at valid
  have written := DateText.intro (year_numeral digits) t.month_numeral t.day_numeral valid
  rwa [← same, ← yearText_fourDigits digits] at written

theorem readWithOffset_write : readWithOffset (t.dateText ++ ' ' :: t.clockText) = none := by
  unfold readWithOffset
  by_cases digits : Date.FourDigits t.date.year
  · simp [readDate_append (t.dateText_fourDigits digits), readTime_clockText, readOffset]
  · rw [dateText, List.append_assoc, readDate, readYear_exact_signed digits]
    rfl

theorem read_write : read t.write = some t.wholeSecond := by
  rw [read, toList_write]
  simp only [readWithOffset_write, readSpaced, readDate_dateText, dropBlanks_clockText,
    readTime_clockText, complete, Option.bind_eq_bind, Option.bind_some]
  rfl

end Timestamp

end NestedQuery.Calendar

namespace NestedQuery

open Calendar

namespace Literal

theorem write_date {literal : Literal} {dialect : Dialect} {field text : String} :
    literal.write dialect field .date = .ok text ↔
      ∃ t, literal.toTimestamp = .ok t ∧ text = "'" ++ t.write ++ "'" := by
  rw [write, toOperand]
  cases taken : literal.toTimestamp with
  | error fault => simp [Except.map]
  | ok t => simp [Except.map, Operand.write, quoteText_write, eq_comm]

theorem write_idempotent {literal : Literal} {dialect : Dialect} {field text : String}
    (written : literal.write dialect field .date = .ok text) :
    ∃ t : Timestamp, literal.toTimestamp = .ok t ∧ text = "'" ++ t.write ++ "'" ∧
      (Literal.text t.write).toTimestamp = .ok t.wholeSecond ∧
      ∀ (dialect : Dialect) (field : String),
        (Literal.text t.write).write dialect field .date = .ok text := by
  obtain ⟨t, taken, rfl⟩ := write_date.1 written
  have again : (Literal.text t.write).toTimestamp = .ok t.wholeSecond :=
    toTimestamp_text t.read_write
  refine ⟨t, taken, rfl, again, fun dialect field => write_date.2 ⟨_, again, ?_⟩⟩
  rw [t.write_wholeSecond]

theorem write_idempotent_leap :
    let t : Timestamp :=
      { date := ⟨-1, 12, 31⟩, hour := 23, minute := 59, second := 59, nanosecond := 1500000000
        dateValid := by decide, yearInRange := by decide, hourBound := by decide
        minuteBound := by decide, secondBound := by decide, nanosecondBound := by decide }
    Literal.write .mysql "day" .date (.timestamp t) = .ok "'-0001-12-31 23:59:60'" ∧
      Literal.write .sqlite "day" .date (.text "-0001-12-31 23:59:60") =
        .ok "'-0001-12-31 23:59:60'" ∧
      (Literal.text "-0001-12-31 23:59:60").toTimestamp = .ok t.wholeSecond := by
  intro t
  have shown : t.write = "-0001-12-31 23:59:60" := by decide
  have written : Literal.write .mysql "day" .date (.timestamp t) =
      .ok "'-0001-12-31 23:59:60'" := write_date.2 ⟨t, rfl, by rw [shown]; rfl⟩
  obtain ⟨t', taken, -, again, rewritten⟩ := write_idempotent written
  cases taken
  rw [shown] at again rewritten
  exact ⟨written, rewritten .sqlite "day", again⟩

end Literal

end NestedQuery
