import Mathlib.Data.Rat.Floor
import Mathlib.Data.String.Basic
import NestedQuery.Proofs.DateOrder
import NestedQuery.Proofs.Numerals

set_option autoImplicit false

namespace NestedQuery.Calendar

/-- `YYYY-MM-DD` -/
inductive DateText : List Char → Date → Prop
  | intro {y m d : List Char} {year month day : Nat} (years : Numeral 4 y year)
      (months : Numeral 2 m month) (days : Numeral 2 d day)
      (valid : Date.Valid ⟨year, month, day⟩) :
      DateText (y ++ '-' :: (m ++ '-' :: d)) ⟨year, month, day⟩

inductive FractionText : List Char → ℚ → Prop
  | none : FractionText [] 0
  | digits {text : List Char} {n : Nat} (someDigit : text ≠ [])
      (numeral : Numeral text.length text n) :
      FractionText ('.' :: text) (n / 10 ^ text.length)

/-- `HH:MM:SS` and a fraction -/
inductive TimeText : List Char → Nat → ℚ → Prop
  | intro {h m s f : List Char} {hour minute second : Nat} {fraction : ℚ}
      (hours : Numeral 2 h hour) (minutes : Numeral 2 m minute) (seconds : Numeral 2 s second)
      (hourBound : hour < 24) (minuteBound : minute < 60) (secondBound : second < 60)
      (part : FractionText f fraction) :
      TimeText (h ++ ':' :: (m ++ ':' :: (s ++ f))) (3600 * hour + 60 * minute + second) fraction

/-- `Z`, or a sign and `HH:MM` -/
inductive OffsetText : List Char → Int → Prop
  | universal {c : Char} (mark : c = 'Z' ∨ c = 'z') : OffsetText [c] 0
  | ahead {h m : List Char} {hour minute : Nat} (hours : Numeral 2 h hour)
      (minutes : Numeral 2 m minute) (hourBound : hour < 24) (minuteBound : minute < 60) :
      OffsetText ('+' :: (h ++ ':' :: m)) (3600 * hour + 60 * minute)
  | behind {h m : List Char} {hour minute : Nat} (hours : Numeral 2 h hour)
      (minutes : Numeral 2 m minute) (hourBound : hour < 24) (minuteBound : minute < 60) :
      OffsetText ('-' :: (h ++ ':' :: m)) (-(3600 * hour + 60 * minute))

theorem expect_cons (c : Char) (rest : List Char) : expect c (c :: rest) = some rest :=
  if_pos rfl

theorem FractionText.bounds {text : List Char} {fraction : ℚ}
    (written : FractionText text fraction) : 0 ≤ fraction ∧ fraction < 1 := by
  cases written with
  | none => norm_num
  | @digits text n _ numeral =>
    have below : (n : ℚ) < 10 ^ text.length := by exact_mod_cast numeral.lt_pow
    exact ⟨by positivity, (div_lt_one (by positivity)).2 below⟩

theorem TimeText.bounds {text : List Char} {seconds : Nat} {fraction : ℚ}
    (written : TimeText text seconds fraction) : 0 ≤ fraction ∧ fraction < 1 := by
  cases written with
  | intro _ _ _ _ _ _ part => exact part.bounds

theorem DateText.fourDigits {text : List Char} {date : Date} (written : DateText text date) :
    Date.FourDigits date.year := by
  cases written with
  | intro years months days valid =>
    have := years.lt_pow
    unfold Date.FourDigits
    simp only
    omega

theorem DateText.valid {text : List Char} {date : Date} (written : DateText text date) :
    date.Valid := by
  cases written with
  | intro years months days valid => exact valid

theorem readDate_append {text : List Char} {date : Date} (written : DateText text date)
    (width : Width) (rest : List Char) : readDate width (text ++ rest) = some (date, rest) := by
  have fourDigits := written.fourDigits
  cases written with
  | @intro y m d year month day years months days valid =>
    simp only [readDate, List.append_assoc, List.cons_append, years.readYear_append,
      months.readField_append, days.readField_append, expect_cons, Option.bind_eq_bind,
      Option.bind_some, Option.pure_def]
    have years : minYear ≤ (year : Int) ∧ (year : Int) ≤ maxYear := by
      simp only [Date.FourDigits] at fourDigits
      unfold minYear maxYear
      omega
    simp [valid, years]

theorem readFraction_append {text rest : List Char} {fraction : ℚ}
    (written : FractionText text fraction)
    (ends : ∀ c ∈ rest.head?, c.isDigit = false ∧ c ≠ '.') :
    ∃ nanosecond < nanosPerSecond, readFraction (text ++ rest) = some (nanosecond, rest) := by
  cases written with
  | none =>
    refine ⟨0, by decide, ?_⟩
    cases rest with
    | nil => rfl
    | cons c rest =>
      obtain ⟨-, noPoint⟩ := ends c rfl
      rw [List.nil_append]
      unfold readFraction
      split
      · next same => exact absurd (List.cons.inj same).1 noPoint
      · rfl
  | @digits text n someDigit numeral =>
    have read : (text ++ rest).takeWhile Char.isDigit = text :=
      Text.takeWhile_run numeral.digits fun c mem => (ends c mem).1
    have kept : Numeral (text.take 9).length (text.take 9) (Decimal.naturalOf (text.take 9)) :=
      ⟨rfl, fun c mem => numeral.digits c (List.mem_of_mem_take mem), rfl⟩
    have few : (text.take 9).length ≤ 9 := by
      rw [List.length_take]
      omega
    refine ⟨Decimal.naturalOf (text.take 9) * 10 ^ (9 - (text.take 9).length), ?_, ?_⟩
    · calc Decimal.naturalOf (text.take 9) * 10 ^ (9 - (text.take 9).length)
          < 10 ^ (text.take 9).length * 10 ^ (9 - (text.take 9).length) :=
            Nat.mul_lt_mul_of_pos_right kept.lt_pow (by positivity)
        _ = nanosPerSecond := by
            rw [← pow_add, Nat.add_sub_cancel' few]
            rfl
    · rw [List.cons_append, readFraction, read, List.drop_left]
      simp only [List.isEmpty_iff, someDigit, if_false]
      rfl

theorem readTime_append {text rest : List Char} {date : Date} {seconds : Nat} {fraction : ℚ}
    (written : TimeText text seconds fraction)
    (ends : ∀ c ∈ rest.head?, c.isDigit = false ∧ c ≠ '.') (valid : date.Valid)
    (year : Date.FourDigits date.year) (width : Width) :
    ∃ t, readTime width date (text ++ rest) = some (t, rest) ∧
      t.toSeconds = 86400 * date.toDays + seconds ∧ t.nanosecond < nanosPerSecond := by
  cases written with
  | intro hours minutes seconds hourBound minuteBound secondBound part =>
    obtain ⟨nanosecond, nanosecondBound, fraction⟩ := readFraction_append part ends
    obtain ⟨t, parts, -, count, rest⟩ :=
      Timestamp.ofParts?_succeeds valid year hourBound minuteBound secondBound nanosecondBound
    refine ⟨t, ?_, count, rest.symm ▸ nanosecondBound⟩
    simp only [readTime, List.append_assoc, List.cons_append, hours.readField_append,
      minutes.readField_append, seconds.readField_append, expect_cons, fraction,
      if_neg secondBound.ne, parts, Option.bind_eq_bind, Option.bind_some, Option.pure_def]

theorem readTime_eq {text : List Char} {date : Date} {seconds : Nat} {fraction : ℚ}
    (written : TimeText text seconds fraction) (valid : date.Valid)
    (year : Date.FourDigits date.year) (width : Width) :
    ∃ t, readTime width date text = some (t, []) ∧
      t.toSeconds = 86400 * date.toDays + seconds ∧ t.nanosecond < nanosPerSecond := by
  have ends : ∀ c ∈ ([] : List Char).head?, c.isDigit = false ∧ c ≠ '.' := by simp
  have read := readTime_append written ends valid year width
  rwa [List.append_nil] at read

theorem readOffset_signed {h m : List Char} {hour minute : Nat} (hours : Numeral 2 h hour)
    (minutes : Numeral 2 m minute) (hourBound : hour < 24) (minuteBound : minute < 60) {sign : Char}
    (mark : sign = '+' ∨ sign = '-') :
    readOffset (sign :: (h ++ ':' :: m)) =
      some (if sign = '+' then (3600 * hour + 60 * minute : Int)
        else -(3600 * hour + 60 * minute), []) := by
  have last := minutes.readDigits_append (Nat.le_refl 2) []
  rw [List.append_nil] at last
  have within : ¬ (23 < hour ∨ 59 < minute) := by omega
  rcases mark with rfl | rfl <;>
    simp [readOffset, hours.readDigits_append, expect_cons, last, within]

theorem readOffset_eq {text : List Char} {offset : Int} (written : OffsetText text offset) :
    readOffset text = some (offset, []) := by
  cases written with
  | universal mark => rcases mark with rfl | rfl <;> rfl
  | ahead hours minutes hourBound minuteBound =>
    exact readOffset_signed hours minutes hourBound minuteBound (.inl rfl)
  | behind hours minutes hourBound minuteBound =>
    exact readOffset_signed hours minutes hourBound minuteBound (.inr rfl)

theorem OffsetText.ends {text : List Char} {offset : Int} (written : OffsetText text offset) :
    ∀ c ∈ text.head?, c.isDigit = false ∧ c ≠ '.' := by
  cases written with
  | universal mark => rcases mark with rfl | rfl <;> simp
  | ahead => simp
  | behind => simp

section Texts

variable {d h o : List Char} {date : Date} {seconds : Nat} {fraction : ℚ} {offset : Int}

theorem readTime_nil (width : Width) : readTime width date [] = none := by
  cases width <;> rfl

theorem read_day (written : DateText d date) :
    ∃ t, Timestamp.read (String.ofList d) = some t ∧ t.toSeconds = 86400 * date.toDays ∧
      t.nanosecond < nanosPerSecond := by
  have day (width : Width) := readDate_append written width []
  simp only [List.append_nil] at day
  obtain ⟨t, parts, -, count, rest⟩ := Timestamp.ofParts?_succeeds written.valid
    written.fourDigits (show 0 < 24 by decide) (show 0 < 60 by decide) (show 0 < 60 by decide)
    (show 0 < nanosPerSecond by decide)
  refine ⟨t, ?_, ?_, by rw [rest]; decide⟩
  · simp [Timestamp.read, readWithOffset, readSpaced, readJoined, readMidnight, day, expect,
      Text.dropBlanks, readTime_nil, complete, parts]
  · rw [count]
    simp

theorem dropBlanks_time (time : TimeText h seconds fraction) : Text.dropBlanks h = h := by
  cases time with
  | intro hours => exact hours.dropBlanks_append (by decide) _

theorem readWithOffset_local (written : DateText d date) (time : TimeText h seconds fraction)
    (separator : Char) : readWithOffset (d ++ separator :: h) = none := by
  obtain ⟨t, clock, -, -⟩ := readTime_eq time written.valid written.fourDigits .exact
  simp [readWithOffset, readDate_append written, clock, readOffset]

theorem read_local (written : DateText d date) (time : TimeText h seconds fraction)
    {separator : Char} (mark : separator = ' ' ∨ separator = 'T') :
    ∃ t, Timestamp.read (String.ofList (d ++ separator :: h)) = some t ∧
      t.toSeconds = 86400 * date.toDays + seconds ∧ t.nanosecond < nanosPerSecond := by
  obtain ⟨t, clock, count, bound⟩ := readTime_eq time written.valid written.fourDigits .free
  refine ⟨t, ?_, count, bound⟩
  rw [Timestamp.read, String.toList_ofList]
  simp only [readWithOffset_local written time]
  rcases mark with rfl | rfl
  · have blank : Text.dropBlanks (' ' :: h) = h := dropBlanks_time time
    simp [readSpaced, readDate_append written, blank, clock, complete]
  · have letter : readTime .free date ('T' :: h) = none := rfl
    have visible : Text.dropBlanks ('T' :: h) = 'T' :: h := rfl
    simp [readSpaced, readJoined, readDate_append written, visible, letter, clock, complete,
      expect_cons]

theorem read_zoned (written : DateText d date) (time : TimeText h seconds fraction)
    (zone : OffsetText o offset) {separator : Char}
    (mark : separator = 'T' ∨ separator = 't' ∨ separator = ' ')
    (digits : Timestamp.FourDigits (86400 * date.toDays + seconds - offset)) :
    ∃ t, Timestamp.read (String.ofList (d ++ separator :: (h ++ o))) = some t ∧
      t.toSeconds = 86400 * date.toDays + seconds - offset ∧ t.nanosecond < nanosPerSecond := by
  have day := readDate_append written .exact (separator :: (h ++ o))
  obtain ⟨t, clock, count, bound⟩ :=
    readTime_append time zone.ends written.valid written.fourDigits .exact
  rw [← count] at digits ⊢
  obtain ⟨t', moved, count', rest⟩ := Timestamp.ofSeconds?_succeeds digits bound
  refine ⟨t', ?_, count', rest.symm ▸ bound⟩
  have read : readWithOffset (d ++ separator :: (h ++ o)) = some t' := by
    simp [readWithOffset, day, clock, readOffset_eq zone, complete, moved]
    tauto
  rw [Timestamp.read, String.toList_ofList, read]
  rfl

end Texts

namespace Timestamp

variable {s t : Timestamp}

structure Plain (t : Timestamp) : Prop where
  year : Date.FourDigits t.date.year
  nanosecondBound : t.nanosecond < nanosPerSecond

theorem yearText_fourDigits {year : Int} (digits : Date.FourDigits year) :
    yearText year = padded 4 year.natAbs := by
  obtain ⟨first, last⟩ := digits
  simp [yearText, first, last]

theorem year_numeral {year : Int} (digits : Date.FourDigits year) :
    Numeral 4 (padded 4 year.natAbs) year.natAbs := by
  obtain ⟨first, last⟩ := digits
  exact .padded_of_lt (by decide) (by omega)

theorem Plain.toList_write (plain : t.Plain) :
    t.write.toList = padded 4 t.date.year.natAbs ++ '-' :: (padded 2 t.date.month ++
      '-' :: (padded 2 t.date.day ++ ' ' :: (padded 2 t.hour ++ ':' :: (padded 2 t.minute ++
        ':' :: (padded 2 t.second ++ []))))) := by
  rw [write, String.toList_ofList, yearText_fourDigits plain.year,
    Nat.div_eq_of_lt plain.nanosecondBound]
  simp

theorem char_of_mem (t : Timestamp) {c : Char} (mem : c ∈ t.write.toList) :
    c.isDigit ∨ c ∈ ['-', '+', ' ', ':'] := by
  have digit {width n : Nat} (mem : c ∈ padded width n) : c.isDigit := isDigit_of_mem_padded mem
  have year (mem : c ∈ yearText t.date.year) : c.isDigit ∨ c = '-' ∨ c = '+' := by
    unfold yearText at mem
    split at mem
    · exact .inl (digit mem)
    · obtain rfl | mem := List.mem_cons.1 mem
      · split <;> simp
      · exact .inl (digit mem)
  rw [write, String.toList_ofList] at mem
  simp only [List.mem_append, List.mem_cons, List.not_mem_nil, or_false] at mem ⊢
  tauto

theorem numeral_two {n : Nat} (below : n < 100) : Numeral 2 (padded 2 n) n :=
  .padded_of_lt (by decide) below

theorem month_numeral (t : Timestamp) : Numeral 2 (padded 2 t.date.month) t.date.month :=
  numeral_two (by have := t.dateValid.2.1; omega)

theorem day_numeral (t : Timestamp) : Numeral 2 (padded 2 t.date.day) t.date.day :=
  numeral_two (by have := t.dateValid.day_le; omega)

theorem hour_numeral (t : Timestamp) : Numeral 2 (padded 2 t.hour) t.hour :=
  numeral_two (by have := t.hourBound; omega)

theorem minute_numeral (t : Timestamp) : Numeral 2 (padded 2 t.minute) t.minute :=
  numeral_two (by have := t.minuteBound; omega)

theorem second_numeral (t : Timestamp) : Numeral 2 (padded 2 t.second) t.second :=
  numeral_two (by have := t.secondBound; omega)

theorem write_lt_iff (first : s.Plain) (second : t.Plain) :
    s.write < t.write ↔ s.toSeconds < t.toSeconds := by
  obtain ⟨year, -⟩ := first.year
  obtain ⟨year', -⟩ := second.year
  rw [String.lt_iff_toList_lt, first.toList_write, second.toList_write,
    (year_numeral first.year).append_lt_append_iff (year_numeral second.year),
    List.cons_lt_cons_self,
    s.month_numeral.append_lt_append_iff t.month_numeral, List.cons_lt_cons_self,
    s.day_numeral.append_lt_append_iff t.day_numeral, List.cons_lt_cons_self,
    s.hour_numeral.append_lt_append_iff t.hour_numeral, List.cons_lt_cons_self,
    s.minute_numeral.append_lt_append_iff t.minute_numeral, List.cons_lt_cons_self,
    s.second_numeral.append_lt_append_iff t.second_numeral, toSeconds_lt_iff]
  have earlier : s.date.year.natAbs < t.date.year.natAbs ↔ s.date.year < t.date.year := by omega
  have same : s.date.year.natAbs = t.date.year.natAbs ↔ s.date.year = t.date.year := by omega
  simp only [Before, Date.Before, Date.eq_iff, earlier, same, List.lt_irrefl]
  tauto

theorem write_eq_iff (first : s.Plain) (second : t.Plain) :
    s.write = t.write ↔ s.toSeconds = t.toSeconds := by
  have less := write_lt_iff first second
  have more := write_lt_iff second first
  constructor
  · intro same
    rw [same, iff_false_left (lt_irrefl _)] at less more
    omega
  · intro same
    apply le_antisymm <;> rw [← not_lt]
    · rw [more]
      omega
    · rw [less]
      omega

end Timestamp

end NestedQuery.Calendar
