import NestedQuery.Literal
import NestedQuery.Proofs.DateTexts

set_option autoImplicit false

namespace NestedQuery

open Calendar

/-- What an operand for a date stands for, in seconds from 1970-01-01 00:00:00. -/
inductive Literal.Denotes : Literal → ℚ → Prop
  | int (n : Int64) : Denotes (.int n) (n.toInt / 1000)
  | uint (n : UInt64) : Denotes (.uint n) (n.toNat / 1000)
  | timestamp {t : Timestamp} (noLeap : t.nanosecond < nanosPerSecond) :
      Denotes (.timestamp t) (t.toSeconds + t.nanosecond / nanosPerSecond)
  | zoned {d h o : List Char} {separator : Char} {date : Date} {seconds : Nat} {fraction : ℚ}
      {offset : Int} (day : DateText d date) (time : TimeText h seconds fraction)
      (zone : OffsetText o offset) (mark : separator = 'T' ∨ separator = 't' ∨ separator = ' ') :
      Denotes (.text (String.ofList (d ++ separator :: (h ++ o))))
        ((86400 * date.toDays + seconds - offset : Int) + fraction)
  -- Without an offset the time is universal.
  | moment {d h : List Char} {separator : Char} {date : Date} {seconds : Nat} {fraction : ℚ}
      (day : DateText d date) (time : TimeText h seconds fraction)
      (mark : separator = ' ' ∨ separator = 'T') :
      Denotes (.text (String.ofList (d ++ separator :: h)))
        ((86400 * date.toDays + seconds : Int) + fraction)
  | midnight {d : List Char} {date : Date} (day : DateText d date) :
      Denotes (.text (String.ofList d)) (86400 * date.toDays : Int)

def InFourDigitYears (i : ℚ) : Prop :=
  (86400 * Date.toDays ⟨0, 1, 1⟩ : Int) ≤ i ∧ i < (86400 * Date.toDays ⟨10000, 1, 1⟩ : Int)

theorem InFourDigitYears.floor {i : ℚ} (years : InFourDigitYears i) :
    Timestamp.FourDigits ⌊i⌋ :=
  ⟨Int.le_floor.2 years.1, Int.floor_lt.2 years.2⟩

theorem floor_add_fraction (n : Int) {fraction : ℚ} (bounds : 0 ≤ fraction ∧ fraction < 1) :
    ⌊(n : ℚ) + fraction⌋ = n := by
  rw [Int.floor_intCast_add, Int.floor_eq_zero_iff.2 bounds, add_zero]

theorem nanosecond_bounds {nanosecond : Nat} (noLeap : nanosecond < nanosPerSecond) :
    0 ≤ (nanosecond : ℚ) / nanosPerSecond ∧ (nanosecond : ℚ) / nanosPerSecond < 1 := by
  have below : (nanosecond : ℚ) < nanosPerSecond := by exact_mod_cast noLeap
  have positive : (0 : ℚ) < nanosPerSecond := by norm_num [nanosPerSecond]
  exact ⟨by positivity, (div_lt_one positive).2 below⟩

theorem escapeText_of_plain (backslashes : Bool) {text : List Char}
    (plain : ∀ c ∈ text, c ≠ '\'' ∧ c ≠ '\\') : Dialect.escapeText backslashes text = text := by
  induction text with
  | nil => rfl
  | cons c text ih =>
    obtain ⟨noQuote, noBackslash⟩ := plain c List.mem_cons_self
    rw [Dialect.escapeText, ih fun d mem => plain d (List.mem_cons_of_mem c mem), if_neg]
    simp [noQuote, noBackslash]

theorem quoteText_write (dialect : Dialect) (t : Timestamp) :
    dialect.quoteText t.write = "'" ++ t.write ++ "'" := by
  have printed : ∀ c ∈ t.write.toList, c ≠ '\'' ∧ c ≠ '\\' := by
    intro c mem
    obtain digit | mark := t.char_of_mem mem
    · constructor <;> rintro rfl <;> cases digit
    · constructor <;> rintro rfl <;> revert mark <;> decide
  apply String.toList_injective
  rw [Dialect.quoteText, escapeText_of_plain _ printed]
  simp

namespace Literal

theorem ofMillis_floor (millis : Int) (years : InFourDigitYears ((millis : ℚ) / 1000)) :
    ∃ t, ofMillis millis = .ok t ∧ t.toSeconds = ⌊(millis : ℚ) / 1000⌋ ∧
      t.nanosecond < nanosPerSecond := by
  have floor : ⌊(millis : ℚ) / 1000⌋ = millis / 1000 := Rat.floor_intCast_div_natCast millis 1000
  have digits := years.floor
  rw [floor] at digits ⊢
  have bound : 1000000 * (millis % 1000).toNat < nanosPerSecond := by
    unfold nanosPerSecond
    omega
  obtain ⟨t, counted, count, rest⟩ := Timestamp.ofSeconds?_succeeds digits bound
  refine ⟨t, ?_, count, rest.symm ▸ bound⟩
  rw [ofMillis, Timestamp.ofMillis?, counted]

theorem toTimestamp_text {s : String} {t : Timestamp} (read : Timestamp.read s = some t) :
    (Literal.text s).toTimestamp = .ok t := by
  rw [toTimestamp, read]

theorem Denotes.toTimestamp {literal : Literal} {i : ℚ} (denotes : literal.Denotes i)
    (years : InFourDigitYears i) :
    ∃ t, literal.toTimestamp = .ok t ∧ t.Plain ∧ t.toSeconds = ⌊i⌋ := by
  have digits := years.floor
  suffices ∃ t, literal.toTimestamp = .ok t ∧ t.toSeconds = ⌊i⌋ ∧
      t.nanosecond < nanosPerSecond by
    obtain ⟨t, taken, count, bound⟩ := this
    rw [← count] at digits
    exact ⟨t, taken, ⟨t.fourDigits_iff.1 digits, bound⟩, count⟩
  cases denotes with
  | int n => exact ofMillis_floor n.toInt years
  | uint n =>
    rw [← Int.cast_natCast (n := n.toNat)] at years ⊢
    exact ofMillis_floor n.toNat years
  | @timestamp t noLeap =>
    rw [floor_add_fraction _ (nanosecond_bounds noLeap)]
    exact ⟨t, rfl, rfl, noLeap⟩
  | zoned day time zone mark =>
    rw [floor_add_fraction _ time.bounds] at digits ⊢
    obtain ⟨t, read, rest⟩ := read_zoned day time zone mark digits
    exact ⟨t, toTimestamp_text read, rest⟩
  | moment day time mark =>
    rw [floor_add_fraction _ time.bounds]
    obtain ⟨t, read, rest⟩ := read_local day time mark
    exact ⟨t, toTimestamp_text read, rest⟩
  | midnight day =>
    rw [Int.floor_intCast]
    obtain ⟨t, read, rest⟩ := read_day day
    exact ⟨t, toTimestamp_text read, rest⟩

theorem Denotes.write {literal : Literal} {i : ℚ} (denotes : literal.Denotes i)
    (years : InFourDigitYears i) :
    ∃ t : Timestamp, (∀ dialect field, literal.write dialect field .date =
      .ok ("'" ++ t.write ++ "'")) ∧ t.Plain ∧ t.toSeconds = ⌊i⌋ := by
  obtain ⟨t, taken, plain, count⟩ := denotes.toTimestamp years
  refine ⟨t, fun dialect field => ?_, plain, count⟩
  rw [← quoteText_write dialect t, Literal.write, toOperand, taken]
  rfl

/-- Whatever their forms, two dates are written by every dialect, and their texts are in the order
of the whole seconds. -/
theorem write_ordered {a b : Literal} {i j : ℚ} (first : a.Denotes i) (second : b.Denotes j)
    (years : InFourDigitYears i) (years' : InFourDigitYears j) :
    ∃ s t : String,
      (∀ dialect field, a.write dialect field .date = .ok ("'" ++ s ++ "'") ∧
        b.write dialect field .date = .ok ("'" ++ t ++ "'")) ∧
      (s < t ↔ ⌊i⌋ < ⌊j⌋) ∧ (s = t ↔ ⌊i⌋ = ⌊j⌋) := by
  obtain ⟨s, written, plain, count⟩ := first.write years
  obtain ⟨t, written', plain', count'⟩ := second.write years'
  refine ⟨s.write, t.write, fun dialect field => ⟨written dialect field, written' dialect field⟩,
    ?_, ?_⟩
  · rw [Timestamp.write_lt_iff plain plain', count, count']
  · rw [Timestamp.write_eq_iff plain plain', count, count']

/-- In its own zone the moment still lies in the year before. -/
theorem denotes_zoned :
    Denotes (.text "2023-12-31T23:30:00.5-02:00") ((1704072600 : Int) + 5 / 10 ^ 1) := by
  have numeral (text : List Char) (digits : text.all Char.isDigit) :
      Numeral text.length text (Nat.ofDigitChars 10 text 0) :=
    ⟨rfl, List.all_eq_true.1 digits, rfl⟩
  have day : DateText "2023-12-31".toList ⟨2023, 12, 31⟩ :=
    .intro (numeral ['2', '0', '2', '3'] (by decide)) (numeral ['1', '2'] (by decide))
      (numeral ['3', '1'] (by decide)) (by decide)
  have time : TimeText "23:30:00.5".toList 84600 (5 / 10 ^ 1) :=
    .intro (numeral ['2', '3'] (by decide)) (numeral ['3', '0'] (by decide))
      (numeral ['0', '0'] (by decide)) (by decide) (by decide) (by decide)
      (.digits (by decide) (numeral ['5'] (by decide)))
  have zone : OffsetText "-02:00".toList (-7200) :=
    .behind (numeral ['0', '2'] (by decide)) (numeral ['0', '0'] (by decide)) (by decide)
      (by decide)
  exact .zoned day time zone (.inl rfl)

theorem write_ordered_negative :
    Denotes (.int (-1)) ((-1 : Int) / 1000) ∧
      Denotes (.text "2023-12-31T23:30:00.5-02:00") ((1704072600 : Int) + 5 / 10 ^ 1) ∧
      ∃ s t : String,
        (∀ dialect field,
          Literal.write dialect field .date (.int (-1)) = .ok ("'" ++ s ++ "'") ∧
          Literal.write dialect field .date (.text "2023-12-31T23:30:00.5-02:00") =
            .ok ("'" ++ t ++ "'")) ∧ s < t := by
  have first : Denotes (.int (-1)) ((-1 : Int) / 1000) := .int (-1)
  have range : (86400 * Date.toDays ⟨0, 1, 1⟩ : Int) = -62167219200 ∧
      (86400 * Date.toDays ⟨10000, 1, 1⟩ : Int) = 253402300800 := by decide
  have years : InFourDigitYears ((-1 : Int) / 1000) := by
    rw [InFourDigitYears, range.1, range.2]
    norm_num
  have years' : InFourDigitYears ((1704072600 : Int) + 5 / 10 ^ 1) := by
    rw [InFourDigitYears, range.1, range.2]
    norm_num
  obtain ⟨s, t, written, less, -⟩ := write_ordered first denotes_zoned years years'
  refine ⟨first, denotes_zoned, s, t, written, less.2 ?_⟩
  rw [floor_add_fraction _ (by norm_num), Int.floor_lt]
  norm_num

end Literal

end NestedQuery
