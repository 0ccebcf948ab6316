import NestedQuery.Proofs.Calendar

set_option autoImplicit false

namespace NestedQuery.Calendar

theorem sum_take_add_le (lengths : List Nat) {i j : Nat} (later : i < j) :
    (lengths.take i).sum + (lengths[i]?).getD 0 ≤ (lengths.take j).sum := by
  obtain ⟨past, rfl⟩ := Nat.exists_eq_add_of_lt later
  have entry : (lengths[i]?.toList).sum = (lengths[i]?).getD 0 := by cases lengths[i]? <;> simp
  rw [show i + past + 1 = i + 1 + past by omega, List.take_add, List.take_add_one,
    List.sum_append, List.sum_append, entry]
  omega

theorem monthAndDay_sum {lengths : List Nat} {offset : Nat} (within : offset < lengths.sum)
    (month : Nat) :
    (lengths.take ((monthAndDay month lengths offset).1 - month)).sum +
      (monthAndDay month lengths offset).2 = offset + 1 := by
  induction lengths generalizing month offset with
  | nil => simp at within
  | cons length rest ih =>
    rw [monthAndDay]
    split
    next inside => simp
    next beyond =>
      have within' : offset - length < rest.sum := by
        rw [List.sum_cons] at within
        omega
      obtain ⟨later, -⟩ := monthAndDay_spec within' (month + 1)
      have sum := ih within' (month + 1)
      obtain ⟨past, months⟩ := Nat.exists_eq_add_of_le later
      rw [months] at sum ⊢
      rw [show month + 1 + past - month = past + 1 by omega, List.take_succ_cons, List.sum_cons]
      rw [show month + 1 + past - (month + 1) = past by omega] at sum
      omega

namespace Date

def daysBeforeMonth (date : Date) : Nat := ((monthLengths date.year).take (date.month - 1)).sum

theorem toDays_eq (date : Date) :
    date.toDays = daysBeforeYear date.year + (date.daysBeforeMonth + date.day : Nat) - 1 -
      epochDay := by
  have sum : ((monthLengths date.year).take (date.month - 1)).foldl Nat.add 0 =
      date.daysBeforeMonth := by
    rw [daysBeforeMonth, List.sum_eq_foldl]
    rfl
  simp only [toDays, sum]
  omega

theorem toDays_ofDays (days : Int) : (ofDays days).toDays = days := by
  obtain ⟨start, finish⟩ := yearOf_spec (days + epochDay)
  rw [daysBeforeYear_succ] at finish
  have within : (days + epochDay - daysBeforeYear (yearOf (days + epochDay))).toNat <
      (monthLengths (yearOf (days + epochDay))).sum := by omega
  have sum := monthAndDay_sum within 1
  have parts : (ofDays days).daysBeforeMonth + (ofDays days).day =
      (days + epochDay - daysBeforeYear (yearOf (days + epochDay))).toNat + 1 := sum
  rw [toDays_eq, parts, year_ofDays]
  omega

def Before (a b : Date) : Prop :=
  a.year < b.year ∨ a.year = b.year ∧ (a.month < b.month ∨ a.month = b.month ∧ a.day < b.day)

variable {a b : Date}

theorem Valid.day_le (valid : a.Valid) : a.day ≤ 31 := by
  have most (i : Nat) : ((monthLengths a.year)[i]?).getD 0 ≤ 31 := by
    unfold monthLengths
    rcases i with _ | _ | _ | _ | _ | _ | _ | _ | _ | _ | _ | _ | i <;> cases isLeap a.year <;>
      simp
  exact Nat.le_trans valid.2.2.2 (most _)

theorem Valid.lt_next_year (valid : a.Valid) :
    a.toDays < daysBeforeYear (a.year + 1) - epochDay := by
  obtain ⟨first, last, -, day⟩ := valid
  have within := sum_take_add_le (monthLengths a.year) (show a.month - 1 < 12 by omega)
  have whole : (monthLengths a.year).take 12 = monthLengths a.year := rfl
  rw [whole] at within
  rw [toDays_eq, daysBeforeYear_succ]
  unfold daysBeforeMonth
  unfold monthLength at day
  omega

theorem Before.toDays_lt (valid : a.Valid) (valid' : b.Valid) (before : a.Before b) :
    a.toDays < b.toDays := by
  have next := valid.lt_next_year
  obtain ⟨first, -, -, day⟩ := valid
  obtain ⟨-, -, positive, -⟩ := valid'
  obtain year | ⟨year, month | ⟨month, earlier⟩⟩ := before
  · have := daysBeforeYear_mono (Int.add_one_le_iff.2 year)
    rw [toDays_eq b]
    omega
  · have within := sum_take_add_le (monthLengths a.year)
      (show a.month - 1 < b.month - 1 by omega)
    rw [toDays_eq, toDays_eq]
    unfold daysBeforeMonth
    unfold monthLength at day
    rw [← year]
    omega
  · rw [toDays_eq, toDays_eq, daysBeforeMonth, daysBeforeMonth, year, month]
    omega

theorem eq_iff (a b : Date) : a = b ↔ a.year = b.year ∧ a.month = b.month ∧ a.day = b.day := by
  cases a
  cases b
  rw [Date.mk.injEq]

theorem before_trichotomy (a b : Date) : a.Before b ∨ a = b ∨ b.Before a := by
  simp only [Before, eq_iff]
  omega

theorem toDays_lt_iff (valid : a.Valid) (valid' : b.Valid) :
    a.toDays < b.toDays ↔ a.Before b := by
  refine ⟨fun less => ?_, Before.toDays_lt valid valid'⟩
  obtain before | rfl | after := before_trichotomy a b
  · exact before
  · exact absurd less (Int.lt_irrefl _)
  · have := after.toDays_lt valid' valid
    omega

theorem toDays_inj (valid : a.Valid) (valid' : b.Valid) : a.toDays = b.toDays ↔ a = b := by
  refine ⟨fun same => ?_, congrArg toDays⟩
  obtain before | same | after := before_trichotomy a b
  · have := before.toDays_lt valid valid'
    omega
  · exact same
  · have := after.toDays_lt valid' valid
    omega

def FourDigits (year : Int) : Prop := 0 ≤ year ∧ year ≤ 9999

theorem fourDigits_iff (valid : a.Valid) :
    FourDigits a.year ↔ toDays ⟨0, 1, 1⟩ ≤ a.toDays ∧ a.toDays < toDays ⟨10000, 1, 1⟩ := by
  have first := toDays_lt_iff valid (b := ⟨0, 1, 1⟩) (by decide)
  have last := toDays_lt_iff valid (b := ⟨10000, 1, 1⟩) (by decide)
  obtain ⟨january, -, positive, -⟩ := valid
  simp only [Before] at first last
  unfold FourDigits
  omega

end Date

namespace Timestamp

def Before (s t : Timestamp) : Prop :=
  s.date.Before t.date ∨ s.date = t.date ∧ (s.hour < t.hour ∨ s.hour = t.hour ∧
    (s.minute < t.minute ∨ s.minute = t.minute ∧ s.second < t.second))

theorem toSeconds_lt_iff (s t : Timestamp) : s.toSeconds < t.toSeconds ↔ s.Before t := by
  rw [Before, ← Date.toDays_lt_iff s.dateValid t.dateValid,
    ← Date.toDays_inj s.dateValid t.dateValid]
  have := s.hourBound
  have := s.minuteBound
  have := s.secondBound
  have := t.hourBound
  have := t.minuteBound
  have := t.secondBound
  unfold toSeconds
  omega

theorem ofParts?_succeeds {date : Date} {hour minute second nanosecond : Nat}
    (valid : date.Valid) (year : Date.FourDigits date.year) (hourBound : hour < 24)
    (minuteBound : minute < 60) (secondBound : second < 60)
    (nanosecondBound : nanosecond < nanosPerSecond) :
    ∃ t, ofParts? date hour minute second nanosecond = some t ∧ t.date = date ∧
      t.toSeconds = 86400 * date.toDays + (3600 * hour + 60 * minute + second : Nat) ∧
      t.nanosecond = nanosecond := by
  have years : minYear ≤ date.year ∧ date.year ≤ maxYear := by
    unfold Date.FourDigits at year
    unfold minYear maxYear
    omega
  obtain ⟨t, parts⟩ :=
    (exists_ofParts? valid hourBound minuteBound secondBound nanosecondBound).2 years
  refine ⟨t, parts, ?_⟩
  simp only [ofParts?, Option.dite_none_right_eq_some] at parts
  obtain ⟨_, same⟩ := parts
  cases same
  exact ⟨rfl, rfl, rfl⟩

def FourDigits (seconds : Int) : Prop :=
  86400 * Date.toDays ⟨0, 1, 1⟩ ≤ seconds ∧ seconds < 86400 * Date.toDays ⟨10000, 1, 1⟩

theorem fourDigits_iff (t : Timestamp) :
    FourDigits t.toSeconds ↔ Date.FourDigits t.date.year := by
  rw [Date.fourDigits_iff t.dateValid]
  have := t.hourBound
  have := t.minuteBound
  have := t.secondBound
  unfold FourDigits toSeconds
  omega

theorem ofSeconds?_succeeds {seconds : Int} {nanosecond : Nat} (digits : FourDigits seconds)
    (nanosecondBound : nanosecond < nanosPerSecond) :
    ∃ t, ofSeconds? seconds nanosecond = some t ∧ t.toSeconds = seconds ∧
      t.nanosecond = nanosecond := by
  have year : Date.FourDigits (Date.ofDays (seconds / 86400)).year := by
    rw [Date.fourDigits_iff (valid_ofDays _), Date.toDays_ofDays]
    unfold FourDigits at digits
    omega
  have hourBound : (seconds % 86400).toNat / 3600 < 24 := by omega
  have minuteBound : (seconds % 86400).toNat / 60 % 60 < 60 := by omega
  have secondBound : (seconds % 86400).toNat % 60 < 60 := by omega
  obtain ⟨t, parts, -, count, rest⟩ := ofParts?_succeeds (valid_ofDays (seconds / 86400)) year
    hourBound minuteBound secondBound nanosecondBound
  refine ⟨t, parts, ?_, rest⟩
  rw [count, Date.toDays_ofDays]
  omega

end Timestamp

end NestedQuery.Calendar
