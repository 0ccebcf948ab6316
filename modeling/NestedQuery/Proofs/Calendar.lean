import Mathlib.Algebra.GroupWithZero.Nat
import NestedQuery.Calendar.Timestamp

set_option autoImplicit false

namespace NestedQuery.Calendar

theorem daysBeforeYear_succ (year : Int) :
    daysBeforeYear (year + 1) = daysBeforeYear year + (monthLengths year).sum := by
  have length : ((monthLengths year).sum : Int) = if isLeap year then 366 else 365 := by
    unfold monthLengths
    cases isLeap year <;> rfl
  rw [length]
  simp only [daysBeforeYear, isLeap, Bool.and_eq_true, Bool.or_eq_true, decide_eq_true_eq]
  split <;> omega

theorem daysBeforeYear_mono {year later : Int} (le : year ≤ later) :
    daysBeforeYear year ≤ daysBeforeYear later := by
  simp only [daysBeforeYear]
  omega

theorem yearOf_spec (day : Int) :
    daysBeforeYear (yearOf day) ≤ day ∧ day < daysBeforeYear (yearOf day + 1) := by
  unfold yearOf
  simp only
  split
  next below =>
    constructor
    · simp only [daysBeforeYear] at below ⊢
      omega
    · rw [Int.sub_add_cancel]
      exact below
  next fromStart =>
    split
    next above =>
      refine ⟨above, ?_⟩
      simp only [daysBeforeYear] at above ⊢
      omega
    next within => exact ⟨Int.not_lt.1 fromStart, Int.not_le.1 within⟩

theorem le_yearOf {year day : Int} : year ≤ yearOf day ↔ daysBeforeYear year ≤ day := by
  obtain ⟨start, finish⟩ := yearOf_spec day
  constructor
  · intro le
    exact Int.le_trans (daysBeforeYear_mono le) start
  · intro le
    apply Int.not_lt.1
    intro earlier
    have := daysBeforeYear_mono (Int.add_one_le_iff.2 earlier)
    omega

theorem monthAndDay_spec {lengths : List Nat} {offset : Nat} (within : offset < lengths.sum)
    (month : Nat) :
    month ≤ (monthAndDay month lengths offset).1 ∧ 1 ≤ (monthAndDay month lengths offset).2 ∧
      ∃ length, lengths[(monthAndDay month lengths offset).1 - month]? = some length ∧
        (monthAndDay month lengths offset).2 ≤ length := by
  induction lengths generalizing month offset with
  | nil => simp at within
  | cons length rest ih =>
    rw [monthAndDay]
    split
    next inside =>
      refine ⟨Nat.le_refl month, Nat.succ_pos offset, length, ?_, inside⟩
      rw [Nat.sub_self, List.getElem?_cons_zero]
    next beyond =>
      have within' : offset - length < rest.sum := by
        rw [List.sum_cons] at within
        omega
      obtain ⟨later, positive, length', there, inside⟩ := ih within' (month + 1)
      refine ⟨by omega, positive, length', ?_, inside⟩
      rw [← there, List.getElem?_cons, if_neg (by omega)]
      rfl

theorem year_ofDays (days : Int) : (Date.ofDays days).year = yearOf (days + epochDay) := rfl

theorem valid_ofDays (days : Int) : (Date.ofDays days).Valid := by
  obtain ⟨start, finish⟩ := yearOf_spec (days + epochDay)
  rw [daysBeforeYear_succ] at finish
  have within : (days + epochDay - daysBeforeYear (yearOf (days + epochDay))).toNat <
      (monthLengths (yearOf (days + epochDay))).sum := by omega
  obtain ⟨january, positive, length, there, inside⟩ := monthAndDay_spec within 1
  have twelve : (monthLengths (yearOf (days + epochDay))).length = 12 := rfl
  obtain ⟨bound, -⟩ := List.getElem?_eq_some_iff.1 there
  refine ⟨january, ?_, positive, ?_⟩
  · have : (Date.ofDays days).month = (monthAndDay 1 (monthLengths (yearOf (days + epochDay)))
        (days + epochDay - daysBeforeYear (yearOf (days + epochDay))).toNat).1 := rfl
    omega
  · have month : (Date.ofDays days).monthLength = length := by
      rw [Date.monthLength, year_ofDays]
      exact congrArg (Option.getD · 0) there
    rw [month]
    exact inside

namespace Timestamp

def earliestMillis : Int := 86400000 * (daysBeforeYear minYear - epochDay)

def latestMillis : Int := 86400000 * (daysBeforeYear (maxYear + 1) - epochDay) - 1

def Representable (millis : Int) : Prop := earliestMillis ≤ millis ∧ millis ≤ latestMillis

theorem exists_ofParts? {date : Date} {hour minute second nanosecond : Nat} (valid : date.Valid)
    (hourBound : hour < 24) (minuteBound : minute < 60) (secondBound : second < 60)
    (nanosecondBound : nanosecond < nanosPerSecond) :
    (∃ t, ofParts? date hour minute second nanosecond = some t) ↔
      minYear ≤ date.year ∧ date.year ≤ maxYear := by
  have counted : nanosecond < nanosAfter second :=
    Nat.lt_of_lt_of_le nanosecondBound (nanosAfter_bounds second).1
  unfold ofParts?
  by_cases years : minYear ≤ date.year ∧ date.year ≤ maxYear
  · rw [dif_pos ⟨valid, years, hourBound, minuteBound, secondBound, counted⟩]
    exact ⟨fun _ => years, fun _ => ⟨_, rfl⟩⟩
  · rw [dif_neg fun given => years given.2.1]
    simp [years]

theorem exists_ofMillis? (millis : Int) :
    (∃ t, ofMillis? millis = some t) ↔ Representable millis := by
  have nanosecondBound : 1000000 * (millis % 1000).toNat < nanosPerSecond := by
    unfold nanosPerSecond
    omega
  simp only [ofMillis?, ofSeconds?]
  rw [exists_ofParts? (valid_ofDays _) (by omega) (by omega) (by omega) nanosecondBound,
    year_ofDays]
  have last : yearOf (millis / 1000 / 86400 + epochDay) ≤ maxYear ↔
      ¬ daysBeforeYear (maxYear + 1) ≤ millis / 1000 / 86400 + epochDay := by
    rw [← le_yearOf]
    omega
  rw [le_yearOf, last]
  unfold Representable earliestMillis latestMillis
  omega

end Timestamp

end NestedQuery.Calendar
