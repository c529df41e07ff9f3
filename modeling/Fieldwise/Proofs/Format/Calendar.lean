import Mathlib.Algebra.Ring.Nat
import Mathlib.Data.List.Basic
import Fieldwise.Format.Calendar

/-!
Contract: the calendar as a relation of months and lengths.

Owns: leap years by divisibility, the lengths of months, the days of the years 0 to 9999,
and their agreement with the days that are counted.

Does **not** own: how a day is written (`Fieldwise.Proofs.Format.DateForm`).
-/

set_option autoImplicit false

namespace Fieldwise.Format

/-! ## The calendar -/

def IsLeapYear (year : Nat) : Prop :=
  4 ∣ year ∧ (100 ∣ year → 400 ∣ year)

instance (year : Nat) : Decidable (IsLeapYear year) :=
  inferInstanceAs (Decidable (_ ∧ (_ → _)))

/-- The months of the calendar with their lengths in a year. -/
inductive MonthLength (year : Nat) : Nat → Nat → Prop where
  | long {month : Nat} (named : month ∈ [1, 3, 5, 7, 8, 10, 12]) : MonthLength year month 31
  | short {month : Nat} (named : month ∈ [4, 6, 9, 11]) : MonthLength year month 30
  | leapFebruary (leap : IsLeapYear year) : MonthLength year 2 29
  | february (common : ¬ IsLeapYear year) : MonthLength year 2 28

/-- A date of the years 0 to 9999 that is a day of the calendar. -/
structure CalendarDate.Exists (date : CalendarDate) : Prop where
  year : date.year ≤ 9999
  day : 1 ≤ date.day
  within : ∃ length, MonthLength date.year date.month length ∧ date.day ≤ length

theorem isLeapYear_eq_true_iff (year : Nat) : isLeapYear year = true ↔ IsLeapYear year := by
  simp only [isLeapYear, IsLeapYear, Bool.and_eq_true, Bool.or_eq_true, decide_eq_true_eq, ne_eq]
  omega

/-- The days that are counted in a month are its length. -/
theorem MonthLength.daysInMonth_eq
    {year month length : Nat}
    (given : MonthLength year month length) :
    daysInMonth year month = length := by
  cases given with
  | long named =>
      simp only [List.mem_cons, List.not_mem_nil, or_false] at named
      rcases named with rfl | rfl | rfl | rfl | rfl | rfl | rfl <;> rfl
  | short named =>
      simp only [List.mem_cons, List.not_mem_nil, or_false] at named
      rcases named with rfl | rfl | rfl | rfl <;> rfl
  | leapFebruary leap => exact if_pos ((isLeapYear_eq_true_iff year).2 leap)
  | february common => exact if_neg (mt (isLeapYear_eq_true_iff year).1 common)

theorem MonthLength.exists_of_month
    (year : Nat)
    {month : Nat}
    (first : 1 ≤ month)
    (last : month ≤ 12) :
    ∃ length, MonthLength year month length := by
  have named : month ∈ [1, 3, 5, 7, 8, 10, 12] ∨ month ∈ [4, 6, 9, 11] ∨ month = 2 := by
    simp only [List.mem_cons, List.not_mem_nil, or_false]
    omega
  rcases named with long | short | rfl
  · exact ⟨31, .long long⟩
  · exact ⟨30, .short short⟩
  · by_cases leap : IsLeapYear year
    · exact ⟨29, .leapFebruary leap⟩
    · exact ⟨28, .february leap⟩

theorem MonthLength.bounds {year month length : Nat} (given : MonthLength year month length) :
    month ≤ 12 ∧ length ≤ 31 := by
  cases given with
  | long named | short named =>
      simp only [List.mem_cons, List.not_mem_nil, or_false] at named
      omega
  | leapFebruary leap | february common => omega

/-- No day is counted in a month that is none of the twelve. -/
theorem month_of_daysInMonth_pos {year month : Nat} (counted : 0 < daysInMonth year month) :
    1 ≤ month ∧ month ≤ 12 := by
  unfold daysInMonth at counted
  split at counted <;> omega

theorem CalendarDate.isDay_eq_true_iff (date : CalendarDate) :
    date.isDay = true ↔
      1 ≤ date.day ∧ ∃ length, MonthLength date.year date.month length ∧ date.day ≤ length := by
  rw [isDay, Bool.and_eq_true, decide_eq_true_eq, decide_eq_true_eq]
  constructor
  · rintro ⟨first, last⟩
    obtain ⟨january, december⟩ := month_of_daysInMonth_pos (Nat.lt_of_lt_of_le first last)
    obtain ⟨length, given⟩ := MonthLength.exists_of_month date.year january december
    exact ⟨first, length, given, given.daysInMonth_eq ▸ last⟩
  · rintro ⟨first, length, given, last⟩
    exact ⟨first, given.daysInMonth_eq.symm ▸ last⟩

/-- Numbers with at most four digits for the year, and two for the month and the day. -/
structure CalendarDate.HasFullWidth (date : CalendarDate) : Prop where
  year : date.year < 10 ^ 4
  month : date.month < 10 ^ 2
  day : date.day < 10 ^ 2

theorem CalendarDate.Exists.hasFullWidth {date : CalendarDate} (real : date.Exists) :
    date.HasFullWidth := by
  have year := real.year
  obtain ⟨length, given, last⟩ := real.within
  obtain ⟨december, longest⟩ := given.bounds
  exact ⟨by omega, by omega, by omega⟩

theorem CalendarDate.exists_iff (date : CalendarDate) :
    date.Exists ↔ date.year ≤ 9999 ∧ date.isDay = true := by
  rw [date.isDay_eq_true_iff]
  constructor
  · intro real
    exact ⟨real.year, real.day, real.within⟩
  · rintro ⟨year, first, within⟩
    exact ⟨year, first, within⟩

end Fieldwise.Format
