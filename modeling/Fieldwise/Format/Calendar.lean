import Fieldwise.Text.Blank
import Fieldwise.Text.Numeral

/-!
Contract: the days of the calendar, and the reading of dates by a pattern.

Owns: leap years, the lengths of months, the library that reads dates as a
parameter, and one such library.

Does **not** own: which patterns there are (`Fieldwise.Format.CalendarDate`),
times of day, and years before the year 0.

The calendar is the Gregorian one, also before its introduction: the year 0
exists and is a leap year.
-/

set_option autoImplicit false

namespace Fieldwise.Format

/-! ## The calendar -/

def isLeapYear (year : Nat) : Bool :=
  year % 4 = 0 && (year % 100 ≠ 0 || year % 400 = 0)

/-- The number of days of a month; there are none in a month that does not
exist. -/
def daysInMonth (year month : Nat) : Nat :=
  match month with
  | 1 | 3 | 5 | 7 | 8 | 10 | 12 => 31
  | 4 | 6 | 9 | 11 => 30
  | 2 => if isLeapYear year then 29 else 28
  | _ => 0

/-- A day of the calendar, by its numbers. -/
@[ext]
structure CalendarDate where
  year : Nat
  month : Nat
  day : Nat
deriving DecidableEq

def CalendarDate.isDay (date : CalendarDate) : Bool :=
  1 ≤ date.day && date.day ≤ daysInMonth date.year date.month

/-! ## Readers -/

/-- A library that reads dates. What its dates are is its own affair. -/
structure DateReader where
  Date : Type
  /-- The date that a text is by a pattern, in which a percent code stands for each
  number. -/
  read? : (pattern : String) → List Char → Option Date

namespace DateReader

/-- A number at the start of a text, behind blanks, and what follows it. It has one
digit at least and `width` digits at most. -/
def leadingNumber? (width : Nat) (chars : List Char) : Option (Nat × List Char) :=
  let visible := Text.trimStart chars
  let digits := (visible.take width).takeWhile Char.isDigit
  (Text.natural? digits).map fun value => (value, visible.drop digits.length)

/-- Read the numbers of a pattern into a date, and its other characters as they
are. -/
def fill? : (pattern : List Char) → List Char → CalendarDate → Option CalendarDate
  | '%' :: 'Y' :: pattern, chars, date =>
      (leadingNumber? 4 chars).bind fun (year, rest) => fill? pattern rest { date with year }
  | '%' :: 'm' :: pattern, chars, date =>
      (leadingNumber? 2 chars).bind fun (month, rest) => fill? pattern rest { date with month }
  | '%' :: 'd' :: pattern, chars, date =>
      (leadingNumber? 2 chars).bind fun (day, rest) => fill? pattern rest { date with day }
  | mark :: pattern, first :: rest, date =>
      if first = mark then fill? pattern rest date else none
  | [], [], date => some date
  | _, _, _ => none

/-- The reader for years without a sign. Its numbers need not have their full
width. -/
def lenient : DateReader where
  Date := CalendarDate
  read? pattern chars := (fill? pattern.toList chars ⟨0, 0, 0⟩).filter CalendarDate.isDay

example : (lenient.read? "%d/%m/%Y" " 5/2/22".toList).isSome = true
    ∧ (lenient.read? "%d/%m/%Y" "30/02/2022".toList).isSome = false := by decide

end DateReader

end Fieldwise.Format
