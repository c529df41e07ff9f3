import Fieldwise.Format.CalendarDate
import Fieldwise.Proofs.Format.Calendar
import Fieldwise.Proofs.Text.Numeral
import Fieldwise.Proofs.Text.Pattern

/-!
Contract: the forms of a written date.

Owns: the six forms, the layout, the shape and the renderings of a form, the shapes as
languages, and the forms in which a text can be read.

Does **not** own: the calendar (`Fieldwise.Proofs.Format.Calendar`), and numerals of a fixed
width (`Fieldwise.Proofs.Text.Numeral`).

A rendering is cut into its numbers at the separator, which rests on one fact: no separator
is a digit.
-/

set_option autoImplicit false

namespace Fieldwise.Format

open Text.Pattern

/-! ## Shapes as languages -/

/-- The texts of a part of a shape. -/
def ShapePart.language : ShapePart → Language Char
  | .digits count => oneOf (fun char => char.isDigit = true) ^ count
  | .mark char => oneOf (· = char)

/-- The texts of a shape: those of its parts, one after the other. -/
def DateShape.language (shape : DateShape) : Language Char :=
  (shape.map ShapePart.language).prod

theorem DateShape.mem_language_cons_iff
    (part : ShapePart)
    (shape : DateShape)
    (chars : List Char) :
    chars ∈ DateShape.language (part :: shape) ↔
      ∃ first ∈ part.language, ∃ rest ∈ shape.language, first ++ rest = chars := by
  rw [language, List.map_cons, List.prod_cons]
  exact Language.mem_mul

/-- The matcher decides the language of a shape. -/
theorem DateShape.isMatch_eq_true_iff (shape : DateShape) (chars : List Char) :
    shape.isMatch chars = true ↔ chars ∈ shape.language := by
  induction shape generalizing chars with
  | nil =>
      rw [isMatch, decide_eq_true_iff]
      exact Language.mem_one chars |>.symm
  | cons part shape inductionHypothesis =>
      rw [mem_language_cons_iff]
      cases part with
      | digits count =>
          simp only [isMatch, Bool.and_eq_true, decide_eq_true_eq, List.all_eq_true,
            inductionHypothesis]
          constructor
          · rintro ⟨⟨long, run⟩, rest⟩
            exact ⟨_, mem_oneOf_pow_iff.2 ⟨long, run⟩, _, rest, List.take_append_drop ..⟩
          · rintro ⟨first, digits, rest, matched, rfl⟩
            obtain ⟨long, run⟩ := mem_oneOf_pow_iff.1 digits
            rw [List.take_left' long, List.drop_left' long]
            exact ⟨⟨long, run⟩, matched⟩
      | mark char =>
          constructor
          · intro matched
            cases chars with
            | nil => simp [isMatch] at matched
            | cons first rest =>
                simp only [isMatch, Bool.and_eq_true, decide_eq_true_eq,
                  inductionHypothesis] at matched
                exact ⟨[first], ⟨first, matched.1, rfl⟩, rest, matched.2, rfl⟩
          · rintro ⟨_, ⟨first, rfl, rfl⟩, rest, matched, rfl⟩
            simp [isMatch, inductionHypothesis, matched]

/-- The texts of so many digits are the numerals of this width. -/
theorem ShapePart.mem_digits_iff {width : Nat} (positive : 0 < width) (chars : List Char) :
    chars ∈ (ShapePart.digits width).language ↔
      ∃ value, value < 10 ^ width ∧ chars = Text.padded width value := by
  simp only [language, mem_oneOf_pow_iff, Text.eq_padded_iff positive]
  constructor
  · rintro ⟨long, run⟩
    have written : chars ≠ [] := List.ne_nil_of_length_pos (long.symm ▸ positive)
    exact ⟨_, long, ⟨written, run⟩, rfl⟩
  · rintro ⟨value, long, ⟨-, run⟩, -⟩
    exact ⟨long, run⟩

/-- Three parts with one character between them. -/
theorem DateShape.mem_language_separated_iff
    (separator : Char)
    (first second third : ShapePart)
    (chars : List Char) :
    chars ∈ DateShape.language
        [first, .mark separator, second, .mark separator, third] ↔
      ∃ front ∈ first.language, ∃ middle ∈ second.language, ∃ back ∈ third.language,
        chars = [separator].intercalate [front, middle, back] := by
  have mark (text : List Char) :
      text ∈ (ShapePart.mark separator).language ↔ text = [separator] := by
    simp only [ShapePart.language, oneOf]
    exact ⟨fun ⟨_, same, text⟩ => same ▸ text, fun same => ⟨separator, rfl, same⟩⟩
  have empty (text : List Char) : text ∈ DateShape.language [] ↔ text = [] :=
    Language.mem_one text
  have joined (front middle back : List Char) :
      [separator].intercalate [front, middle, back] =
        front ++ ([separator] ++ (middle ++ ([separator] ++ back))) := by
    simp [List.intercalate]
  simp only [mem_language_cons_iff, mark, empty, exists_eq_left, exists_eq_right,
    List.append_nil, joined]
  constructor
  · rintro ⟨front, inFirst, _, ⟨_, ⟨middle, inSecond, _, ⟨back, inThird, rfl⟩, rfl⟩, rfl⟩, rfl⟩
    exact ⟨front, inFirst, middle, inSecond, back, inThird, rfl⟩
  · rintro ⟨front, inFirst, middle, inSecond, back, inThird, rfl⟩
    exact ⟨front, inFirst, _, ⟨_, ⟨middle, inSecond, _, ⟨back, inThird, rfl⟩, rfl⟩, rfl⟩, rfl⟩

/-! ## Forms -/

inductive DateOrder where
  | yearMonthDay
  | yearDayMonth
  | dayMonthYear
deriving DecidableEq

/-- The parts of a date in an order. -/
def DateOrder.arrange {Part : Type} (year month day : Part) : DateOrder → List Part
  | .yearMonthDay => [year, month, day]
  | .yearDayMonth => [year, day, month]
  | .dayMonthYear => [day, month, year]

theorem DateOrder.mem_arrange_iff
    {Part : Type}
    (order : DateOrder)
    (year month day part : Part) :
    part ∈ order.arrange year month day ↔ part = year ∨ part = month ∨ part = day := by
  cases order <;> simp [arrange, or_comm, or_left_comm]

theorem DateOrder.eq_of_arrange_eq
    {Part : Type} {order : DateOrder} {year month day otherYear otherMonth otherDay : Part}
    (same : order.arrange year month day = order.arrange otherYear otherMonth otherDay) :
    year = otherYear ∧ month = otherMonth ∧ day = otherDay := by
  cases order <;> simp_all [arrange]

inductive DateSeparator where
  | dash
  | slash
deriving DecidableEq

def DateSeparator.char : DateSeparator → Char
  | .dash => '-'
  | .slash => '/'

theorem DateSeparator.isDigit_char (separator : DateSeparator) :
    separator.char.isDigit = false := by
  cases separator <;> rfl

theorem DateSeparator.char_injective
    {left right : DateSeparator}
    (same : left.char = right.char) :
    left = right := by
  cases left <;> cases right <;> first | rfl | exact absurd same (by decide)

/-- A form of a written date: the order of its numbers, and what stands between them. -/
structure DateForm where
  order : DateOrder
  separator : DateSeparator
deriving DecidableEq

namespace DateForm

/-- The layout of a form, with a percent code for each number. -/
def layout (form : DateForm) : DateLayout :=
  ⟨(String.singleton form.separator.char).intercalate (form.order.arrange "%Y" "%m" "%d")⟩

/-- The shape of a form: four digits for the year, two for the month and the day. -/
def shape (form : DateForm) : DateShape :=
  [ShapePart.mark form.separator.char].intercalate
    (form.order.arrange [.digits 4] [.digits 2] [.digits 2])

/-- A date written in a form, with zeros in front of small numbers. -/
def render (form : DateForm) (date : CalendarDate) : List Char :=
  [form.separator.char].intercalate
    (form.order.arrange (Text.padded 4 date.year) (Text.padded 2 date.month)
      (Text.padded 2 date.day))

/-- The table of shapes fits the layouts of the forms. -/
theorem shape?_layout (form : DateForm) : form.layout.shape? = some form.shape := by
  obtain ⟨order, separator⟩ := form
  cases order <;> cases separator <;> decide

/-- A text in the shape of a form is cut into the texts of its three numbers. -/
theorem mem_language_shape_iff_cut (form : DateForm) (chars : List Char) :
    chars ∈ form.shape.language ↔
      ∃ year ∈ (ShapePart.digits 4).language,
        ∃ month ∈ (ShapePart.digits 2).language,
          ∃ day ∈ (ShapePart.digits 2).language,
            chars = [form.separator.char].intercalate (form.order.arrange year month day) := by
  obtain ⟨order, separator⟩ := form
  have cut := DateShape.mem_language_separated_iff separator.char
  cases order with
  | yearMonthDay => exact cut (.digits 4) (.digits 2) (.digits 2) chars
  | yearDayMonth =>
      refine (cut (.digits 4) (.digits 2) (.digits 2) chars).trans ?_
      constructor
      · rintro ⟨year, inYear, day, inDay, month, inMonth, whole⟩
        exact ⟨year, inYear, month, inMonth, day, inDay, whole⟩
      · rintro ⟨year, inYear, month, inMonth, day, inDay, whole⟩
        exact ⟨year, inYear, day, inDay, month, inMonth, whole⟩
  | dayMonthYear =>
      refine (cut (.digits 2) (.digits 2) (.digits 4) chars).trans ?_
      constructor
      · rintro ⟨day, inDay, month, inMonth, year, inYear, whole⟩
        exact ⟨year, inYear, month, inMonth, day, inDay, whole⟩
      · rintro ⟨year, inYear, month, inMonth, day, inDay, whole⟩
        exact ⟨day, inDay, month, inMonth, year, inYear, whole⟩

/-- The texts in the shape of a form are the renderings of numbers of full width. -/
theorem mem_language_shape_iff (form : DateForm) (chars : List Char) :
    chars ∈ form.shape.language ↔
      ∃ date : CalendarDate, date.HasFullWidth ∧ chars = form.render date := by
  simp only [mem_language_shape_iff_cut, ShapePart.mem_digits_iff (by decide : 0 < 4),
    ShapePart.mem_digits_iff (by decide : 0 < 2)]
  constructor
  · rintro ⟨_, ⟨year, yearBelow, rfl⟩, _, ⟨month, monthBelow, rfl⟩, _, ⟨day, dayBelow, rfl⟩, rfl⟩
    exact ⟨⟨year, month, day⟩, ⟨yearBelow, monthBelow, dayBelow⟩, rfl⟩
  · rintro ⟨date, full, rfl⟩
    exact ⟨_, ⟨_, full.year, rfl⟩, _, ⟨_, full.month, rfl⟩, _, ⟨_, full.day, rfl⟩, rfl⟩

/-! ## One reading -/

/-- The pieces of a rendering are its numbers. -/
theorem splitOn_render (form : DateForm) (date : CalendarDate) :
    (form.render date).splitOn form.separator.char =
      form.order.arrange (Text.padded 4 date.year) (Text.padded 2 date.month)
        (Text.padded 2 date.day) := by
  apply List.splitOn_intercalate
  · intro piece isPiece member
    rw [DateOrder.mem_arrange_iff] at isPiece
    have digit : form.separator.char.isDigit = true := by
      rcases isPiece with rfl | rfl | rfl <;> exact Text.isDigit_of_mem_padded member
    rw [form.separator.isDigit_char] at digit
    cases digit
  · cases form.order <;> simp [DateOrder.arrange]

/-- A rendering holds its separator twice and digits otherwise. -/
theorem filter_render (form : DateForm) (date : CalendarDate) :
    (form.render date).filter (fun char => !char.isDigit) =
      [form.separator.char, form.separator.char] := by
  have digits (width value : Nat) :
      (Text.padded width value).filter (fun char => !char.isDigit) = [] := by
    apply List.filter_eq_nil_iff.2
    intro char member
    simp [Text.isDigit_of_mem_padded member]
  have plain := form.separator.isDigit_char
  rw [render]
  cases form.order <;> simp [DateOrder.arrange, List.intercalate, digits, plain]

/-- The width of the number that stands first. -/
def firstWidth : DateOrder → Nat
  | .yearMonthDay | .yearDayMonth => 4
  | .dayMonthYear => 2

theorem length_head_arrange
    {date : CalendarDate}
    (full : date.HasFullWidth)
    (order : DateOrder) :
    (order.arrange (Text.padded 4 date.year) (Text.padded 2 date.month)
        (Text.padded 2 date.day)).head?.map List.length =
      some (firstWidth order) := by
  have four : (Text.padded 4 date.year).length = 4 := Text.length_padded (by decide) full.year
  have two : (Text.padded 2 date.day).length = 2 := Text.length_padded (by decide) full.day
  cases order <;> simp [DateOrder.arrange, firstWidth, four, two]

/-- The numbers of a rendering are those of the date. -/
theorem eq_of_render_eq
    {form : DateForm} {date other : CalendarDate}
    (same : form.render date = form.render other) :
    date = other := by
  have pieces := splitOn_render form date
  rw [same, splitOn_render form other] at pieces
  obtain ⟨year, month, day⟩ := DateOrder.eq_of_arrange_eq pieces
  have number {width left right : Nat} (text : Text.padded width left = Text.padded width right) :
      left = right := by
    rw [← Text.ofDigitChars_padded width left, text, Text.ofDigitChars_padded]
  exact CalendarDate.ext (number year).symm (number month).symm (number day).symm

/-- A text is the rendering of a day of the calendar. -/
structure Writes (form : DateForm) (date : CalendarDate) (chars : List Char) : Prop where
  real : date.Exists
  written : chars = form.render date

/-- The forms of a date where no form is asked for. -/
def accepted : List DateForm :=
  [⟨.yearMonthDay, .dash⟩, ⟨.dayMonthYear, .dash⟩, ⟨.dayMonthYear, .slash⟩,
    ⟨.yearDayMonth, .slash⟩]

/-- Among the accepted forms the separator and the width of the first number tell which. -/
theorem eq_of_mem_accepted :
    ∀ left ∈ accepted, ∀ right ∈ accepted,
      left.separator = right.separator →
      firstWidth left.order = firstWidth right.order →
      left = right := by
  decide

theorem Writes.unique
    {left right : DateForm} {date other : CalendarDate} {chars : List Char}
    (leftAccepted : left ∈ accepted)
    (rightAccepted : right ∈ accepted)
    (writes : left.Writes date chars)
    (also : right.Writes other chars) :
    left = right ∧ date = other := by
  have same : left.render date = right.render other := writes.written.symm.trans also.written
  have separator : left.separator = right.separator := by
    have marks := filter_render left date
    rw [same, filter_render right other] at marks
    exact (DateSeparator.char_injective (List.cons.inj marks).1).symm
  have width : firstWidth left.order = firstWidth right.order := by
    have pieces := splitOn_render left date
    rw [same, separator, splitOn_render right other] at pieces
    apply Option.some.inj
    rw [← length_head_arrange writes.real.hasFullWidth, ← pieces,
      length_head_arrange also.real.hasFullWidth]
  obtain rfl := eq_of_mem_accepted left leftAccepted right rightAccepted separator width
  exact ⟨rfl, eq_of_render_eq same⟩

end DateForm

end Fieldwise.Format
