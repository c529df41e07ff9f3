import Fieldwise.Proofs.BuiltIn.Single
import Fieldwise.Proofs.Format.DateForm

/-!
Contract: the texts that the date rules accept.

Owns: what is known of the library that reads dates, the texts in a layout as the
renderings of days of the calendar, and the reports of the two date rules.

Does **not** own: the forms of a date and their shapes (`Fieldwise.Proofs.Format.DateForm`).

The library is asked about texts of the right shape only, so that it is enough to know what
it does with numbers of full width.
-/

set_option autoImplicit false

namespace Fieldwise.Format

/-! ## The library -/

/-- A library reads numbers of full width by the layout of their form: there is a date
exactly if they are a day of the calendar. -/
def DateReader.ReadsFullWidth (reader : DateReader) : Prop :=
  ∀ (form : DateForm) (date : CalendarDate), date.HasFullWidth →
    ((reader.read? form.layout.pattern (form.render date)).isSome = true ↔ date.isDay = true)

namespace DateReader

/-- A number of full width is read as it is, whatever follows it. -/
theorem leadingNumber?_padded
    {width value : Nat}
    (positive : 0 < width)
    (below : value < 10 ^ width)
    (rest : List Char) :
    leadingNumber? width (Text.padded width value ++ rest) = some (value, rest) := by
  have long : (Text.padded width value).length = width := Text.length_padded positive below
  have digits : ∀ char ∈ Text.padded width value, char.isDigit = true :=
    fun char member => Text.isDigit_of_mem_padded member
  have visible : Text.trimStart (Text.padded width value ++ rest) =
      Text.padded width value ++ rest := by
    obtain ⟨first, more, shape⟩ :=
      List.exists_cons_of_ne_nil (List.ne_nil_of_length_pos (long.symm ▸ positive))
    have plain : Text.isBlank first = false :=
      Text.isBlank_of_isDigit (digits first (by simp [shape]))
    rw [shape, List.cons_append, Text.trimStart, List.dropWhile_cons_of_neg (by simp [plain])]
  have run : (Text.padded width value).takeWhile Char.isDigit = Text.padded width value :=
    List.takeWhile_eq_self_iff.2 digits
  have number : Text.natural? (Text.padded width value) = some value :=
    (Text.natural?_eq_some_iff _ value).2
      ⟨⟨List.ne_nil_of_length_pos (long.symm ▸ positive), digits⟩, Text.ofDigitChars_padded _ _⟩
  rw [leadingNumber?, visible, List.take_left' long, run, number, List.drop_left]
  rfl

section Fill

variable {value : Nat} (pattern rest : List Char) (date : CalendarDate)

theorem fill?_year (below : value < 10 ^ 4) :
    fill? ('%' :: 'Y' :: pattern) (Text.padded 4 value ++ rest) date =
      fill? pattern rest { date with year := value } := by
  rw [fill?, leadingNumber?_padded (by decide) below, Option.bind_some]

theorem fill?_month (below : value < 10 ^ 2) :
    fill? ('%' :: 'm' :: pattern) (Text.padded 2 value ++ rest) date =
      fill? pattern rest { date with month := value } := by
  rw [fill?, leadingNumber?_padded (by decide) below, Option.bind_some]

theorem fill?_day (below : value < 10 ^ 2) :
    fill? ('%' :: 'd' :: pattern) (Text.padded 2 value ++ rest) date =
      fill? pattern rest { date with day := value } := by
  rw [fill?, leadingNumber?_padded (by decide) below, Option.bind_some]

theorem fill?_mark (separator : DateSeparator) :
    fill? (separator.char :: pattern) (separator.char :: rest) date = fill? pattern rest date := by
  cases separator <;> simp [DateSeparator.char, fill?]

end Fill

theorem fill?_render {form : DateForm} {date : CalendarDate} (full : date.HasFullWidth) :
    fill? form.layout.pattern.toList (form.render date) ⟨0, 0, 0⟩ = some date := by
  have pattern : form.layout.pattern.toList =
      [form.separator.char].intercalate
        (form.order.arrange ['%', 'Y'] ['%', 'm'] ['%', 'd']) := by
    obtain ⟨order, separator⟩ := form
    cases order <;> cases separator <;> decide
  rw [pattern, DateForm.render]
  cases form.order <;>
    simp only [DateOrder.arrange, List.intercalate, List.intersperse, List.flatten_cons,
      List.flatten_nil, List.cons_append, List.nil_append, fill?_year _ _ _ full.year,
      fill?_month _ _ _ full.month, fill?_day _ _ _ full.day, fill?_mark, fill?]

/-- The lenient reader reads numbers of full width, among others. -/
theorem lenient_readsFullWidth : lenient.ReadsFullWidth := by
  intro form date full
  show ((fill? form.layout.pattern.toList (form.render date) ⟨0, 0, 0⟩).filter
    CalendarDate.isDay).isSome = true ↔ date.isDay = true
  rw [fill?_render full, Option.isSome_filter, Option.any_some]

end DateReader

/-! ## The tests -/

/-- The shape and the library together accept the renderings of days of the calendar. -/
theorem parsesAs_eq_true_iff
    {reader : DateReader}
    (reads : reader.ReadsFullWidth)
    (form : DateForm)
    (chars : List Char) :
    parsesAs reader form.layout chars = true ↔ ∃ date, form.Writes date chars := by
  rw [parsesAs, form.shape?_layout, Option.any_some, Bool.and_eq_true,
    DateShape.isMatch_eq_true_iff, form.mem_language_shape_iff]
  constructor
  · rintro ⟨⟨date, full, rfl⟩, read⟩
    have year := full.year
    have real : date.Exists := date.exists_iff.2 ⟨by omega, (reads form date full).1 read⟩
    exact ⟨date, real, rfl⟩
  · rintro ⟨date, real, rfl⟩
    have full := real.hasFullWidth
    exact ⟨⟨date, full, rfl⟩, (reads form date full).2 (date.exists_iff.1 real).2⟩

/-- The tokens that name a form. -/
inductive DateForm.Named : String → DateForm → Prop where
  | yearMonthDaySlash : Named "YYYY/MM/DD" ⟨.yearMonthDay, .slash⟩
  | yearDayMonthSlash : Named "YYYY/DD/MM" ⟨.yearDayMonth, .slash⟩
  | yearMonthDayDash : Named "YYYY-MM-DD" ⟨.yearMonthDay, .dash⟩
  | yearDayMonthDash : Named "YYYY-DD-MM" ⟨.yearDayMonth, .dash⟩

theorem DateLayout.ofToken?_of_named
    {token : String} {form : DateForm}
    (named : DateForm.Named token form) :
    ofToken? token = some form.layout := by
  cases named <;> decide

theorem DateLayout.exists_named_of_ofToken?
    {token : String} {layout : DateLayout}
    (found : ofToken? token = some layout) :
    ∃ form, DateForm.Named token form ∧ form.layout = layout := by
  unfold ofToken? at found
  split at found
  · exact ⟨_, .yearMonthDaySlash, Option.some.inj found ▸ by decide⟩
  · exact ⟨_, .yearDayMonthSlash, Option.some.inj found ▸ by decide⟩
  · exact ⟨_, .yearMonthDayDash, Option.some.inj found ▸ by decide⟩
  · exact ⟨_, .yearDayMonthDash, Option.some.inj found ▸ by decide⟩
  · cases found

theorem DateForm.map_layout_accepted : accepted.map layout = DateLayout.accepted := by
  decide

section Tests

variable {reader : DateReader} (reads : reader.ReadsFullWidth)

include reads

theorem isDateOf_eq_true_iff (token : String) (chars : List Char) :
    isDateOf reader token chars = true ↔
      ∃ form date, DateForm.Named token form ∧ form.Writes date chars := by
  rw [isDateOf, Option.any_eq_true]
  constructor
  · rintro ⟨layout, found, parsed⟩
    obtain ⟨form, named, rfl⟩ := DateLayout.exists_named_of_ofToken? found
    obtain ⟨date, writes⟩ := (parsesAs_eq_true_iff reads form chars).1 parsed
    exact ⟨form, date, named, writes⟩
  · rintro ⟨form, date, named, writes⟩
    exact ⟨form.layout, DateLayout.ofToken?_of_named named,
      (parsesAs_eq_true_iff reads form chars).2 ⟨date, writes⟩⟩

theorem isDate_eq_true_iff (chars : List Char) :
    isDate reader chars = true ↔ ∃ form ∈ DateForm.accepted, ∃ date, form.Writes date chars := by
  simp only [isDate, ← DateForm.map_layout_accepted, List.any_map, List.any_eq_true,
    Function.comp_apply, parsesAs_eq_true_iff reads]

end Tests

end Fieldwise.Format

/-! ## The reports -/

namespace Fieldwise.Validator

open Format

variable (config : Config) (reachability : Reachability) (book : RuleBook)

/-- **The date rules accept the renderings of days of the calendar and nothing else.** A
rule with a token accepts those in the form of the token, and no text where the token
names no form. A rule without one accepts those in the four accepted forms, and a text
is never accepted in two of them or for two days. Every other text has exactly the one
error of the rule. The layouts and shapes behind the forms are those of their tables, and
the texts of a shape are the renderings of numbers of full width. Of the library that reads
dates it is used only what it does with such numbers. -/
theorem date_rules_accept_calendar_days
    [libraries : Libraries]
    (reads : libraries.dates.ReadsFullWidth) :
    let validator := Builder.assemble { config, reachability, predicates := [], rules := book }
    (∀ (lookup : String → Option Value) (name content : String) (given : Parameter),
      Need.single.Meets (some given) →
      let rule : Rule := ⟨.builtIn .dateFormat, some given⟩
      let errors :=
        (validator.validate ⟨[⟨name, .text content, .registered [rule]⟩], lookup⟩).errors
      let written :=
        ∃ form date, DateForm.Named given.toText form ∧ form.Writes date content.toList
      (errors = [] ↔ written) ∧
      (errors =
          [.about name rule "dateFormat"
            ("The " ++ name ++ " field does not match the date format " ++ given.toText)] ↔
        ¬ written)) ∧
    (∀ (lookup : String → Option Value) (name content : String) (parameter : Option Parameter),
      let rule : Rule := ⟨.builtIn .date, parameter⟩
      let errors :=
        (validator.validate ⟨[⟨name, .text content, .registered [rule]⟩], lookup⟩).errors
      let written :=
        ∃ form ∈ DateForm.accepted, ∃ date, form.Writes date content.toList
      (errors = [] ↔ written) ∧
      (errors =
          [.about name rule "date" ("The " ++ name ++ " field is not a valid date")] ↔
        ¬ written)) ∧
    (∀ (chars : List Char) (left right : DateForm) (date other : CalendarDate),
      left ∈ DateForm.accepted → right ∈ DateForm.accepted →
      left.Writes date chars → right.Writes other chars →
      left = right ∧ date = other) ∧
    ∀ (form : DateForm) (chars : List Char),
      ∃ shape, form.layout.shape? = some shape ∧
        (shape.isMatch chars = true ↔ chars ∈ shape.language) ∧
        (chars ∈ shape.language ↔ ∃ date, date.HasFullWidth ∧ chars = form.render date) := by
  intro validator
  refine ⟨?_, ?_, fun chars left right date other => DateForm.Writes.unique, ?_⟩
  · intro lookup name content given met rule errors written
    have message : Report.keywordMessage name .dateFormat rule (.text content) =
        "The " ++ name ++ " field does not match the date format " ++ given.toText := by
      apply String.ext
      simp [Report.keywordMessage, Rule.parameterText, Parameter.toText, rule]
    rw [← message]
    refine errors_of_met config reachability book lookup name rfl (by simp) (.text content) met
      (by decide) fun companion => ?_
    simp only [Keyword.Passes, rule, Value.text.injEq, Option.some.injEq, exists_and_left,
      exists_eq_left', isDateOf_eq_true_iff reads, written]
  · intro lookup name content parameter rule errors written
    have message : Report.keywordMessage name .date rule (.text content) =
        "The " ++ name ++ " field is not a valid date" := by
      apply String.ext
      simp [Report.keywordMessage]
    rw [← message]
    refine errors_of_met config reachability book lookup name rfl (by simp) (.text content)
      (.nothing parameter) (by decide) fun companion => ?_
    simp only [Keyword.Passes, Value.text.injEq, exists_eq_left', isDate_eq_true_iff reads,
      written]
  · intro form chars
    exact ⟨form.shape, form.shape?_layout, form.shape.isMatch_eq_true_iff chars,
      form.mem_language_shape_iff chars⟩

/-- The leap day of the year 0 is accepted under a token, and is read in one form. -/
theorem leap_day_of_year_zero_is_accepted :
    let rule : Rule := ⟨.builtIn .dateFormat, some (.text "YYYY-DD-MM")⟩
    let yearFirst : DateForm := ⟨.yearDayMonth, .slash⟩
    let dayFirst : DateForm := ⟨.dayMonthYear, .slash⟩
    DateReader.lenient.ReadsFullWidth ∧
    Need.single.Meets rule.parameter ∧
    (Validator.default.validate
      ⟨[⟨"Born", .text "0000-29-02", .registered [rule]⟩], fun _ => none⟩).errors = [] ∧
    yearFirst ∈ DateForm.accepted ∧ dayFirst ∈ DateForm.accepted ∧
    yearFirst.Writes ⟨0, 2, 29⟩ "0000/29/02".toList ∧
    ¬ dayFirst.Writes ⟨0, 2, 29⟩ "0000/29/02".toList := by
  intro rule yearFirst dayFirst
  have real : CalendarDate.Exists ⟨0, 2, 29⟩ :=
    ⟨by decide, by decide, 29, .leapFebruary (by decide), by decide⟩
  have yearAccepted : yearFirst ∈ DateForm.accepted := by decide
  have dayAccepted : dayFirst ∈ DateForm.accepted := by decide
  have writes : yearFirst.Writes ⟨0, 2, 29⟩ "0000/29/02".toList := ⟨real, by decide⟩
  have reads : DateReader.lenient.ReadsFullWidth := DateReader.lenient_readsFullWidth
  obtain ⟨underToken, -, oneReading, -⟩ :=
    date_rules_accept_calendar_days Config.default Reachability.offline Table.empty reads
  obtain ⟨accepts, -⟩ := underToken (fun _ => none) "Born" "0000-29-02" (.text "YYYY-DD-MM")
    (.singleText _)
  refine ⟨reads, .singleText _, accepts.2 ?_, yearAccepted, dayAccepted, writes, ?_⟩
  · exact ⟨⟨.yearDayMonth, .dash⟩, ⟨0, 2, 29⟩, .yearDayMonthDash, real, by decide⟩
  · intro also
    obtain ⟨same, -⟩ := oneReading _ _ _ _ _ yearAccepted dayAccepted writes also
    exact absurd same (by decide)

end Fieldwise.Validator
