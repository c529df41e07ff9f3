import Fieldwise.Proofs.BuiltIn.Single
import Fieldwise.Proofs.Rule.Specification
import Fieldwise.Proofs.Text.Numeral

/-!
Contract: rules on the size of texts and lists, from the specification to the report.

Owns: the size of a value that two values of one shape make when they are joined, the
verdict on a size that was cut off at the greatest integer of 64 bits, the report on a value
under a bound on its size, and how the bounds agree with each other.

Does **not** own: which values have a size (`Fieldwise.Proofs.BuiltIn.Demand`), and the
numerals of limits (`Fieldwise.Proofs.Text.Numeral`).

A size is a natural number, of which at most the greatest integer of 64 bits counts, and a
limit is an integer of 64 bits. A negative limit is below every size.
-/

set_option autoImplicit false

namespace Fieldwise

/-! ## Values that are joined -/

namespace Value

/-- Two texts, two lists of texts or two lists of integers of 64 bits, and the value that has
the characters or items of both. -/
inductive Joined : Value → Value → Value → Prop where
  | texts (front back : String) :
      Joined (.text front) (.text back) (.text (front ++ back))
  | textLists (front back : List String) :
      Joined (.list (front.map .text)) (.list (back.map .text))
        (.list (front.map .text ++ back.map .text))
  | integerLists {front back : List Int}
      (frontInRange : ∀ number ∈ front, IsInt64 number)
      (backInRange : ∀ number ∈ back, IsInt64 number) :
      Joined (.list (front.map .integer)) (.list (back.map .integer))
        (.list (front.map .integer ++ back.map .integer))

theorem Joined.fits
    {front back whole : Value}
    (joined : Joined front back whole) :
    Shape.sized.Fits front ∧ Shape.sized.Fits back ∧ Shape.sized.Fits whole := by
  cases joined with
  | texts front back => exact ⟨.characters _, .characters _, .characters _⟩
  | textLists front back =>
      rw [← List.map_append]
      exact ⟨.texts front, .texts back, .texts (front ++ back)⟩
  | @integerLists front back frontInRange backInRange =>
      rw [← List.map_append]
      refine ⟨.integers frontInRange, .integers backInRange, .integers ?_⟩
      intro number member
      rcases List.mem_append.1 member with early | late
      · exact frontInRange number early
      · exact backInRange number late

/-- The size of what is joined is the sum of the sizes. -/
theorem Joined.extent_eq
    {front back whole : Value}
    (joined : Joined front back whole) :
    whole.extent = front.extent + back.extent := by
  cases joined with
  | texts front back => exact String.length_append ..
  | textLists front back => exact List.length_append
  | integerLists frontInRange backInRange => exact List.length_append

end Value

/-- A value with a size passes where a value is required exactly if its size is not zero. -/
theorem Keyword.passes_required_iff_extent
    [Libraries]
    (reachability : Reachability)
    (timeout : Duration)
    (companion : Companion)
    (parameter : Option Parameter)
    {value : Value}
    (sized : Shape.sized.Fits value) :
    Keyword.required.Passes reachability timeout companion value parameter ↔
      1 ≤ value.extent := by
  rw [Nat.one_le_iff_ne_zero]
  cases sized <;> simp [Passes, Value.extent]

/-! ## Bounds -/

namespace Check

/-- The next integer of 64 bits, where there is one. -/
theorem toInt_add_one {limit : Int64} (below : limit.toInt < 9223372036854775807) :
    (limit + 1).toInt = limit.toInt + 1 := by
  have least := Int64.le_toInt limit
  have one : Int64.toInt 1 = 1 := by decide
  rw [Int64.toInt_add, one]
  apply Int.bmod_eq_of_le <;> omega

namespace SizeBound

theorem passes_iff
    [Libraries]
    (bound : SizeBound)
    (reachability : Reachability)
    (timeout : Duration)
    (companion : Companion)
    (value : Value)
    (limit : Int64) :
    bound.keyword.Passes reachability timeout companion value (some (.integer limit)) ↔
      bound.Keeps value.extent limit.toInt := by
  cases bound <;> simp [keyword, Keyword.Passes]

/-- Every bound is an integer, which is a scalar, for the size of a value. -/
theorem subject_need_form (bound : SizeBound) :
    bound.keyword.subject = .sized ∧ bound.keyword.need = .integer ∧
      bound.keyword.form = .scalar ∧ bound.keyword ≠ .confirmed := by
  cases bound <;> decide

/-- Cutting a size off at the greatest integer of 64 bits changes the verdict only where a
greater size meets that integer as its limit. -/
theorem keeps_iff_relates
    (bound : SizeBound)
    {size : Nat} {limit : Int64}
    (within : size ≤ 9223372036854775807 ∨ limit.toInt < 9223372036854775807) :
    bound.Keeps size limit.toInt ↔ bound.Relates size limit.toInt := by
  have belowGreatest := Int64.toInt_lt limit
  cases bound <;> simp only [Keeps, Relates] <;> omega

theorem keeps_exactly_iff (size : Nat) (limit : Int) :
    exactly.Keeps size limit ↔ atMost.Keeps size limit ∧ atLeast.Keeps size limit := by
  simp only [Keeps, Relates]
  omega

theorem keeps_atMost_iff (size : Nat) (limit : Int) :
    atMost.Keeps size limit ↔ ¬ atLeast.Keeps size (limit + 1) := by
  simp only [Keeps, Relates]
  omega

theorem keeps_atLeast_one_iff (size : Nat) : atLeast.Keeps size 1 ↔ 1 ≤ size := by
  simp only [Keeps, Relates]
  omega

theorem keeps_atMost_of_le
    {smaller size : Nat} {limit : Int}
    (ordered : smaller ≤ size)
    (keeps : atMost.Keeps size limit) :
    atMost.Keeps smaller limit := by
  simp only [Keeps, Relates] at keeps ⊢
  omega

theorem keeps_atLeast_of_le
    {size greater : Nat} {limit : Int}
    (ordered : size ≤ greater)
    (keeps : atLeast.Keeps size limit) :
    atLeast.Keeps greater limit := by
  simp only [Keeps, Relates] at keeps ⊢
  omega

end SizeBound

end Check

/-! ## The report -/

namespace Validator

variable (config : Config) (reachability : Reachability) (book : RuleBook)

/-- The report on a value with a size under a bound on it. -/
theorem errors_of_sizeBound
    [Libraries]
    (lookup : String → Option Value)
    (name : String)
    {bound : Check.SizeBound} {source : RuleSource} {limit : Int64} {value : Value}
    (reads : source.rules = [⟨.builtIn bound.keyword, some (.integer limit)⟩])
    (sized : Shape.sized.Fits value) :
    let validator := Builder.assemble { config, reachability, predicates := [], rules := book }
    let rule : Rule := ⟨.builtIn bound.keyword, some (.integer limit)⟩
    let errors := (validator.validate ⟨[⟨name, value, source⟩], lookup⟩).errors
    (errors = [] ↔ bound.Keeps value.extent limit.toInt) ∧
    (errors =
        [.about name rule bound.keyword.name
          (Report.keywordMessage name bound.keyword rule value)] ↔
      ¬ bound.Keeps value.extent limit.toInt) := by
  intro validator rule errors
  obtain ⟨measured, needed, -, alone⟩ := bound.subject_need_form
  exact errors_of_reads config reachability book lookup name reads rfl
    (sized.ne_null (by decide)) (measured ▸ sized) (needed ▸ .integer limit) alone
    fun companion => bound.passes_iff _ _ companion value limit

/-- The report on a value with a size where a value is required. -/
theorem errors_of_required
    [Libraries]
    (lookup : String → Option Value)
    (name : String)
    (parameter : Option Parameter)
    {value : Value}
    (sized : Shape.sized.Fits value) :
    let validator := Builder.assemble { config, reachability, predicates := [], rules := book }
    let rule : Rule := ⟨.builtIn .required, parameter⟩
    (validator.validate ⟨[⟨name, value, .registered [rule]⟩], lookup⟩).errors = [] ↔
      1 ≤ value.extent := by
  intro validator rule
  have kind : rule.kind = .builtIn .required := rfl
  exact (errors_of_met config reachability book lookup name kind (sized.ne_null (by decide))
    (.any value) (.nothing parameter) (by decide)
    fun companion => Keyword.passes_required_iff_extent _ _ companion parameter sized).1

/-- **The rules on the size of a value agree with each other.** On a text or on a list of
texts only or of 64-bit integers only, a size is exact if it is at most and at least the
limit, and it is either at most a limit or at least the next one. Of two such values that are
joined, neither has a size above a limit where the whole has not, and the whole has a size of
at least a limit where one of them has. A field is required to have a size of one. The
verdicts are those of the sizes cut off at the greatest integer of 64 bits, which are those
of the sizes without limits unless a greater size meets that integer as its limit. Every other
value but null is of the wrong type for these rules, whatever their parameter is. -/
theorem length_rules_agree
    [Libraries]
    (lookup : String → Option Value)
    (name : String) :
    let validator := Builder.assemble { config, reachability, predicates := [], rules := book }
    let errors (value : Value) (source : RuleSource) : List FieldError :=
      (validator.validate ⟨[⟨name, value, source⟩], lookup⟩).errors
    let ruled (keyword : Keyword) (parameter : Option Parameter) : RuleSource :=
      .registered [⟨.builtIn keyword, parameter⟩]
    let passes (keyword : Keyword) (value : Value) (limit : Int64) : Prop :=
      errors value (ruled keyword (some (.integer limit))) = []
    (∀ (text : String) (limit : Int64), Text.Writes text.toList limit.toInt →
      ∀ keyword ∈ [Keyword.max, .min, .size], ∀ value,
        errors value (.declared (keyword.name ++ ":" ++ text)) =
          errors value (ruled keyword (some (.integer limit)))) ∧
    (∀ value, Shape.sized.Fits value → ∀ limit : Int64,
      (passes .size value limit ↔ passes .max value limit ∧ passes .min value limit) ∧
      (limit.toInt < 9223372036854775807 →
        (passes .max value limit ↔ ¬ passes .min value (limit + 1))) ∧
      (∀ parameter, errors value (ruled .required parameter) = [] ↔ passes .min value 1) ∧
      (∀ bound : Check.SizeBound,
        (passes bound.keyword value limit ↔ bound.Keeps value.extent limit.toInt) ∧
        (value.extent ≤ 9223372036854775807 ∨ limit.toInt < 9223372036854775807 →
          (passes bound.keyword value limit ↔
            bound.Relates value.extent limit.toInt)))) ∧
    (∀ front back whole, Value.Joined front back whole → ∀ limit : Int64,
      (¬ passes .max front limit ∨ ¬ passes .max back limit → ¬ passes .max whole limit) ∧
      (passes .min front limit ∨ passes .min back limit → passes .min whole limit)) ∧
    (∀ value, value ≠ .null → ¬ Shape.sized.Fits value →
      ∀ keyword ∈ [Keyword.max, .min, .size], ∀ parameter,
        errors value (ruled keyword parameter) =
          [.about name ⟨.builtIn keyword, parameter⟩ "invalid_type"
            ((Fault.coercion .sized value.typeName).describe name)]) := by
  intro validator errors ruled passes
  have verdict (bound : Check.SizeBound) {value : Value} (sized : Shape.sized.Fits value)
      (limit : Int64) :
      passes bound.keyword value limit ↔ bound.Keeps value.extent limit.toInt :=
    (errors_of_sizeBound config reachability book lookup name rfl sized).1
  have max {value : Value} (sized : Shape.sized.Fits value) (limit : Int64) :
      passes .max value limit ↔ Check.SizeBound.atMost.Keeps value.extent limit.toInt :=
    verdict .atMost sized limit
  have min {value : Value} (sized : Shape.sized.Fits value) (limit : Int64) :
      passes .min value limit ↔ Check.SizeBound.atLeast.Keeps value.extent limit.toInt :=
    verdict .atLeast sized limit
  have size {value : Value} (sized : Shape.sized.Fits value) (limit : Int64) :
      passes .size value limit ↔ Check.SizeBound.exactly.Keeps value.extent limit.toInt :=
    verdict .exactly sized limit
  refine ⟨?_, ?_, ?_, ?_⟩
  · intro text limit writes keyword member value
    have scalar : keyword.form = .scalar := by
      revert keyword
      decide
    exact errors_eq_of_rules_eq validator lookup name value (Rule.rules_numeral scalar writes)
  · intro value sized limit
    refine ⟨?_, ?_, ?_, ?_⟩
    · rw [size sized, max sized, min sized]
      exact Check.SizeBound.keeps_exactly_iff value.extent limit.toInt
    · intro below
      rw [max sized, min sized, Check.toInt_add_one below]
      exact Check.SizeBound.keeps_atMost_iff value.extent limit.toInt
    · intro parameter
      have one : Int64.toInt 1 = 1 := by decide
      rw [min sized, one, Check.SizeBound.keeps_atLeast_one_iff]
      exact errors_of_required config reachability book lookup name parameter sized
    · intro bound
      refine ⟨verdict bound sized limit, ?_⟩
      intro within
      rw [verdict bound sized, bound.keeps_iff_relates within]
  · intro front back whole joined limit
    obtain ⟨frontSized, backSized, wholeSized⟩ := joined.fits
    have frontWithin : front.extent ≤ whole.extent := by rw [joined.extent_eq]; omega
    have backWithin : back.extent ≤ whole.extent := by rw [joined.extent_eq]; omega
    constructor
    · rw [max frontSized, max backSized, max wholeSized]
      rintro (tooLong | tooLong) keeps
      · exact tooLong (Check.SizeBound.keeps_atMost_of_le frontWithin keeps)
      · exact tooLong (Check.SizeBound.keeps_atMost_of_le backWithin keeps)
    · rw [min frontSized, min backSized, min wholeSized]
      rintro (keeps | keeps)
      · exact Check.SizeBound.keeps_atLeast_of_le frontWithin keeps
      · exact Check.SizeBound.keeps_atLeast_of_le backWithin keeps
  · intro value present unsized keyword member parameter
    have measured : keyword.subject = .sized := by
      revert keyword
      decide
    exact errors_of_mistyped config reachability book lookup name rfl rfl measured present unsized

/-- A text of five characters, one of them of two bytes, is joined with another, and a list
of a text and an integer has no size. -/
theorem accented_text_has_size_five :
    let errors (value : Value) (source : RuleSource) : List FieldError :=
      (Validator.default.validate ⟨[⟨"Name", value, source⟩], fun _ => none⟩).errors
    let ruled (keyword : Keyword) (limit : Int64) : RuleSource :=
      .registered [⟨.builtIn keyword, some (.integer limit)⟩]
    errors (.text "naïve") (.declared "size:+05") = [] ∧
    (errors (.text "naïve") (ruled .max 5) = [] ↔
      ¬ errors (.text "naïve") (ruled .min 6) = []) ∧
    ¬ errors (.text ("naïve" ++ "té")) (ruled .max 4) = [] ∧
    errors (.list [.text "a", .integer 1]) (ruled .max 5) =
      [.about "Name" ⟨.builtIn .max, some (.integer 5)⟩ "invalid_type"
        "The Name field must be a string or list value, found list"] := by
  intro errors ruled
  obtain ⟨written, agree, joined, mistyped⟩ := length_rules_agree Config.default
    Reachability.offline Table.empty (fun _ => none) "Name"
  have limit : Text.Writes "+05".toList (5 : Int64).toInt :=
    (Text.int64?_eq_some_iff _ _).1 (by decide)
  have sized : Shape.sized.Fits (.text "naïve") := .characters _
  obtain ⟨-, opposite, -, verdict⟩ := agree _ sized 5
  have five : Check.SizeBound.exactly.Keeps (Value.text "naïve").extent (5 : Int64).toInt := by
    decide
  have exact : errors (.text "naïve") (ruled .size 5) = [] := (verdict .exactly).1.2 five
  obtain ⟨-, -, -, longer⟩ := agree _ sized 4
  have aboveFour : ¬ Check.SizeBound.atMost.Keeps (Value.text "naïve").extent (4 : Int64).toInt := by
    decide
  have tooLong : ¬ errors (.text "naïve") (ruled .max 4) = [] :=
    fun passes => aboveFour ((longer .atMost).1.1 passes)
  refine ⟨(written "+05" 5 limit .size (by decide) (.text "naïve")).trans exact,
    opposite (by decide), (joined _ _ _ (.texts "naïve" "té") 4).1 (.inl tooLong), ?_⟩
  have unsized : ¬ Shape.sized.Fits (.list [.text "a", .integer 1]) := by
    rw [Shape.fits_iff_read?_isSome]
    decide
  exact mistyped _ (by simp) unsized .max (by decide) (some (.integer 5))

end Validator

end Fieldwise
