import Fieldwise.Proofs.BuiltIn.Single
import Fieldwise.Proofs.Rule.Specification
import Fieldwise.Proofs.Text.Numeral

/-!
Contract: comparisons and ranges of integers, from the specification to the report.

Owns: the bounds that the items of a parameter write, the report on an integer under a
comparison and under a range, the report on other values under either, and how the two kinds
of rule agree.

Does **not** own: the numerals themselves (`Fieldwise.Proofs.Text.Numeral`), and the reading
of specifications (`Fieldwise.Proofs.Rule.Specification`).

The threshold of a comparison becomes an integer when its rule is read, and a text that is
no numeral is a fault of the rule. The bounds of a range stay texts, which are trimmed and
read for each value, and a text that is no numeral only leaves the value without a range to
lie in.
-/

set_option autoImplicit false

namespace Fieldwise

/-! ## Comparisons -/

namespace Check.Comparison

theorem passes_iff
    [Libraries]
    (relation : Comparison)
    (reachability : Reachability)
    (timeout : Duration)
    (companion : Companion)
    (value : Int)
    (threshold : Int64) :
    relation.keyword.Passes reachability timeout companion (.integer value)
        (some (.integer threshold)) ↔
      relation.Relates value threshold.toInt := by
  cases relation <;> simp [keyword, Keyword.Passes, Relates]

/-- Every comparison is of an integer with an integer, which is a scalar. -/
theorem subject_need_form (relation : Comparison) :
    relation.keyword.subject = .integer ∧ relation.keyword.need = .integer ∧
      relation.keyword.form = .scalar ∧ relation.keyword ≠ .confirmed := by
  cases relation <;> decide

end Check.Comparison

/-! ## Keywords -/

/-- The keywords of the rules on numbers. -/
def Keyword.numeric : List Keyword :=
  [.greater, .less, .atLeast, .atMost, .between]

theorem Keyword.subject_of_mem_numeric {keyword : Keyword} (member : keyword ∈ numeric) :
    keyword.subject = .integer ∧ keyword ≠ .required ∧ keyword ≠ .accepted := by
  revert keyword
  decide

/-! ## Ranges -/

/-- Two items that write a lower and an upper bound, blanks around them aside. -/
def WritesBounds (low high : Int64) (items : List String) : Prop :=
  ∃ lowText highText,
    items = [lowText, highText] ∧
      Text.Writes (Text.trim lowText.toList) low.toInt ∧
      Text.Writes (Text.trim highText.toList) high.toInt

/-- The value lies between the two bounds that the items write. -/
def LiesBetween (value : Int) (items : List String) : Prop :=
  ∃ low high, WritesBounds low high items ∧ low.toInt ≤ value ∧ value ≤ high.toInt

theorem bound?_eq_some_iff (item : String) (bound : Int64) :
    Check.bound? item = some bound ↔ Text.Writes (Text.trim item.toList) bound.toInt :=
  Text.int64?_eq_some_iff _ bound

/-- The bounds of a range are determined by its items. -/
theorem WritesBounds.unique
    {low high otherLow otherHigh : Int64} {items : List String}
    (writes : WritesBounds low high items)
    (also : WritesBounds otherLow otherHigh items) :
    low.toInt = otherLow.toInt ∧ high.toInt = otherHigh.toInt := by
  obtain ⟨lowText, highText, rfl, lowWritten, highWritten⟩ := writes
  obtain ⟨_, _, same, lowAlso, highAlso⟩ := also
  obtain ⟨rfl, rfl⟩ : lowText = _ ∧ highText = _ := by simpa using same
  exact ⟨lowWritten.unique lowAlso, highWritten.unique highAlso⟩

theorem liesBetween_iff
    {low high : Int64} {items : List String}
    (writes : WritesBounds low high items)
    (value : Int) :
    LiesBetween value items ↔ low.toInt ≤ value ∧ value ≤ high.toInt := by
  constructor
  · rintro ⟨otherLow, otherHigh, also, above, below⟩
    obtain ⟨sameLow, sameHigh⟩ := writes.unique also
    omega
  · rintro ⟨above, below⟩
    exact ⟨low, high, writes, above, below⟩

theorem LiesBetween.length_eq
    {value : Int} {items : List String}
    (lies : LiesBetween value items) :
    items.length = 2 := by
  obtain ⟨low, high, ⟨lowText, highText, rfl, -⟩, -⟩ := lies
  rfl

/-- Each item of a range writes an integer of 64 bits. -/
theorem LiesBetween.isInt64_of_mem
    {value number : Int} {items : List String} {item : String}
    (lies : LiesBetween value items)
    (member : item ∈ items)
    (writes : Text.Writes (Text.trim item.toList) number) :
    IsInt64 number := by
  obtain ⟨low, high, ⟨lowText, highText, rfl, lowWritten, highWritten⟩, -⟩ := lies
  simp only [List.mem_cons, List.not_mem_nil, or_false] at member
  rcases member with rfl | rfl
  · rw [writes.unique lowWritten]
    exact Text.isInt64_toInt low
  · rw [writes.unique highWritten]
    exact Text.isInt64_toInt high

theorem between_passes_iff
    [Libraries]
    (reachability : Reachability)
    (timeout : Duration)
    (companion : Companion)
    (value : Int)
    (given : Parameter) :
    Keyword.between.Passes reachability timeout companion (.integer value) (some given) ↔
      LiesBetween value given.items := by
  simp only [Keyword.Passes, LiesBetween, WritesBounds, bound?_eq_some_iff, Value.integer.injEq,
    Option.some.injEq]
  constructor
  · rintro ⟨_, _, lowText, highText, low, high, rfl, rfl, two, lowWritten, highWritten, within⟩
    exact ⟨low, high, ⟨lowText, highText, two, lowWritten, highWritten⟩, within⟩
  · rintro ⟨low, high, ⟨lowText, highText, two, lowWritten, highWritten⟩, within⟩
    exact ⟨_, _, lowText, highText, low, high, rfl, rfl, two, lowWritten, highWritten, within⟩

/-! ## The report -/

namespace Validator

variable (config : Config) (reachability : Reachability) (book : RuleBook)

/-- The report on an integer of 64 bits under a comparison with a threshold. -/
theorem errors_of_threshold
    [Libraries]
    (lookup : String → Option Value)
    (name : String)
    {relation : Check.Comparison} {source : RuleSource} {threshold : Int64} {number : Int}
    (reads : source.rules = [⟨.builtIn relation.keyword, some (.integer threshold)⟩])
    (inRange : IsInt64 number) :
    let validator := Builder.assemble { config, reachability, predicates := [], rules := book }
    let rule : Rule := ⟨.builtIn relation.keyword, some (.integer threshold)⟩
    let errors := (validator.validate ⟨[⟨name, .integer number, source⟩], lookup⟩).errors
    (errors = [] ↔ relation.Relates number threshold.toInt) ∧
    (errors =
        [.about name rule relation.keyword.name
          (Report.keywordMessage name relation.keyword rule (.integer number))] ↔
      ¬ relation.Relates number threshold.toInt) := by
  intro validator rule errors
  obtain ⟨integral, needed, -, alone⟩ := relation.subject_need_form
  have fits : relation.keyword.subject.Fits (.integer number) := integral ▸ .integer inRange
  exact errors_of_reads config reachability book lookup name reads rfl (by simp) fits
    (needed ▸ .integer threshold) alone
    fun companion => relation.passes_iff _ _ companion number threshold

/-- The report on an integer under a comparison with a numeral of any form. -/
theorem errors_of_comparison
    [Libraries]
    (lookup : String → Option Value)
    (name : String)
    (relation : Check.Comparison)
    {text : String} {threshold : Int64}
    (writes : Text.Writes text.toList threshold.toInt)
    (value : Int64) :
    let validator := Builder.assemble { config, reachability, predicates := [], rules := book }
    (validator.validate
        ⟨[⟨name, .integer value.toInt, .declared (relation.keyword.name ++ ":" ++ text)⟩],
          lookup⟩).errors = [] ↔
      relation.Relates value.toInt threshold.toInt := by
  intro validator
  obtain ⟨-, -, scalar, -⟩ := relation.subject_need_form
  exact (errors_of_threshold config reachability book lookup name
    (Rule.rules_numeral scalar writes) (Text.isInt64_toInt value)).1

/-- The report on an integer under a range with a parameter of any form. -/
theorem errors_of_between
    [Libraries]
    (lookup : String → Option Value)
    (name : String)
    {source : RuleSource} {given : Parameter}
    (reads : source.rules = [⟨.builtIn .between, some given⟩])
    (value : Int64) :
    let validator := Builder.assemble { config, reachability, predicates := [], rules := book }
    let rule : Rule := ⟨.builtIn .between, some given⟩
    let errors := (validator.validate ⟨[⟨name, .integer value.toInt, source⟩], lookup⟩).errors
    (errors = [] ↔ LiesBetween value.toInt given.items) ∧
    (errors =
        [.about name rule "between"
          ("The " ++ name ++ " field must be between " ++ Report.rangeText rule)] ↔
      ¬ LiesBetween value.toInt given.items) := by
  intro validator rule errors
  have message : Report.keywordMessage name .between rule (.integer value.toInt) =
      "The " ++ name ++ " field must be between " ++ Report.rangeText rule := by
    apply String.ext
    simp [Report.keywordMessage]
  rw [← message]
  exact errors_of_reads config reachability book lookup name reads rfl (by simp)
    (.integer (Text.isInt64_toInt value)) (.items given) (by decide)
    fun companion => between_passes_iff _ _ companion value.toInt given

/-- Numerals of any form are the bounds that they write, and stand in a specification as
they are. -/
theorem rules_between
    {low high : Int64} {lowText highText : String}
    (lowWrites : Text.Writes lowText.toList low.toInt)
    (highWrites : Text.Writes highText.toList high.toInt) :
    (RuleSource.declared ("between:" ++ lowText ++ "," ++ highText)).rules =
      [⟨.builtIn .between, some (.list [lowText, highText])⟩] := by
  have characters : (lowText ++ "," ++ highText).toList =
      lowText.toList ++ ',' :: highText.toList := by simp
  have plain (char : Char) (other : ¬ (char = '+' ∨ char = '-' ∨ char.isDigit = true)) :
      char ∉ lowText.toList ∧ char ∉ highText.toList :=
    ⟨fun member => other (lowWrites.of_mem member), fun member => other (highWrites.of_mem member)⟩
  obtain ⟨lowComma, highComma⟩ := plain ',' (by decide)
  obtain ⟨lowBar, highBar⟩ := plain '|' (by decide)
  have whole : '|' ∉ (lowText ++ "," ++ highText).toList := by
    simp [characters, lowBar, highBar]
  have flush : Text.trimEnd (lowText ++ "," ++ highText).toList =
      lowText.toList ++ ',' :: highText.toList := by
    rw [characters, Text.trimEnd_append_cons _ _ (by decide),
      Text.trimEnd_eq_self highWrites.not_endsBlank]
  have items : (lowText.toList ++ ',' :: highText.toList).splitOn ',' =
      [lowText.toList, highText.toList] := by
    rw [List.splitOn_append_cons_self, List.splitOn_eq_singleton lowComma,
      List.splitOn_eq_singleton highComma]
    rfl
  have keyword : "between:" = Keyword.between.name ++ ":" := by decide
  have spec : "between:" ++ lowText ++ "," ++ highText =
      Keyword.between.name ++ ":" ++ (lowText ++ "," ++ highText) := by
    rw [keyword]
    simp only [String.append_assoc]
  rw [spec, Rule.rules_keyword .between whole, flush, Keyword.form, Parameter.parse, items,
    List.map_cons, List.map_singleton, String.ofList_toList, String.ofList_toList]

/-- The report on an integer of 64 bits under a range between numerals of any form. -/
theorem errors_of_bounds
    [Libraries]
    (lookup : String → Option Value)
    (name : String)
    {low high : Int64} {lowText highText : String} {number : Int}
    (lowWrites : Text.Writes lowText.toList low.toInt)
    (highWrites : Text.Writes highText.toList high.toInt)
    (inRange : IsInt64 number) :
    let validator := Builder.assemble { config, reachability, predicates := [], rules := book }
    let rule : Rule := ⟨.builtIn .between, some (.list [lowText, highText])⟩
    let within := low.toInt ≤ number ∧ number ≤ high.toInt
    let errors := (validator.validate
      ⟨[⟨name, .integer number, .declared ("between:" ++ lowText ++ "," ++ highText)⟩],
        lookup⟩).errors
    (errors = [] ↔ within) ∧
    (errors =
        [.about name rule "between"
          ("The " ++ name ++ " field must be between " ++ (lowText ++ " and " ++ highText))] ↔
      ¬ within) := by
  intro validator rule within errors
  have writes : WritesBounds low high [lowText, highText] :=
    ⟨lowText, highText, rfl, by rwa [lowWrites.trim_eq_self], by rwa [highWrites.trim_eq_self]⟩
  have lies : LiesBetween number [lowText, highText] ↔ within := liesBetween_iff writes number
  obtain ⟨value, rfl⟩ := inRange.exists_word
  rw [← lies]
  exact errors_of_between config reachability book lookup name
    (rules_between lowWrites highWrites) value

theorem errors_of_range
    [Libraries]
    (lookup : String → Option Value)
    (name : String)
    {low high : Int64} {lowText highText : String}
    (lowWrites : Text.Writes lowText.toList low.toInt)
    (highWrites : Text.Writes highText.toList high.toInt)
    (value : Int64) :
    let validator := Builder.assemble { config, reachability, predicates := [], rules := book }
    (validator.validate
        ⟨[⟨name, .integer value.toInt,
          .declared ("between:" ++ lowText ++ "," ++ highText)⟩], lookup⟩).errors = [] ↔
      low.toInt ≤ value.toInt ∧ value.toInt ≤ high.toInt :=
  (errors_of_bounds config reachability book lookup name lowWrites highWrites
    (Text.isInt64_toInt value)).1

/-- The report on a value that is no integer of 64 bits under a rule on numbers, whatever its
parameter is. -/
theorem errors_of_no_integer
    [Libraries]
    (lookup : String → Option Value)
    (name : String)
    {keyword : Keyword} {raw : String} {value : Value}
    (numeric : keyword ∈ Keyword.numeric)
    (whole : '|' ∉ raw.toList)
    (present : value ≠ .null)
    (unfit : ¬ Shape.integer.Fits value) :
    let validator := Builder.assemble { config, reachability, predicates := [], rules := book }
    (validator.validate
        ⟨[⟨name, value, .declared (keyword.name ++ ":" ++ raw)⟩], lookup⟩).errors =
      [.about name
        ⟨.builtIn keyword, some (Parameter.parse keyword.form (Text.trimEnd raw.toList))⟩
        "invalid_type" ((Fault.coercion .integer value.typeName).describe name)] :=
  errors_of_mistyped config reachability book lookup name (Rule.rules_keyword keyword whole) rfl
    (Keyword.subject_of_mem_numeric numeric).1 present unfit

/-- No value makes a fault of the parameter of a range. -/
theorem code_of_between
    [Libraries]
    (lookup : String → Option Value)
    (name : String)
    (value : Value)
    (given : Parameter) :
    let validator := Builder.assemble { config, reachability, predicates := [], rules := book }
    let rule : Rule := ⟨.builtIn .between, some given⟩
    ∀ error ∈ (validator.validate ⟨[⟨name, value, .registered [rule]⟩], lookup⟩).errors,
      error.code = "between" ∨ error.code = "invalid_type" := by
  intro validator rule error member
  have kind : rule.kind = .builtIn .between := rfl
  obtain ⟨outcome, leads⟩ := BuiltInOutcome.exists_of_keyword reachability
    config.activeUrlTimeout _ name value kind
  rw [errors_of_single rfl leads, Option.mem_toList] at member
  subst member
  cases leads with
  | unknown kind => cases kind
  | nullMissing kind _ => cases kind
  | nullUnaccepted kind _ => cases kind
  | mistyped kind _ _ => exact .inr rfl
  | misconfigured kind _ _ refused =>
      obtain rfl := Kind.builtIn.inj kind
      cases refused
  | failed kind _ _ _ _ _ =>
      obtain rfl := Kind.builtIn.inj kind
      exact .inl rfl
  | unconfirmed kind _ _ => cases kind

/-- **Comparisons and ranges of integers agree, and are exact.** Whatever form the numerals
of a specification have, a value is in a range exactly if it is at least the lower bound and
at most the upper one, and of two opposite comparisons it passes exactly one. A range with
any parameter is never a fault of the rule: the value lies between two bounds that the items
write, or the one error is that of the rule. Bounds in the wrong order, a bound that does
not fit 64 bits, and a number of items other than two leave no value to pass. -/
theorem comparisons_and_ranges_agree
    [Libraries]
    (lookup : String → Option Value)
    (name : String) :
    let validator := Builder.assemble { config, reachability, predicates := [], rules := book }
    let passes (value : Int64) (spec : String) : Prop :=
      (validator.validate ⟨[⟨name, .integer value.toInt, .declared spec⟩], lookup⟩).errors = []
    let rule (given : Parameter) : Rule := ⟨.builtIn .between, some given⟩
    let errors (value : Value) (given : Parameter) :=
      (validator.validate ⟨[⟨name, value, .registered [rule given]⟩], lookup⟩).errors
    let refused (given : Parameter) : List FieldError :=
      [.about name (rule given) "between"
        ("The " ++ name ++ " field must be between " ++ Report.rangeText (rule given))]
    (∀ (value low high : Int64) (lowText highText : String),
      Text.Writes lowText.toList low.toInt → Text.Writes highText.toList high.toInt →
        (passes value ("between:" ++ lowText ++ "," ++ highText) ↔
          passes value ("gte:" ++ lowText) ∧ passes value ("lte:" ++ highText)) ∧
        (passes value ("between:" ++ lowText ++ "," ++ highText) ↔
          low.toInt ≤ value.toInt ∧ value.toInt ≤ high.toInt)) ∧
    (∀ (value limit : Int64) (text : String),
      Text.Writes text.toList limit.toInt →
        (passes value ("gt:" ++ text) ↔ ¬ passes value ("lte:" ++ text)) ∧
        (passes value ("lt:" ++ text) ↔ ¬ passes value ("gte:" ++ text)) ∧
        (passes value ("gte:" ++ text) ↔
          passes value ("gt:" ++ text) ∨ passes value ("between:" ++ text ++ "," ++ text)) ∧
        (passes value ("gt:" ++ text) ↔ limit.toInt < value.toInt) ∧
        (passes value ("lt:" ++ text) ↔ value.toInt < limit.toInt)) ∧
    (∀ (value : Int64) (given : Parameter),
      (errors (.integer value.toInt) given = [] ↔ LiesBetween value.toInt given.items) ∧
      (errors (.integer value.toInt) given = refused given ↔
        ¬ LiesBetween value.toInt given.items) ∧
      (∀ low high,
        WritesBounds low high given.items → high.toInt < low.toInt →
          errors (.integer value.toInt) given = refused given) ∧
      (∀ item ∈ given.items, ∀ number,
        Text.Writes (Text.trim item.toList) number → ¬ IsInt64 number →
          errors (.integer value.toInt) given = refused given) ∧
      (given.items.length ≠ 2 → errors (.integer value.toInt) given = refused given)) ∧
    (∀ (value : Value) (given : Parameter), ∀ error ∈ errors value given,
      error.code = "between" ∨ error.code = "invalid_type") := by
  intro validator passes rule errors refused
  have gt : "gt:" = Check.Comparison.greater.keyword.name ++ ":" := by decide
  have lt : "lt:" = Check.Comparison.less.keyword.name ++ ":" := by decide
  have gte : "gte:" = Check.Comparison.atLeast.keyword.name ++ ":" := by decide
  have lte : "lte:" = Check.Comparison.atMost.keyword.name ++ ":" := by decide
  have compares {text : String} {limit : Int64} (writes : Text.Writes text.toList limit.toInt)
      (relation : Check.Comparison) (value : Int64) :
      passes value (relation.keyword.name ++ ":" ++ text) ↔
        relation.Relates value.toInt limit.toInt :=
    errors_of_comparison config reachability book lookup name relation writes value
  have ranges {low high : Int64} {lowText highText : String}
      (lowWrites : Text.Writes lowText.toList low.toInt)
      (highWrites : Text.Writes highText.toList high.toInt) (value : Int64) :
      passes value ("between:" ++ lowText ++ "," ++ highText) ↔
        low.toInt ≤ value.toInt ∧ value.toInt ≤ high.toInt :=
    errors_of_range config reachability book lookup name lowWrites highWrites value
  refine ⟨?_, ?_, ?_, ?_⟩
  · intro value low high lowText highText lowWrites highWrites
    rw [ranges lowWrites highWrites, gte, lte, compares lowWrites, compares highWrites]
    exact ⟨Iff.rfl, Iff.rfl⟩
  · intro value limit text writes
    rw [gt, lt, gte, lte, compares writes, compares writes, compares writes, compares writes,
      ranges writes writes]
    refine ⟨Int.not_le.symm, Int.not_le.symm, ?_, Iff.rfl, Iff.rfl⟩
    show limit.toInt ≤ value.toInt ↔
      limit.toInt < value.toInt ∨ limit.toInt ≤ value.toInt ∧ value.toInt ≤ limit.toInt
    omega
  · intro value given
    obtain ⟨accepts, refuses⟩ := errors_of_between config reachability book lookup name
      (show (RuleSource.registered [rule given]).rules = [rule given] from rfl) value
    refine ⟨accepts, refuses, ?_, ?_, ?_⟩
    · intro low high writes inverted
      refine refuses.2 fun lies => ?_
      rw [liesBetween_iff writes] at lies
      omega
    · intro item member number writes tooLarge
      exact refuses.2 fun lies => tooLarge (lies.isInt64_of_mem member writes)
    · intro other
      exact refuses.2 fun lies => other lies.length_eq
  · intro value given
    exact code_of_between config reachability book lookup name value given

/-- The least integer of 64 bits with zeros in front, and bounds in the wrong order. -/
theorem signed_bounds_are_read :
    let least : Int64 := -9223372036854775808
    let passes (value : Int64) (spec : String) : Prop :=
      (Validator.default.validate
        ⟨[⟨"Level", .integer value.toInt, .declared spec⟩], fun _ => none⟩).errors = []
    let rule (given : Parameter) : Rule := ⟨.builtIn .between, some given⟩
    let errors (value : Value) (given : Parameter) :=
      (Validator.default.validate
        ⟨[⟨"Level", value, .registered [rule given]⟩], fun _ => none⟩).errors
    passes least ("between:" ++ "-09223372036854775808" ++ "," ++ "+7") ∧
    (passes least ("gt:" ++ "+7") ↔ ¬ passes least ("lte:" ++ "+7")) ∧
    (∀ items ∈ [["7", " 3"], ["7", "9223372036854775808"], ["1", "2", "3"]],
      ∃ message, errors (.integer 5) (.list items) =
        [.about "Level" (rule (.list items)) "between" message]) ∧
    (∀ error ∈ errors (.text "5") (.list ["1"]),
      error.code = "between" ∨ error.code = "invalid_type") := by
  intro least passes rule errors
  obtain ⟨ranges, compares, rejects, codes⟩ := comparisons_and_ranges_agree Config.default
    Reachability.offline Table.empty (fun _ => none) "Level"
  have leastWritten : Text.Writes "-09223372036854775808".toList least.toInt :=
    (Text.int64?_eq_some_iff _ _).1 (by decide)
  have seven : Text.Writes "+7".toList (7 : Int64).toInt :=
    (Text.int64?_eq_some_iff _ _).1 (by decide)
  obtain ⟨-, bounded⟩ := ranges least least 7 _ _ leastWritten seven
  refine ⟨bounded.2 (by decide), (compares least 7 _ seven).1, ?_, codes _ _⟩
  intro items member
  simp only [List.mem_cons, List.not_mem_nil, or_false] at member
  rcases member with rfl | rfl | rfl
  · obtain ⟨-, -, inverted, -, -⟩ := rejects 5 (.list ["7", " 3"])
    have bounds : WritesBounds 7 3 ["7", " 3"] :=
      ⟨"7", " 3", rfl, (Text.int64?_eq_some_iff _ _).1 (by decide),
        (Text.int64?_eq_some_iff _ _).1 (by decide)⟩
    exact ⟨_, inverted 7 3 bounds (by decide)⟩
  · obtain ⟨-, -, -, large, -⟩ := rejects 5 (.list ["7", "9223372036854775808"])
    have written : Text.Writes (Text.trim "9223372036854775808".toList) 9223372036854775808 :=
      (Text.integer?_eq_some_iff _ _).1 (by decide)
    exact ⟨_, large "9223372036854775808" (by decide) _ written (by unfold IsInt64; omega)⟩
  · obtain ⟨-, -, -, -, several⟩ := rejects 5 (.list ["1", "2", "3"])
    exact ⟨_, several (by decide)⟩

end Validator

end Fieldwise
