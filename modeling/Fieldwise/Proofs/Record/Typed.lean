import Fieldwise.Proofs.BuiltIn.Length
import Fieldwise.Proofs.BuiltIn.Range
import Fieldwise.Proofs.Engine.Dynamic

/-!
Contract: typed fields, from the value of the field to the report.

Owns: the errors of one declared field in the report on a typed record, lists of one type and
values held under options, and what the rules on sizes and on numbers report on them.

Does **not** own: what these rules report on dynamic values (`Fieldwise.Proofs.BuiltIn.Length`
and `Fieldwise.Proofs.BuiltIn.Range`).

The dynamic value of an integer is the integer, whatever its type was. But a rule that asks
for integers, or for a list of integers, asks for integers of 64 bits with a sign, and the
two greatest types have others.
-/

set_option autoImplicit false

namespace Fieldwise

open Decimal (Binary64)

/-! ## One field of a schema -/

/-- The errors of a declared field whose name is no other field's are those of the field
alone, whatever stands before and after it. -/
theorem Validator.ofField_validateSchema
    {validator : Validator}
    (named : validator.catalogue.NamesFields)
    {Record : Type} {before after : List (SchemaField Record)} {field : SchemaField Record}
    (alone : ∀ other ∈ before ++ after, other.name ≠ field.name)
    (record : Record) :
    let schema : Schema Record := ⟨before ++ field :: after⟩
    (validator.validateSchema schema record).ofField field.name =
      (validator.validate
        ⟨[⟨field.name, Schema.valueOf record field, .declared field.spec⟩],
          (schema.bind record).lookup⟩).errors := by
  intro schema
  let blockOf (other : SchemaField Record) : List FieldError :=
    validator.catalogue.errorsOf
      ((schema.bind record).companion validator.config.confirmationField)
      other.name (Schema.valueOf record other) (Rule.parseSpec other.spec.toList)
  have blocks : (validator.validateSchema schema record).errors =
      before.flatMap blockOf ++ (blockOf field ++ after.flatMap blockOf) := by
    rw [validateSchema, validate_errors, ← List.flatMap_cons, ← List.flatMap_append]
    unfold Schema.bind
    rw [List.flatMap_map]
    rfl
  have elsewhere {others : List (SchemaField Record)}
      (different : ∀ other ∈ others, other.name ≠ field.name) :
      (others.flatMap blockOf).filter (fun error => error.field = field.name) = [] := by
    rw [List.filter_eq_nil_iff]
    intro error member
    obtain ⟨other, isOther, inBlock⟩ := List.mem_flatMap.1 member
    rw [named.field_of_mem_errorsOf inBlock]
    simpa using different other isOther
  have here : (blockOf field).filter (fun error => error.field = field.name) =
      blockOf field := by
    rw [List.filter_eq_self]
    intro error member
    simpa using named.field_of_mem_errorsOf member
  rw [Report.ofField, blocks, List.filter_append, List.filter_append,
    elsewhere fun other member => alone other (List.mem_append_left _ member),
    elsewhere fun other member => alone other (List.mem_append_right _ member),
    here, List.append_nil, List.nil_append, validate_errors, List.flatMap_singleton]
  rfl

/-! ## Typed values -/

/-- A number of an integer type. -/
structure IntegerType.Number (type : IntegerType) where
  value : Int
  inRange : type.least ≤ value ∧ value ≤ type.greatest

/-- A number of any type is too great for 64 bits with a sign, if anything. -/
theorem IntegerType.Number.isInt64_iff {type : IntegerType} (number : type.Number) :
    IsInt64 number.value ↔ number.value ≤ 9223372036854775807 := by
  have least : -9223372036854775808 ≤ type.least := by cases type <;> decide
  have above := number.inRange.1
  unfold IsInt64
  omega

/-- The numbers of all types but two fit. -/
theorem IntegerType.Number.le_of_ne
    {type : IntegerType}
    (word : type ≠ .nat64)
    (size : type ≠ .natSize)
    (number : type.Number) :
    number.value ≤ 9223372036854775807 := by
  have below := number.inRange.2
  cases type with
  | nat64 => exact absurd rfl word
  | natSize => exact absurd rfl size
  | _ =>
      simp only [IntegerType.greatest] at below
      omega

namespace Typed

def ofNumber {type : IntegerType} (number : type.Number) : Typed :=
  .integer type number.value number.inRange

def ofNumbers {type : IntegerType} (numbers : List type.Number) : Typed :=
  .list (numbers.map ofNumber)

def ofTexts (contents : List String) : Typed :=
  .list (contents.map .text)

/-- A value under a number of options, all of them full. -/
def wrapped (inner : Typed) : Nat → Typed
  | 0 => inner
  | depth + 1 => .option (some (inner.wrapped depth))

/-- An empty option, or a floating-point number that is not finite. -/
inductive Missing : Typed → Prop where
  | empty : Missing (.option none)
  | notFinite {number : Binary64} (infinite : number.isFinite = false) : Missing (.float number)

theorem toValue_wrapped (inner : Typed) (depth : Nat) :
    (inner.wrapped depth).toValue = inner.toValue := by
  induction depth with
  | zero => rfl
  | succ depth inductionHypothesis => rw [wrapped, toValue, inductionHypothesis]

theorem toValue_ofTexts (contents : List String) :
    (ofTexts contents).toValue = .list (contents.map .text) := by
  rw [ofTexts, toValue, toValues_eq_map, List.map_map]
  rfl

theorem toValue_ofNumbers {type : IntegerType} (numbers : List type.Number) :
    (ofNumbers numbers).toValue = .list ((numbers.map (·.value)).map .integer) := by
  rw [ofNumbers, toValue, toValues_eq_map, List.map_map, List.map_map]
  rfl

theorem Missing.toValue_eq {typed : Typed} (missing : Missing typed) : typed.toValue = .null := by
  cases missing with
  | empty => rfl
  | notFinite infinite => rw [toValue, infinite, if_neg Bool.false_ne_true]

end Typed

/-- A list of integers has a size exactly if each of them has 64 bits. -/
theorem Shape.fits_integers_iff (numbers : List Int) :
    Shape.sized.Fits (.list (numbers.map .integer)) ↔ ∀ number ∈ numbers, IsInt64 number := by
  constructor
  · intro fits
    generalize shape : Value.list (numbers.map .integer) = value at fits
    cases fits with
    | texts contents =>
        -- Only the empty list is a list of texts as well.
        have none : numbers = [] := by
          cases numbers with
          | nil => rfl
          | cons number rest => cases contents <;> simp at shape
        simp [none]
    | @integers others inRange =>
        have same : numbers.map Value.integer = others.map .integer := Value.list.inj shape
        rwa [List.map_injective_iff.2 (fun _ _ => Value.integer.inj) same]
    | characters content => cases shape
  · exact .integers

/-! ## The report -/

namespace Validator

variable (config : Config) (reachability : Reachability) (book : RuleBook)

section Field

variable {Record : Type} (record : Record) {before after : List (SchemaField Record)}
  {name : String}

/-- The report on a typed field, as a report on its dynamic value. -/
theorem ofField_eq_errors
    [Libraries]
    (alone : ∀ other ∈ before ++ after, other.name ≠ name)
    (read : Record → Typed)
    (spec : String) :
    let validator := Builder.assemble { config, reachability, predicates := [], rules := book }
    let schema : Schema Record := ⟨before ++ ⟨name, spec, read⟩ :: after⟩
    (validator.validateSchema schema record).ofField name =
      (validator.validate ⟨[⟨name, (read record).toValue, .declared spec⟩],
        (schema.bind record).lookup⟩).errors := by
  intro validator schema
  have named : validator.catalogue.NamesFields :=
    Catalogue.builtIn_namesFields reachability config.activeUrlTimeout
  let field : SchemaField Record := ⟨name, spec, read⟩
  have different : ∀ other ∈ before ++ after, other.name ≠ field.name := alone
  exact ofField_validateSchema named different record

end Field

/-- A missing value is refused where a value is required. -/
theorem errors_of_missing [Libraries] (lookup : String → Option Value) (name : String) :
    let validator := Builder.assemble { config, reachability, predicates := [], rules := book }
    (validator.validate ⟨[⟨name, .null, .declared "required"⟩], lookup⟩).errors =
      [.about name ⟨.builtIn .required, none⟩ "required"
        ("The " ++ name ++ " field is required")] := by
  intro validator
  have reads : (RuleSource.declared "required").rules = [⟨.builtIn .required, none⟩] := by
    decide
  exact errors_of_single reads (.nullMissing rfl rfl)

/-- **Lists of texts and of integers are measured, unless an integer is greater than the
greatest one of 64 bits with a sign.** A bound on the size compares the number of items with
its limit, whatever the items are. A list with one item that is too great is of the wrong type
for every bound, whatever its parameter is. All types but two have no such number. -/
theorem typed_lists_are_measured
    [Libraries]
    {Record : Type}
    (record : Record)
    {before after : List (SchemaField Record)}
    {name : String}
    (alone : ∀ other ∈ before ++ after, other.name ≠ name) :
    let validator := Builder.assemble { config, reachability, predicates := [], rules := book }
    let errors (read : Record → Typed) (spec : String) : List FieldError :=
      (validator.validateSchema ⟨before ++ ⟨name, spec, read⟩ :: after⟩ record).ofField name
    let measured (read : Record → Typed) (count : Nat) : Prop :=
      ∀ (bound : Check.SizeBound) (text : String) (limit : Int64),
        Text.Writes text.toList limit.toInt →
          let spec := bound.keyword.name ++ ":" ++ text
          let rule : Rule := ⟨.builtIn bound.keyword, some (.integer limit)⟩
          let message :=
            Report.keywordMessage name bound.keyword rule (read record).toValue
          (errors read spec = [] ↔ bound.Keeps count limit.toInt) ∧
          (errors read spec = [.about name rule bound.keyword.name message] ↔
            ¬ bound.Keeps count limit.toInt)
    (∀ read contents, read record = .ofTexts contents → measured read contents.length) ∧
    (∀ read (type : IntegerType) (numbers : List type.Number),
      read record = .ofNumbers numbers →
        ((∀ number ∈ numbers, number.value ≤ 9223372036854775807) →
          measured read numbers.length) ∧
        (∀ number ∈ numbers, 9223372036854775807 < number.value →
          ∀ (bound : Check.SizeBound) (raw : String), '|' ∉ raw.toList →
            errors read (bound.keyword.name ++ ":" ++ raw) =
              [.about name
                ⟨.builtIn bound.keyword,
                  some (Parameter.parse .scalar (Text.trimEnd raw.toList))⟩
                "invalid_type" ((Fault.coercion .sized "list").describe name)])) ∧
    (∀ type : IntegerType, type ≠ .nat64 → type ≠ .natSize →
      ∀ number : type.Number, number.value ≤ 9223372036854775807) := by
  intro validator errors measured
  have reported (read : Record → Typed) (spec : String) :
      ∃ lookup, errors read spec =
        (validator.validate
          ⟨[⟨name, (read record).toValue, .declared spec⟩], lookup⟩).errors :=
    ⟨_, ofField_eq_errors config reachability book record alone read spec⟩
  have measure {read : Record → Typed} (sized : Shape.sized.Fits (read record).toValue) :
      measured read (read record).toValue.extent := by
    intro bound text limit writes spec rule message
    obtain ⟨lookup, same⟩ := reported read spec
    obtain ⟨-, -, scalar, -⟩ := bound.subject_need_form
    rw [same]
    exact errors_of_sizeBound config reachability book lookup name
      (Rule.rules_numeral scalar writes) sized
  refine ⟨?_, ?_, fun type word size number => number.le_of_ne word size⟩
  · intro read contents isTexts
    have listed : (read record).toValue = .list (contents.map .text) := by
      rw [isTexts, Typed.toValue_ofTexts]
    have sized : Shape.sized.Fits (read record).toValue := listed ▸ .texts contents
    have counted := measure sized
    rwa [listed, Value.extent, List.length_map] at counted
  · intro read type numbers isNumbers
    have listed : (read record).toValue = .list ((numbers.map (·.value)).map .integer) := by
      rw [isNumbers, Typed.toValue_ofNumbers]
    have fits_iff : Shape.sized.Fits (read record).toValue ↔
        ∀ number ∈ numbers, number.value ≤ 9223372036854775807 := by
      rw [listed, Shape.fits_integers_iff, List.forall_mem_map]
      exact forall₂_congr fun number _ => number.isInt64_iff
    constructor
    · intro small
      have counted := measure (fits_iff.2 small)
      rwa [listed, Value.extent, List.length_map, List.length_map] at counted
    · intro number member great bound raw whole
      have unsized : ¬ Shape.sized.Fits (read record).toValue := by
        intro sized
        have small := fits_iff.1 sized number member
        omega
      have present : (read record).toValue ≠ .null := by simp [listed]
      have found : (read record).toValue.typeName = "list" := by rw [listed]; rfl
      obtain ⟨lookup, same⟩ := reported read (bound.keyword.name ++ ":" ++ raw)
      obtain ⟨subject, -, scalar, -⟩ := bound.subject_need_form
      have reads := Rule.rules_keyword bound.keyword whole
      rw [scalar] at reads
      rw [same, ← found]
      exact errors_of_mistyped config reachability book lookup name reads rfl subject present
        unsized

/-- A list of unsigned numbers that fit 64 bits with a sign, behind another field. -/
theorem small_unsigned_numbers_are_measured :
    let owner : SchemaField String := ⟨"Owner", "required", .text⟩
    let most : IntegerType.Number .nat64 := ⟨9223372036854775807, by decide⟩
    let least : IntegerType.Number .nat64 := ⟨0, by decide⟩
    let errors (typed : Typed) (spec : String) : List FieldError :=
      (Validator.default.validateSchema ⟨[owner] ++ ⟨"Ids", spec, fun _ => typed⟩ :: []⟩
        "Ada").ofField "Ids"
    (∀ other ∈ [owner] ++ [], other.name ≠ "Ids") ∧
    (∀ number ∈ [most, least], number.value ≤ 9223372036854775807) ∧
    errors (.ofNumbers [most, least]) "size:+2" = [] ∧
    errors (.ofTexts ["a", "b"]) "max:+1" =
      [.about "Ids" ⟨.builtIn .max, some (.integer 1)⟩ "max"
        "Field Ids exceeds the maximum length of 1"] := by
  intro owner most least errors
  have alone : ∀ other ∈ [owner] ++ [], other.name ≠ "Ids" := by
    intro other member
    obtain rfl : other = owner := by simpa using member
    decide
  have small : ∀ number ∈ [most, least], number.value ≤ 9223372036854775807 := by
    intro number member
    simp only [List.mem_cons, List.not_mem_nil, or_false] at member
    rcases member with rfl | rfl <;> decide
  obtain ⟨texts, numbers, -⟩ := typed_lists_are_measured Config.default Reachability.offline
    Table.empty "Ada" alone
  have two : Text.Writes "+2".toList (2 : Int64).toInt :=
    (Text.int64?_eq_some_iff _ _).1 (by decide)
  have one : Text.Writes "+1".toList (1 : Int64).toInt :=
    (Text.int64?_eq_some_iff _ _).1 (by decide)
  obtain ⟨exact, -⟩ := (numbers (fun _ => .ofNumbers [most, least]) .nat64 _ rfl).1 small
    .exactly "+2" 2 two
  obtain ⟨-, long⟩ := texts (fun _ => .ofTexts ["a", "b"]) _ rfl .atMost "+1" 1 one
  have twoItems : (([most, least].length : Nat) : Int) = (2 : Int64).toInt := by decide
  have above : ¬ ((["a", "b"].length : Nat) : Int) ≤ (1 : Int64).toInt := by decide
  exact ⟨alone, small, exact.2 twoItems, long.2 above⟩

/-- The one item of a list is a number of an unsigned type, and the list has no size. -/
theorem great_unsigned_number_is_not_measured :
    let greatest : IntegerType.Number .nat64 := ⟨18446744073709551615, by decide⟩
    let schema : Schema Unit := ⟨[⟨"Ids", "max:5", fun _ => .ofNumbers [greatest]⟩]⟩
    (Validator.default.validateSchema schema ()).errors =
      [.about "Ids" ⟨.builtIn .max, some (.integer 5)⟩ "invalid_type"
        "The Ids field must be a string or list value, found list"] := by
  intro greatest schema
  have listed : Schema.valueOf () ⟨"Ids", "max:5", fun _ => .ofNumbers [greatest]⟩ =
      .list [.integer greatest.value] := rfl
  have unsized : ¬ Shape.sized.Fits (.list [.integer greatest.value]) := by
    rw [Shape.fits_iff_read?_isSome]
    decide
  have reads : (RuleSource.declared "max:5").rules = [⟨.builtIn .max, some (.integer 5)⟩] := by
    decide
  exact errors_of_mistyped Config.default Reachability.offline Table.empty
    (schema.bind ()).lookup "Ids" reads rfl rfl (by simp [listed]) (listed ▸ unsized)

/-- **The rules on numbers see the numbers of typed fields as they are.** A number of any
integer type, held directly or under options, is compared as it is where it is an integer of
64 bits with a sign, and is of the wrong type where it is greater, which is never a
comparison that went round or stopped at a limit. So is every floating-point number that is
finite, an integral one too. A floating-point number that is not finite and an empty option
are passed over by these rules, and refused where a value is required. -/
theorem typed_numbers_are_compared
    [Libraries]
    {Record : Type}
    (record : Record)
    {before after : List (SchemaField Record)}
    {name : String}
    (alone : ∀ other ∈ before ++ after, other.name ≠ name) :
    let validator := Builder.assemble { config, reachability, predicates := [], rules := book }
    let errors (read : Record → Typed) (spec : String) : List FieldError :=
      (validator.validateSchema ⟨before ++ ⟨name, spec, read⟩ :: after⟩ record).ofField name
    let decided (reported : List FieldError) (holds : Prop) (refusal : FieldError) : Prop :=
      (reported = [] ↔ holds) ∧ (reported = [refusal] ↔ ¬ holds)
    let mistyped (read : Record → Typed) (found : String) : Prop :=
      ∀ keyword ∈ Keyword.numeric, ∀ raw : String, '|' ∉ raw.toList →
        errors read (keyword.name ++ ":" ++ raw) =
          [.about name
            ⟨.builtIn keyword,
              some (Parameter.parse keyword.form (Text.trimEnd raw.toList))⟩
            "invalid_type" ((Fault.coercion .integer found).describe name)]
    (∀ (read : Record → Typed) (depth : Nat) (type : IntegerType) (number : type.Number),
      read record = (Typed.ofNumber number).wrapped depth →
        (number.value ≤ 9223372036854775807 →
          (∀ (relation : Check.Comparison) (text : String) (threshold : Int64),
            Text.Writes text.toList threshold.toInt →
              let rule : Rule := ⟨.builtIn relation.keyword, some (.integer threshold)⟩
              decided (errors read (relation.keyword.name ++ ":" ++ text))
                (relation.Relates number.value threshold.toInt)
                (.about name rule relation.keyword.name
                  (Report.keywordMessage name relation.keyword rule
                    (.integer number.value)))) ∧
          (∀ (lowText highText : String) (low high : Int64),
            Text.Writes lowText.toList low.toInt → Text.Writes highText.toList high.toInt →
              decided (errors read ("between:" ++ lowText ++ "," ++ highText))
                (low.toInt ≤ number.value ∧ number.value ≤ high.toInt)
                (.about name ⟨.builtIn .between, some (.list [lowText, highText])⟩ "between"
                  ("The " ++ name ++ " field must be between "
                    ++ (lowText ++ " and " ++ highText))))) ∧
        (9223372036854775807 < number.value → mistyped read "integer")) ∧
    (∀ (read : Record → Typed) (depth : Nat) (number : Binary64),
      read record = (Typed.float number).wrapped depth → number.isFinite = true →
        mistyped read "float") ∧
    (∀ (read : Record → Typed) (depth : Nat) (missing : Typed),
      read record = missing.wrapped depth → missing.Missing →
        (∀ keyword ∈ Keyword.numeric, ∀ raw : String, '|' ∉ raw.toList →
          errors read (keyword.name ++ ":" ++ raw) = []) ∧
        errors read "required" =
          [.about name ⟨.builtIn .required, none⟩ "required"
            ("The " ++ name ++ " field is required")]) := by
  intro validator errors decided mistyped
  have reported (read : Record → Typed) (spec : String) :
      ∃ lookup, errors read spec =
        (validator.validate
          ⟨[⟨name, (read record).toValue, .declared spec⟩], lookup⟩).errors :=
    ⟨_, ofField_eq_errors config reachability book record alone read spec⟩
  have mistyped_of {read : Record → Typed}
      (present : (read record).toValue ≠ .null)
      (unfit : ¬ Shape.integer.Fits (read record).toValue) :
      mistyped read (read record).toValue.typeName := by
    intro keyword numeric raw whole
    obtain ⟨lookup, same⟩ := reported read (keyword.name ++ ":" ++ raw)
    rw [same]
    exact errors_of_no_integer config reachability book lookup name numeric whole present unfit
  refine ⟨?_, ?_, ?_⟩
  · intro read depth type number isNumber
    have integral : (read record).toValue = .integer number.value := by
      rw [isNumber, Typed.toValue_wrapped]
      rfl
    have reportedNumber (spec : String) :
        ∃ lookup, errors read spec =
          (validator.validate
            ⟨[⟨name, .integer number.value, .declared spec⟩], lookup⟩).errors :=
      integral ▸ reported read spec
    constructor
    · intro small
      have inRange : IsInt64 number.value := number.isInt64_iff.2 small
      constructor
      · intro relation text threshold writes rule
        obtain ⟨-, -, scalar, -⟩ := relation.subject_need_form
        obtain ⟨lookup, same⟩ := reportedNumber (relation.keyword.name ++ ":" ++ text)
        rw [same]
        exact errors_of_threshold config reachability book lookup name
          (Rule.rules_numeral scalar writes) inRange
      · intro lowText highText low high lowWrites highWrites
        obtain ⟨lookup, same⟩ := reportedNumber ("between:" ++ lowText ++ "," ++ highText)
        rw [same]
        exact errors_of_bounds config reachability book lookup name lowWrites highWrites inRange
    · intro great
      have found : (read record).toValue.typeName = "integer" := by rw [integral]; rfl
      rw [← found]
      apply mistyped_of
      · simp [integral]
      · rw [integral]
        intro fits
        cases fits with
        | integer inRange =>
            have small := number.isInt64_iff.1 inRange
            omega
  · intro read depth number isFloat finite
    have floating : (read record).toValue = .float number := by
      rw [isFloat, Typed.toValue_wrapped, Typed.toValue, if_pos finite]
    have found : (read record).toValue.typeName = "float" := by rw [floating]; rfl
    rw [← found]
    apply mistyped_of
    · simp [floating]
    · rw [floating]
      intro fits
      cases fits
  · intro read depth missing isMissing absent
    have null : (read record).toValue = .null := by
      rw [isMissing, Typed.toValue_wrapped, absent.toValue_eq]
    constructor
    · intro keyword member raw whole
      obtain ⟨lookup, same⟩ := reported read (keyword.name ++ ":" ++ raw)
      obtain ⟨-, untested⟩ := Keyword.subject_of_mem_numeric member
      rw [same]
      exact errors_of_single (Rule.rules_keyword keyword whole) (.nullSkipped rfl null untested)
    · obtain ⟨lookup, same⟩ := reported read "required"
      rw [same, null]
      exact errors_of_missing config reachability book lookup name

/-- A small number, a number beyond 64 bits with a sign, an integral floating-point number,
and two missing ones. -/
theorem great_number_is_mistyped :
    let owner : SchemaField String := ⟨"Owner", "required", .text⟩
    let small : IntegerType.Number .nat8 := ⟨200, by decide⟩
    let great : IntegerType.Number .nat64 := ⟨9223372036854775808, by decide⟩
    let five : Binary64 := ⟨4617315517961601024⟩
    let undefined : Binary64 := ⟨9221120237041090560⟩
    let errors (typed : Typed) (spec : String) : List FieldError :=
      (Validator.default.validateSchema ⟨[owner] ++ ⟨"Level", spec, fun _ => typed⟩ :: []⟩
        "Ada").ofField "Level"
    let mistyped (keyword : Keyword) (parameter : Parameter) (found : String) : FieldError :=
      .about "Level" ⟨.builtIn keyword, some parameter⟩ "invalid_type"
        ("The Level field must be a integer value, found " ++ found)
    (∀ other ∈ [owner] ++ [], other.name ≠ "Level") ∧
    errors ((Typed.ofNumber small).wrapped 2) "gt:+199" = [] ∧
    errors (Typed.ofNumber small) "between:-1,0200" = [] ∧
    errors (Typed.ofNumber great) "gt:-1" = [mistyped .greater (.integer (-1)) "integer"] ∧
    errors (.float five) "between:5,5" = [mistyped .between (.list ["5", "5"]) "float"] ∧
    errors ((Typed.float undefined).wrapped 1) "lt:0" = [] ∧
    errors ((Typed.option none).wrapped 1) "required" =
      [.about "Level" ⟨.builtIn .required, none⟩ "required" "The Level field is required"] := by
  intro owner small great five undefined errors mistyped
  have alone : ∀ other ∈ [owner] ++ [], other.name ≠ "Level" := by
    intro other member
    obtain rfl : other = owner := by simpa using member
    decide
  obtain ⟨numbers, floats, absent⟩ := typed_numbers_are_compared Config.default
    Reachability.offline Table.empty "Ada" alone
  have writes {text : String} {number : Int64}
      (read : Text.int64? text.toList = some number) :
      Text.Writes text.toList number.toInt :=
    (Text.int64?_eq_some_iff _ _).1 read
  obtain ⟨compares, -⟩ :=
    (numbers (fun _ => (Typed.ofNumber small).wrapped 2) 2 _ small rfl).1 (by decide)
  obtain ⟨-, ranges⟩ := (numbers (fun _ => .ofNumber small) 0 _ small rfl).1 (by decide)
  have above : (199 : Int64).toInt < small.value := by decide
  have within : (-1 : Int64).toInt ≤ small.value ∧ small.value ≤ (200 : Int64).toInt := by decide
  have passes := (compares .greater "+199" 199 (writes (by decide))).1.2 above
  have between := (ranges "-1" "0200" (-1) 200 (writes (by decide)) (writes (by decide))).1.2 within
  have tooGreat := (numbers (fun _ => .ofNumber great) 0 _ great rfl).2 (by decide)
    .greater (by decide) "-1" (by decide)
  have integral := floats (fun _ => .float five) 0 five rfl (by decide)
    .between (by decide) "5,5" (by decide)
  have skipped := (absent (fun _ => (Typed.float undefined).wrapped 1) 1 _ rfl
    (.notFinite (by decide))).1 .less (by decide) "0" (by decide)
  have refused := (absent (fun _ => (Typed.option none).wrapped 1) 1 _ rfl .empty).2
  exact ⟨alone, passes, between, tooGreat, integral, skipped, refused⟩

end Validator

end Fieldwise
