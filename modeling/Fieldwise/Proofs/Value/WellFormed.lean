import Fieldwise.Config.Codec
import Fieldwise.Proofs.Engine.Dynamic
import Fieldwise.Record.Schema
import Fieldwise.Report.Codec
import Fieldwise.Validator.Builder
import Fieldwise.Value.Object

/-!
Contract: the values of a program are well-formed.

Owns: the values of typed fields, of errors, of reports and of settings as well-formed
values, and the condition on predicates under which a report on well-formed data is one.

Does **not** own: what a well-formed value is (`Fieldwise.Value.Object`).

The type of values has room for objects whose keys are in disorder and for numbers out of
range. The law is kept at the three places where values come from: typed fields, objects
that are built of entries, and dynamic values, of which it is asked.
-/

set_option autoImplicit false

namespace Fieldwise

open Value (WellFormed wellFormed_ofEntries)

/-! ## Data -/

theorem Value.wellFormed_ofOption
    {value : Option Value}
    (held : ∀ inner ∈ value, inner.WellFormed) :
    (ofOption value).WellFormed := by
  cases value with
  | none => exact .null
  | some inner => exact held inner rfl

theorem Parameter.wellFormed_toValue (parameter : Parameter) : parameter.toValue.WellFormed := by
  cases parameter with
  | integer number =>
      have least := number.le_toInt
      have greatest := number.toInt_lt
      exact .integer (by omega) (by omega)
  | text content => exact .text content
  | list items =>
      apply WellFormed.list
      intro item member
      obtain ⟨content, -, rfl⟩ := List.mem_map.1 member
      exact .text content

/-- A typed field all of whose dynamic values are well-formed. -/
inductive Typed.Sound : Typed → Prop where
  | text (content : String) : Sound (.text content)
  | integer (type : IntegerType) (number : Int)
      (inRange : type.least ≤ number ∧ number ≤ type.greatest) :
      Sound (.integer type number inRange)
  | float (number : Decimal.Binary64) : Sound (.float number)
  | boolean (truth : Bool) : Sound (.boolean truth)
  | dynamic {value : Value} (held : value.WellFormed) : Sound (.dynamic value)
  | empty : Sound (.option none)
  | full {inner : Typed} (held : Sound inner) : Sound (.option (some inner))
  | list {items : List Typed} (held : ∀ item ∈ items, Sound item) : Sound (.list items)

theorem IntegerType.bounds (type : IntegerType) :
    -9223372036854775808 ≤ type.least ∧ type.greatest ≤ 18446744073709551615 := by
  cases type <;> decide

/-- Numbers of every integer type are in range, and a floating-point number that is not
finite has no value of its own. -/
theorem Typed.Sound.wellFormed_toValue {typed : Typed} (sound : typed.Sound) :
    typed.toValue.WellFormed := by
  induction sound with
  | text content => exact .text content
  | integer type number inRange =>
      obtain ⟨least, greatest⟩ := type.bounds
      exact .integer (Int.le_trans least inRange.1) (Int.le_trans inRange.2 greatest)
  | float number =>
      rw [toValue]
      split
      · rename_i finite
        exact .float finite
      · exact .null
  | boolean truth => exact .boolean truth
  | dynamic held => exact held
  | empty => exact .null
  | full held inductionHypothesis => exact inductionHypothesis
  | list held inductionHypothesis =>
      rw [toValue, toValues_eq_map]
      apply WellFormed.list
      intro item member
      obtain ⟨inner, isItem, rfl⟩ := List.mem_map.1 member
      exact inductionHypothesis inner isItem

def FieldSource.WellFormed (source : FieldSource) : Prop :=
  ∀ field ∈ source.fields, field.value.WellFormed

theorem Schema.wellFormed_bind
    {Record : Type} {schema : Schema Record} {record : Record}
    (sound : ∀ field ∈ schema.fields, (field.read record).Sound) :
    (schema.bind record).WellFormed := by
  intro field member
  obtain ⟨declared, isDeclared, rfl⟩ := List.mem_map.1 member
  exact (sound declared isDeclared).wellFormed_toValue

theorem DynamicRecord.wellFormed_bind
    {record : DynamicRecord}
    (held : ∀ name, ∀ value ∈ record.get? name, value.WellFormed)
    (visited : List (String × List Rule)) :
    (record.bind visited).WellFormed := by
  intro field member
  obtain ⟨entry, -, rfl⟩ := List.mem_map.1 member
  dsimp only
  cases found : record.get? entry.1 with
  | none => exact .null
  | some value => exact held entry.1 value found

/-! ## Reports -/

namespace FieldError

def WellFormed (error : FieldError) : Prop :=
  ∀ context ∈ error.context, context.WellFormed

theorem wellFormed_of_parameterContext
    {error : FieldError} {rule : Rule}
    (context : error.context = parameterContext rule) :
    error.WellFormed := by
  intro held isHeld
  rw [context] at isHeld
  obtain ⟨parameter, -, rfl⟩ := Option.map_eq_some_iff.1 isHeld
  apply wellFormed_ofEntries
  simp [Value.WellFormed.text, parameter.wellFormed_toValue]

theorem wellFormed_confirmationMissing (field companion : String) :
    (confirmationMissing field companion).WellFormed := by
  intro held isHeld
  cases isHeld
  apply wellFormed_ofEntries
  simp [Value.WellFormed.text]

theorem WellFormed.toValue {error : FieldError} (given : error.WellFormed) :
    error.toValue.WellFormed := by
  apply wellFormed_ofEntries
  simp [Value.WellFormed.text, Value.wellFormed_ofOption given]

end FieldError

/-- The error for a well-formed value that failed is a well-formed error. -/
def Predicate.KeepsWellFormed (predicate : Predicate) : Prop :=
  ∀ (rule : Rule) (value : Value) (context : RuleContext),
    value.WellFormed → (predicate.failure rule value context).WellFormed

theorem Catalogue.keepsWellFormed_ofKeyword
    [Libraries]
    (reachability : Reachability)
    (timeout : Duration)
    (keyword : Keyword) :
    (Predicate.ofKeyword reachability timeout keyword).KeepsWellFormed := by
  intro rule value context _
  cases keyword with
  | confirmed =>
      show (Predicate.confirmed.failure rule value context).WellFormed
      unfold Predicate.confirmed
      dsimp only
      split
      · exact FieldError.wellFormed_of_parameterContext rfl
      · exact FieldError.wellFormed_confirmationMissing _ _
  | _ => exact FieldError.wellFormed_of_parameterContext rfl

theorem Outcome.wellFormed
    {name : String} {value : Value} {rule : Rule} {companion : Companion}
    {found : Option Predicate} {error : FieldError}
    (given : Outcome name value rule companion found (some error))
    (held : value.WellFormed)
    (keeps : ∀ predicate ∈ found, predicate.KeepsWellFormed) :
    error.WellFormed := by
  cases given with
  | unknown => exact FieldError.wellFormed_of_parameterContext rfl
  | mistyped => exact FieldError.wellFormed_of_parameterContext rfl
  | undecided => exact FieldError.wellFormed_of_parameterContext rfl
  | @failed predicate => exact keeps predicate rfl rule value ⟨name, companion⟩ held

/-- **Validation of well-formed data reports well-formed errors.** Let every predicate that
may fail, as the built-in ones do, give well-formed contexts to the errors for well-formed
values. Then on every source of well-formed values, whatever its rules, the contexts of all
errors are well-formed, and so are the values of the report and of its envelope. -/
theorem Validator.validate_wellFormed
    (validator : Validator)
    {source : FieldSource}
    (keeps : ∀ kind predicate,
      validator.catalogue.get? kind = some predicate → predicate.KeepsWellFormed)
    (held : source.WellFormed) :
    let report := validator.validate source
    (∀ error ∈ report.errors, error.WellFormed) ∧ report.toValue.WellFormed ∧
      report.envelope.WellFormed := by
  intro report
  have errors : ∀ error ∈ report.errors, error.WellFormed := by
    intro error member
    rw [show report.errors = _ from validate_errors validator source] at member
    obtain ⟨field, isField, inBlock⟩ := List.mem_flatMap.1 member
    obtain ⟨rule, -, led⟩ := List.mem_filterMap.1 inBlock
    have outcome := (outcome_iff_error?_eq validator.catalogue (some error)).2 led
    exact outcome.wellFormed (held field isField) fun predicate => keeps rule.kind predicate
  have listed : (Value.list (report.errors.map FieldError.toValue)).WellFormed := by
    apply Value.WellFormed.list
    intro item member
    obtain ⟨error, isError, rfl⟩ := List.mem_map.1 member
    exact (errors error isError).toValue
  refine ⟨errors, ?_, ?_⟩
  · apply wellFormed_ofEntries
    simpa using listed
  · apply wellFormed_ofEntries
    simp only [List.mem_singleton, forall_eq]
    apply wellFormed_ofEntries
    simp [Value.WellFormed.text, listed]

/-! ## Settings -/

theorem Duration.wellFormed_toValue (duration : Duration) : duration.toValue.WellFormed := by
  have seconds := duration.seconds.toNat_lt
  have nanos := duration.nanos.isLt
  apply wellFormed_ofEntries
  simp only [List.forall_mem_cons, List.not_mem_nil]
  exact ⟨.integer (by omega) (by omega), .integer (by omega) (by omega), nofun⟩

theorem Config.wellFormed_toValue (config : Config) : config.toValue.WellFormed := by
  apply wellFormed_ofEntries
  simp [Value.WellFormed.text, config.activeUrlTimeout.wellFormed_toValue]

/-- **What a validator with the built-in predicates hands out is well-formed.** On sources,
typed records and dynamic records of well-formed values it reports nothing but well-formed
values, and its settings are one. -/
theorem Validator.builtIn_values_wellFormed
    [Libraries]
    (config : Config)
    (reachability : Reachability)
    (book : RuleBook) :
    let validator := Builder.assemble { config, reachability, predicates := [], rules := book }
    (∀ source : FieldSource,
      source.WellFormed → (validator.validate source).toValue.WellFormed) ∧
    (∀ {Record : Type} (schema : Schema Record) (record : Record),
      (∀ field ∈ schema.fields, (field.read record).Sound) →
        (validator.validateSchema schema record).toValue.WellFormed) ∧
    (∀ (record : DynamicRecord) (report : Report),
      (∀ name, ∀ value ∈ record.get? name, value.WellFormed) →
      validator.MayReport record report → report.toValue.WellFormed) ∧
    validator.config.toValue.WellFormed := by
  intro validator
  have keeps := Catalogue.forall_get?_builtIn
    (Catalogue.keepsWellFormed_ofKeyword reachability config.activeUrlTimeout)
  have reported (source : FieldSource) (held : source.WellFormed) :
      (validator.validate source).toValue.WellFormed :=
    (validate_wellFormed validator keeps held).2.1
  refine ⟨reported, ?_, ?_, config.wellFormed_toValue⟩
  · intro Record schema record sound
    exact reported _ (Schema.wellFormed_bind sound)
  · rintro record report held ⟨visited, -, rfl⟩
    exact reported _ (DynamicRecord.wellFormed_bind held visited)

end Fieldwise
