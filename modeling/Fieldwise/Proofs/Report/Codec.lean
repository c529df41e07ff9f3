import Fieldwise.Proofs.BuiltIn.Outcome
import Fieldwise.Proofs.Value.Members
import Fieldwise.Report.Codec

/-!
Contract: reports written as values and read back.

Owns: what is left of an error and of a report after writing and reading, on its own or in
the envelope for clients, and the reports that come back as they were.

Does **not** own: the text of a value (`Fieldwise.Value.Printer`).

A null context and no context are written alike, and this is the only loss. The errors of
the built-in predicates have no context or an object for it, so that their reports lose
nothing.
-/

set_option autoImplicit false

namespace Fieldwise

/-! ## One error -/

namespace FieldError

/-- The error without its context, where that is null. -/
def withoutNullContext (error : FieldError) : FieldError :=
  match error.context with
  | some .null => { error with context := none }
  | _ => error

theorem withoutNullContext_eq_self_iff (error : FieldError) :
    error.withoutNullContext = error ↔ error.context ≠ some .null := by
  obtain ⟨field, message, code, context⟩ := error
  unfold withoutNullContext
  split
  · rename_i null
    obtain rfl : context = some .null := null
    simp
  · rename_i other
    simpa using other

theorem members?_toValue (error : FieldError) :
    error.toValue.members? memberNames =
      some [some (.text error.field), some (.text error.message), some (.text error.code),
        some (.ofOption error.context)] := by
  apply Value.members?_ofEntries
  show memberNames.Nodup
  decide

/-- Reading gives the error that was written, but for a null context. -/
theorem ofValue?_toValue (error : FieldError) :
    ofValue? error.toValue = some error.withoutNullContext := by
  rw [ofValue?, members?_toValue]
  obtain ⟨field, message, code, context⟩ := error
  cases context with
  | none => rfl
  | some context => cases context <;> rfl

end FieldError

/-! ## Reports -/

namespace Report

def withoutNullContexts (report : Report) : Report :=
  ⟨report.errors.map FieldError.withoutNullContext⟩

theorem withoutNullContexts_eq_self_iff (report : Report) :
    report.withoutNullContexts = report ↔
      ∀ error ∈ report.errors, error.context ≠ some .null := by
  obtain ⟨errors⟩ := report
  rw [withoutNullContexts, Report.mk.injEq]
  calc
    errors.map FieldError.withoutNullContext = errors ↔
        errors.map FieldError.withoutNullContext = errors.map id := by rw [List.map_id]
    _ ↔ ∀ error ∈ errors, error.withoutNullContext = error := List.map_inj_left
    _ ↔ ∀ error ∈ errors, error.context ≠ some .null :=
        forall₂_congr fun error _ => error.withoutNullContext_eq_self_iff

/-- Reading needs nothing but the list of the errors. -/
theorem ofValue?_errors (errors : List FieldError) :
    ofValue? (Value.ofEntries [("errors", .list (errors.map FieldError.toValue))]) =
      some ⟨errors.map FieldError.withoutNullContext⟩ := by
  have listed : (Value.ofEntries [("errors", .list (errors.map FieldError.toValue))]).members?
      ["errors"] = some [some (.list (errors.map FieldError.toValue))] :=
    Value.members?_ofEntries (List.nodup_singleton "errors")
  rw [ofValue?, listed]
  show (Value.readAll FieldError.ofValue? (errors.map FieldError.toValue)).map Report.mk = _
  rw [Value.readAll_map FieldError.ofValue?_toValue]
  rfl

theorem ofValue?_toValue (report : Report) :
    ofValue? report.toValue = some report.withoutNullContexts :=
  ofValue?_errors report.errors

/-- The list of errors in the envelope for clients. -/
def envelopeErrors? (envelope : Value) : Option Value := do
  let error ← Value.entry? "error" envelope
  Value.entry? "fields" error

theorem envelopeErrors?_envelope (report : Report) :
    envelopeErrors? report.envelope = some (.list (report.errors.map FieldError.toValue)) := by
  rw [envelopeErrors?, envelope, Value.entry?_ofEntries_singleton]
  apply Value.entry?_ofEntries
  · show ["code", "message", "fields"].Nodup
    decide
  · simp

end Report

/-! ## Reports of the built-in predicates -/

theorem FieldError.parameterContext_ne_null (rule : Rule) :
    parameterContext rule ≠ some .null := by
  unfold parameterContext
  cases rule.parameter with
  | none => exact nofun
  | some parameter => exact nofun

theorem BuiltInOutcome.context_ne_null
    [Libraries]
    {reachability : Reachability} {timeout : Duration} {companion : Companion}
    {name : String} {value : Value} {rule : Rule} {error : FieldError}
    (led : BuiltInOutcome reachability timeout companion name value rule (some error)) :
    error.context ≠ some .null := by
  cases led with
  | unconfirmed => exact nofun
  | _ => exact FieldError.parameterContext_ne_null rule

theorem Validator.exists_error?_of_mem
    {validator : Validator} {source : FieldSource} {error : FieldError}
    (member : error ∈ (validator.validate source).errors) :
    ∃ field ∈ source.fields, ∃ rule ∈ field.rules.rules,
      validator.catalogue.error? rule field.value
        ⟨field.name, source.companion validator.config.confirmationField⟩ = some error := by
  rw [validate_errors] at member
  obtain ⟨field, listed, reported⟩ := List.mem_flatMap.1 member
  obtain ⟨rule, asked, led⟩ := List.mem_filterMap.1 reported
  exact ⟨field, listed, rule, asked, led⟩

theorem Validator.context_ne_null_of_builtIn
    [Libraries]
    (config : Config)
    (reachability : Reachability)
    (book : RuleBook)
    (source : FieldSource) :
    let validator := Builder.assemble { config, reachability, predicates := [], rules := book }
    ∀ error ∈ (validator.validate source).errors, error.context ≠ some .null := by
  intro validator error member
  obtain ⟨field, -, rule, -, led⟩ := exists_error?_of_mem member
  exact ((BuiltInOutcome.iff_error?_eq _).2 led).context_ne_null

/-- **A report comes back from its value without its null contexts, and as it was if it has
none.** That holds of the value of the report, and of the value made of the list in its
envelope for clients. The reports of a validator that was made without further predicates,
on records of every sort, come back as they were. -/
theorem Report.comes_back [Libraries] :
    (∀ report : Report,
      ofValue? report.toValue = some report.withoutNullContexts ∧
      (ofValue? report.toValue = some report ↔
        ∀ error ∈ report.errors, error.context ≠ some .null) ∧
      ∃ listed,
        envelopeErrors? report.envelope = some listed ∧
        ofValue? (Value.ofEntries [("errors", listed)]) = ofValue? report.toValue) ∧
    (∀ (config : Config) (reachability : Reachability) (book : RuleBook) (source : FieldSource),
      let validator :=
        Validator.Builder.assemble { config, reachability, predicates := [], rules := book }
      let report := validator.validate source
      ofValue? report.toValue = some report) := by
  have unchanged (report : Report) :
      ofValue? report.toValue = some report ↔
        ∀ error ∈ report.errors, error.context ≠ some .null := by
    rw [ofValue?_toValue, Option.some_inj, withoutNullContexts_eq_self_iff]
  constructor
  · intro report
    exact ⟨ofValue?_toValue report, unchanged report, _, envelopeErrors?_envelope report, rfl⟩
  · intro config reachability book source validator report
    exact (unchanged report).2
      (Validator.context_ne_null_of_builtIn config reachability book source)

end Fieldwise
