import Fieldwise.Proofs.BuiltIn.Outcome
import Fieldwise.Proofs.Value.Equals

/-!
Contract: rules that compare a field with its companion.

Owns: the outcome of a confirmed rule by the value that the source holds under the name of
the companion, and what follows for dynamic records and for schemas.

Does **not** own: equality of values (`Fieldwise.Proofs.Value.Equals`), and the outcomes
of the other rules.

The companion is looked up by name, while the fields are visited in order. The two meet
where the companion is itself a field with rules: on a dynamic record it is visited with
the value that the look-up finds, in a schema with repeated names perhaps with another.
-/

set_option autoImplicit false

namespace Fieldwise

/-- What a confirmed rule leads to on a value, by what is held under the name of the
companion. A parameter of the rule has no part in it but to be reported. -/
inductive ConfirmedOutcome
    (companion : String)
    (held : Option Value)
    (name : String)
    (value : Value)
    (rule : Rule) :
    Option FieldError → Prop where
  | skipped (null : value = .null) : ConfirmedOutcome companion held name value rule none
  /-- There is nothing to compare the value with. -/
  | missing
      (present : value ≠ .null)
      (unset : held = none ∨ held = some .null) :
      ConfirmedOutcome companion held name value rule
        (some
          { field := name
            message := "The " ++ name ++ " field requires a confirmation field"
            code := "confirmation_missing"
            context := some (Value.ofEntries [("companion", .text companion)]) })
  | agreed {other : Value}
      (present : value ≠ .null)
      (found : held = some other)
      (set : other ≠ .null)
      (equal : other.Equals value) :
      ConfirmedOutcome companion held name value rule none
  | differed {other : Value}
      (present : value ≠ .null)
      (found : held = some other)
      (set : other ≠ .null)
      (unequal : ¬ other.Equals value) :
      ConfirmedOutcome companion held name value rule
        (some
          (.about name rule "confirmed"
            ("The " ++ name ++ " field does not match its confirmation")))

namespace ConfirmedOutcome

variable {companion name : String} {held : Option Value} {value : Value} {rule : Rule}

theorem filter_not_isNull {other : Value} (set : other ≠ .null) :
    (some other).filter (fun value => !value.isNull) = some other := by
  have given : other.isNull = false := by
    rw [← Bool.not_eq_true, Value.isNull_eq_true_iff]
    exact set
  rw [Option.filter_some, if_pos (by rw [given]; rfl)]

theorem keywordMessage_confirmed (name : String) (rule : Rule) (value : Value) :
    Report.keywordMessage name .confirmed rule value =
      "The " ++ name ++ " field does not match its confirmation" := by
  apply String.ext
  simp [Report.keywordMessage]

/-- Among the outcomes of the built-in rules, with the companion of a source. -/
theorem builtIn
    [Libraries]
    {outcome : Option FieldError}
    (reachability : Reachability)
    (timeout : Duration)
    (kind : rule.kind = .builtIn .confirmed)
    (given : ConfirmedOutcome companion held name value rule outcome) :
    BuiltInOutcome reachability timeout
      ⟨companion, held.filter fun other => !other.isNull⟩ name value rule outcome := by
  cases given with
  | skipped null => exact .nullSkipped kind null (by decide)
  | missing present unset =>
      refine .unconfirmed kind present ?_
      rcases unset with rfl | rfl <;> rfl
  | @agreed other present found set equal =>
      subst found
      refine .passed kind present (.any value) (.nothing rule.parameter) ⟨other, ?_, ?_⟩
      · exact filter_not_isNull set
      · exact (Value.same_eq_true_iff other value).2 equal
  | @differed other present found set unequal =>
      subst found
      have holds := filter_not_isNull set
      rw [← keywordMessage_confirmed name rule value]
      refine .failed kind present (.any value) (.nothing rule.parameter) ?_ ?_
      · rintro ⟨same, isHeld, passes⟩
        obtain rfl := Option.some.inj (holds.symm.trans isHeld)
        exact unequal ((Value.same_eq_true_iff other value).1 passes)
      · intro _ absent
        cases holds.symm.trans absent

theorem exists_outcome
    (companion name : String)
    (held : Option Value)
    (value : Value)
    (rule : Rule) :
    ∃ outcome, ConfirmedOutcome companion held name value rule outcome := by
  by_cases null : value = .null
  · exact ⟨_, .skipped null⟩
  · cases held with
    | none => exact ⟨_, .missing null (.inl rfl)⟩
    | some other =>
        by_cases unset : other = .null
        · exact ⟨_, .missing null (.inr (congrArg some unset))⟩
        · by_cases equal : other.Equals value
          · exact ⟨_, .agreed null rfl unset equal⟩
          · exact ⟨_, .differed null rfl unset equal⟩

/-- Evaluation with the built-in predicate decides the relation. -/
theorem iff_error?_eq
    {catalogue : Catalogue}
    (behind : catalogue.get? (.builtIn .confirmed) = some Predicate.confirmed)
    (kind : rule.kind = .builtIn .confirmed)
    (outcome : Option FieldError) :
    ConfirmedOutcome companion held name value rule outcome ↔
      catalogue.error? rule value
        ⟨name, companion, held.filter fun other => !other.isNull⟩ = outcome := by
  have builtInError (context : RuleContext) : catalogue.error? rule value context =
      (Catalogue.builtIn Reachability.offline Config.default.activeUrlTimeout).error? rule value
        context := by
    rw [BuiltInOutcome.error?_keyword kind, Catalogue.error?, kind, behind]
    rfl
  rw [builtInError]
  constructor
  · intro given
    exact (given.builtIn Reachability.offline Config.default.activeUrlTimeout kind).error?_eq
  · rintro rfl
    obtain ⟨outcome, given⟩ := exists_outcome companion name held value rule
    rwa [(given.builtIn Reachability.offline Config.default.activeUrlTimeout kind).error?_eq]

end ConfirmedOutcome

/-! ## Dynamic records -/

/-- A value agrees with itself, and the companion of a dynamic record is visited with the
value that is held under its name. -/
theorem ConfirmedOutcome.eq_none_of_companion
    {record : DynamicRecord} {companion : String} {rule : Rule} {outcome : Option FieldError}
    (given :
      ConfirmedOutcome companion (record.get? companion) companion
        ((record.get? companion).getD .null) rule outcome) :
    outcome = none := by
  generalize record.get? companion = held at given
  cases given with
  | skipped null => rfl
  | agreed present found set equal => rfl
  | missing present unset => rcases unset with rfl | rfl <;> exact absurd rfl present
  | @differed other present found set unequal =>
      subst found
      exact absurd ((Value.same_eq_true_iff other other).1 other.same_self) unequal

/-- The rules of a field, without the confirmed ones where the field is the companion. -/
def withoutOwnConfirmed (companion : String) (entry : String × List Rule) :
    String × List Rule :=
  if entry.1 = companion then
    (entry.1, entry.2.filter fun rule => rule.kind ≠ .builtIn .confirmed)
  else entry

namespace Validator

theorem errorsOf_withoutOwnConfirmed
    {validator : Validator}
    (behind : validator.catalogue.get? (.builtIn .confirmed) = some Predicate.confirmed)
    (record : DynamicRecord)
    (companion : String)
    (entry : String × List Rule) :
    let errorsOf (entry : String × List Rule) :=
      validator.catalogue.errorsOf
        ⟨companion, (record.get? companion).filter fun other => !other.isNull⟩ entry.1
        ((record.get? entry.1).getD .null) entry.2
    errorsOf (withoutOwnConfirmed companion entry) = errorsOf entry := by
  intro errorsOf
  obtain ⟨name, rules⟩ := entry
  by_cases own : name = companion
  · subst own
    rw [withoutOwnConfirmed, if_pos rfl]
    show (rules.filter _).filterMap _ = rules.filterMap _
    apply filterMap_filter_of_dropped
    intro rule dropped
    have kind : rule.kind = .builtIn .confirmed := by simpa using dropped
    exact ConfirmedOutcome.eq_none_of_companion
      ((ConfirmedOutcome.iff_error?_eq behind kind _).2 rfl)
  · rw [withoutOwnConfirmed, if_neg own]

theorem validate_withoutOwnConfirmed
    {validator : Validator}
    (behind : validator.catalogue.get? (.builtIn .confirmed) = some Predicate.confirmed)
    (record : DynamicRecord)
    (visited : List (String × List Rule)) :
    validator.validate
        (record.bind (visited.map (withoutOwnConfirmed validator.config.confirmationField))) =
      validator.validate (record.bind visited) := by
  apply Report.ext
  rw [validate_errors, validate_errors]
  simp only [DynamicRecord.bind, List.flatMap_map]
  apply List.flatMap_congr
  intro entry _
  exact errorsOf_withoutOwnConfirmed behind record validator.config.confirmationField entry

end Validator

/-! ## Schemas -/

/-- The first declared field of a name is the one that look-up finds. -/
theorem Schema.lookup_bind_of_first
    {Record : Type} {schema : Schema Record} {name : String}
    {before after : List (SchemaField Record)} {field : SchemaField Record}
    (declared : schema.fields = before ++ field :: after)
    (named : field.name = name)
    (first : ∀ earlier ∈ before, earlier.name ≠ name)
    (record : Record) :
    (schema.bind record).lookup name = some (Schema.valueOf record field) := by
  have missed : before.find? (fun field => field.name = name) = none := by
    apply List.find?_eq_none.2
    intro earlier member
    simpa using first earlier member
  show (schema.fields.find? fun field => field.name = name).map _ = _
  rw [declared, List.find?_append, missed, List.find?_cons_of_pos (by simpa using named)]
  rfl

namespace Validator

/-- **A confirmed rule compares the value of its field with what is held under the name of
the companion.** Every such rule of a record sees the one value that look-up finds, wherever
the companion stands among the fields: null is passed over, an absent or null companion is
an error of its own, and else there is an error exactly if the two values are not equal. On
a dynamic record the companion agrees with itself, so that its own confirmed rules could as
well be left out. In a schema the first declared field of the name is the companion. The
order in which an object was written has no part in equality. -/
theorem confirmed_rules_compare_with_companion
    {validator : Validator}
    (behind : validator.catalogue.get? (.builtIn .confirmed) = some Predicate.confirmed) :
    let companion := validator.config.confirmationField
    (∀ (source : FieldSource) (report : Report),
      validator.validate source = report ↔
        ∃ outcomes : List (Option FieldError),
          List.Forall₂
            (fun (demand : Field × Rule) outcome =>
              if demand.2.kind = .builtIn .confirmed then
                ConfirmedOutcome companion (source.lookup companion)
                  demand.1.name demand.1.value demand.2 outcome
              else
                Outcome demand.1.name demand.1.value demand.2 (source.companion companion)
                  (validator.catalogue.get? demand.2.kind) outcome)
            source.demands outcomes ∧
          report.errors = outcomes.reduceOption) ∧
    (∀ (record : DynamicRecord) (visited : List (String × List Rule)),
      validator.validate (record.bind (visited.map (withoutOwnConfirmed companion))) =
        validator.validate (record.bind visited)) ∧
    (∀ (Record : Type) (schema : Schema Record) (record : Record)
        (before after : List (SchemaField Record)) (field : SchemaField Record),
      schema.fields = before ++ field :: after →
      field.name = companion →
      (∀ earlier ∈ before, earlier.name ≠ companion) →
      (schema.bind record).lookup companion = some (Schema.valueOf record field)) ∧
    ∀ lefts rights : List (String × Value),
      (Value.ofEntries lefts).Equals (Value.ofEntries rights) ↔
        ∀ key,
          Option.Rel Value.Equals (lefts.reverse.lookup key) (rights.reverse.lookup key) := by
  intro companion
  refine ⟨?_, validate_withoutOwnConfirmed behind, ?_, Value.equals_ofEntries_iff⟩
  · intro source
    apply validator.validate_eq_iff_walk source
    intro demand outcome
    by_cases kind : demand.2.kind = .builtIn .confirmed
    · rw [if_pos kind]
      exact ConfirmedOutcome.iff_error?_eq behind kind outcome
    · rw [if_neg kind]
      exact outcome_iff_error?_eq validator.catalogue outcome
  · intro Record schema record before after field declared named first
    exact Schema.lookup_bind_of_first declared named first record

/-- The second companion of a schema holds the value of the field, and does not count. -/
theorem first_companion_counts :
    let password : SchemaField Unit := ⟨"Password", "confirmed", fun _ => .text "s3cret"⟩
    let first : SchemaField Unit := ⟨"Confirmation_password", "", fun _ => .text "other"⟩
    let second : SchemaField Unit := ⟨"Confirmation_password", "", fun _ => .text "s3cret"⟩
    let schema : Schema Unit := ⟨[password, first, second]⟩
    Validator.default.catalogue.get? (.builtIn .confirmed) = some Predicate.confirmed ∧
    schema.fields = [password] ++ first :: [second] ∧
    first.name = "Confirmation_password" ∧ password.name ≠ "Confirmation_password" ∧
    (schema.bind ()).lookup "Confirmation_password" = some (.text "other") ∧
    (Validator.default.validateSchema schema ()).errors =
      [.about "Password" ⟨.builtIn .confirmed, none⟩ "confirmed"
        ("The " ++ "Password" ++ " field does not match its confirmation")] := by
  intro password first second schema
  have behind : Validator.default.catalogue.get? (.builtIn .confirmed) =
      some Predicate.confirmed := Catalogue.builtIn_get?_keyword _ _ .confirmed
  have other : password.name ≠ "Confirmation_password" := by decide
  obtain ⟨walks, -, firstDeclared, -⟩ := confirmed_rules_compare_with_companion behind
  have found : (schema.bind ()).lookup "Confirmation_password" = some (.text "other") :=
    firstDeclared Unit schema () [password] [second] first rfl rfl
      fun earlier member => List.mem_singleton.1 member ▸ other
  refine ⟨behind, rfl, rfl, other, found, ?_⟩
  let rule : Rule := ⟨.builtIn .confirmed, none⟩
  have read : (RuleSource.declared "confirmed").rules = [rule] := by decide
  have nothing : (RuleSource.declared "").rules = [] := by decide
  have demands : (schema.bind ()).demands =
      [(⟨"Password", .text "s3cret", .declared "confirmed"⟩, rule)] := by
    simp only [FieldSource.demands, Schema.bind, schema, password, first, second, List.map_cons,
      List.map_nil, List.flatMap_cons, List.flatMap_nil, read, nothing]
    rfl
  have unequal : ¬ (Value.text "other").Equals (.text "s3cret") := by
    rw [← Value.same_eq_true_iff]
    decide
  have differs : ConfirmedOutcome "Confirmation_password" (some (.text "other")) "Password"
      (.text "s3cret") rule _ := .differed (by simp) rfl (by simp) unequal
  refine congrArg Report.errors ((walks (schema.bind ()) ⟨_⟩).2 ⟨[some _], ?_, rfl⟩)
  rw [demands]
  exact .cons differs .nil

end Validator

end Fieldwise
