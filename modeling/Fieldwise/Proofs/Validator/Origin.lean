import Fieldwise.Proofs.Config.Environment
import Fieldwise.Proofs.Validator.Assembly

/-!
Contract: where validators come from, and the settings they run on.

Owns: the ways of obtaining a validator, and the validity of its settings whichever way was
taken and whatever calls came after.

Does **not** own: the reading of settings from an environment
(`Fieldwise.Proofs.Config.Environment`).

One way does not test its settings, because they are the default ones. No call touches
settings, so that it is enough to look at the ways of making a validator.
-/

set_option autoImplicit false

namespace Fieldwise

namespace Validator

/-- The settings that a list of settings gives: the last ones, or else the default ones. -/
def givenBy (settings : List Setting) : Config :=
  (settings.filterMap Setting.config?).getLast?.getD Config.default

/-- A validator that clients can come by, with the settings that they gave for it. -/
inductive Obtained [Libraries] : Config → Validator → Prop where
  | default : Obtained Config.default Validator.default
  | ofConfig {given : Config} {validator : Validator}
      (made : Validator.ofConfig given = .ok validator) :
      Obtained given validator
  | built {settings : List Setting} {validator : Validator}
      (made : (Builder.initial.setAll settings).build = .ok validator) :
      Obtained (givenBy settings) validator
  | after {given : Config} {validator : Validator}
      (obtained : Obtained given validator)
      (call : Call) :
      Obtained given (validator.after call)

theorem config_after (validator : Validator) (call : Call) :
    (validator.after call).config = validator.config := by
  cases call <;> rfl

theorem default_isValid : Config.default.IsValid :=
  (Config.validate_eq_ok_iff _).1 (by decide)

/-- A builder makes a validator of the settings it holds, and only if they are valid. -/
theorem config_of_build [Libraries] {builder : Builder} {validator : Validator}
    (made : builder.build = .ok validator) :
    validator.config = builder.config ∧ builder.config.IsValid := by
  obtain ⟨accepted, rfl⟩ := (Builder.build_eq_ok_iff builder validator).1 made
  exact ⟨rfl, (Config.validate_eq_ok_iff _).1 accepted⟩

theorem exists_ofConfig_iff [Libraries] (config : Config) :
    (∃ validator, Validator.ofConfig config = .ok validator) ↔ config.IsValid := by
  rw [← Config.validate_eq_ok_iff]
  constructor
  · rintro ⟨validator, made⟩
    exact ((Builder.build_eq_ok_iff _ validator).1 made).1
  · intro accepted
    exact ⟨_, (Builder.build_eq_ok_iff _ _).2 ⟨accepted, rfl⟩⟩

/-- The invariant of validators. -/
theorem Obtained.config_eq
    [Libraries]
    {given : Config} {validator : Validator}
    (obtained : Obtained given validator) :
    validator.config = given ∧ given.IsValid := by
  induction obtained with
  | default => exact ⟨rfl, default_isValid⟩
  | ofConfig made => exact config_of_build made
  | built made =>
      have kept := config_of_build made
      rw [Builder.setAll_eq] at kept
      exact kept
  | after obtained call inductionHypothesis =>
      rw [config_after]
      exact inductionHypothesis

theorem Obtained.afterAll
    [Libraries]
    {given : Config} {validator : Validator}
    (obtained : Obtained given validator)
    (calls : List Call) :
    Obtained given (validator.afterAll calls) := by
  unfold Validator.afterAll
  induction calls generalizing validator with
  | nil => exact obtained
  | cons call rest inductionHypothesis => exact inductionHypothesis (obtained.after call)

theorem exists_obtained_iff [Libraries] (given : Config) :
    (∃ validator, Obtained given validator) ↔ given.validate = .ok () := by
  rw [Config.validate_eq_ok_iff]
  constructor
  · rintro ⟨validator, obtained⟩
    exact obtained.config_eq.2
  · intro valid
    obtain ⟨validator, made⟩ := (exists_ofConfig_iff given).2 valid
    exact ⟨validator, .ofConfig made⟩

/-- **No validator runs on settings that are refused.** An environment is read as settings
exactly if its timeout is unset or a positive numeral of 64 bits, and its companion unset or
not blank. A timeout that is no such numeral is the error, whatever the companion; every
other failure comes from the test of the settings. What is read passes that test, and holds
the timeout and the name that the environment gives. A validator can be obtained from some
settings exactly if they pass the test; it holds these settings, after any calls. -/
theorem settings_are_valid [Libraries] :
    (∀ environment : Environment,
      ((∃ config, Config.ofEnvironment environment = .ok config) ↔
        environment.SetsTimeout ∧ environment.NamesCompanion) ∧
      (∀ text, Config.ofEnvironment environment = .error (.unreadableTimeout text) ↔
        environment.timeoutMillis = some text ∧ ¬ Text.IsUInt64Numeral text.toList) ∧
      (∀ error, Config.ofEnvironment environment = .error error →
        (∀ text, environment.timeoutMillis = some text → Text.IsUInt64Numeral text.toList) →
          error = .zeroTimeout ∨ error = .blankConfirmationField) ∧
      (∀ config, Config.ofEnvironment environment = .ok config →
        config.validate = .ok () ∧
        (∀ text, environment.timeoutMillis = some text →
          ∃ millis, Text.WritesNatural text.toList millis ∧
            config.activeUrlTimeout.totalNanos = millis * 1000000) ∧
        (environment.timeoutMillis = none →
          config.activeUrlTimeout = Config.default.activeUrlTimeout) ∧
        config.confirmationField = environment.companionName)) ∧
    (∀ given, (∃ validator, Obtained given validator) ↔ given.validate = .ok ()) ∧
    (∀ given validator, Obtained given validator →
      validator.config = given ∧
      given.validate = .ok () ∧
      0 < given.activeUrlTimeout.totalNanos ∧
      ∃ char ∈ given.confirmationField.toList, Text.isBlank char = false) := by
  refine ⟨?_, exists_obtained_iff, ?_⟩
  · intro environment
    refine ⟨environment.exists_ofEnvironment_eq_ok_iff,
      environment.ofEnvironment_eq_unreadable_iff, ?_, ?_⟩
    · intro error failed readable
      cases error with
      | unreadableTimeout text =>
          obtain ⟨present, foreign⟩ := (environment.ofEnvironment_eq_unreadable_iff text).1 failed
          exact absurd (readable text present) foreign
      | zeroTimeout => exact .inl rfl
      | blankConfirmationField => exact .inr rfl
    · intro config read
      have valid := Environment.isValid_of_ofEnvironment_eq_ok read
      refine ⟨(Config.validate_eq_ok_iff config).2 valid, ?_, ?_, ?_⟩
      · exact fun text => Environment.totalNanos_of_ofEnvironment_eq_ok read
      · exact Environment.activeUrlTimeout_of_ofEnvironment_eq_ok read
      · exact Environment.confirmationField_of_ofEnvironment_eq_ok read
  · intro given validator obtained
    obtain ⟨kept, valid⟩ := obtained.config_eq
    exact ⟨kept, (Config.validate_eq_ok_iff given).2 valid, valid.timed, valid.named⟩

/-- A timeout with a plus sign and a leading zero, and no name for the companion. -/
def signedTimeout : Environment :=
  { timeoutMillis := some "+0250"
    confirmationField := none }

theorem signed_timeout_is_kept :
    ∃ config validator,
      Config.ofEnvironment signedTimeout = .ok config ∧
      Obtained config validator ∧
      (validator.afterAll mixedCalls).config = config ∧
      config.activeUrlTimeout.totalNanos = 250000000 := by
  have read : Config.ofEnvironment signedTimeout =
      .ok ⟨Duration.ofMillis 250, "Confirmation_password"⟩ := by
    decide +kernel
  obtain ⟨accepted, -⟩ := (settings_are_valid.1 signedTimeout).2.2.2 _ read
  obtain ⟨validator, obtained⟩ := (settings_are_valid.2.1 _).2 accepted
  obtain ⟨kept, -⟩ := settings_are_valid.2.2 _ _ (obtained.afterAll mixedCalls)
  exact ⟨_, validator, read, obtained, kept, Duration.totalNanos_ofMillis 250⟩

end Validator

end Fieldwise
