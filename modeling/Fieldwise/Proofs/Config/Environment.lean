import Fieldwise.Config.Basic
import Fieldwise.Proofs.Text.Numeral

/-!
Contract: settings read from an environment.

Owns: the length of a timeout in milliseconds, which settings a validator may run on, and
the four outcomes of reading an environment, each with its condition.

Does **not** own: validators that run on the settings (`Fieldwise.Proofs.Validator.Origin`).

A timeout that cannot be read ends the reading, whatever else the environment holds. What
was read is then tested, the timeout before the name. The conditions of the outcomes follow
this order, so that they exclude one another.
-/

set_option autoImplicit false

namespace Fieldwise

namespace Duration

theorem totalNanos_ofMillis (millis : UInt64) :
    (ofMillis millis).totalNanos = millis.toNat * 1000000 := by
  have carried : millis.toNat % 1000 * 1000000 < 1000000000 := by omega
  have whole : (millis / 1000).toNat = millis.toNat / 1000 := UInt64.toNat_div millis 1000
  simp only [totalNanos, ofMillis, Fin.ofNat, whole, Nat.mod_eq_of_lt carried]
  omega

theorem isZero_ofMillis (millis : UInt64) : (ofMillis millis).isZero = true ↔ millis = 0 := by
  rw [isZero, decide_eq_true_iff, totalNanos_ofMillis, ← UInt64.toNat_inj, UInt64.toNat_zero]
  omega

end Duration

namespace Config

/-- Settings that a validator may run on: an address has some time to answer, and the
companion has a name that is not blank. -/
structure IsValid (config : Config) : Prop where
  timed : 0 < config.activeUrlTimeout.totalNanos
  named : ∃ char ∈ config.confirmationField.toList, Text.isBlank char = false

theorem validate_eq_ok_iff (config : Config) : config.validate = .ok () ↔ config.IsValid := by
  have zero : config.activeUrlTimeout.isZero = true ↔ config.activeUrlTimeout.totalNanos = 0 :=
    decide_eq_true_iff
  unfold validate
  constructor
  · intro accepted
    split at accepted
    · cases accepted
    next timed =>
      split at accepted
      · cases accepted
      next named =>
        rw [zero] at timed
        exact ⟨by omega, (Text.allBlank_eq_false_iff _).1 (eq_false_of_ne_true named)⟩
  · intro valid
    have timed := valid.timed
    rw [if_neg (by rw [zero]; omega), (Text.allBlank_eq_false_iff _).2 valid.named]
    rfl

end Config

namespace Environment

/-- The name of the companion that an environment gives; the default where it is unset. -/
def companionName (environment : Environment) : String :=
  environment.confirmationField.getD Config.default.confirmationField

/-- The milliseconds that an environment gives as timeout; five thousand where it is unset. -/
inductive GivesMillis (environment : Environment) : UInt64 → Prop where
  | unset (absent : environment.timeoutMillis = none) : GivesMillis environment 5000
  | written {text : String} {millis : UInt64}
      (present : environment.timeoutMillis = some text)
      (writes : Text.WritesNatural text.toList millis.toNat) :
      GivesMillis environment millis

/-- What an environment is read as. -/
inductive Yields (environment : Environment) : Except ConfigError Config → Prop where
  | unreadable {text : String}
      (present : environment.timeoutMillis = some text)
      (foreign : ¬ Text.IsUInt64Numeral text.toList) :
      Yields environment (.error (.unreadableTimeout text))
  | zero (gives : environment.GivesMillis 0) : Yields environment (.error .zeroTimeout)
  | blank {millis : UInt64}
      (gives : environment.GivesMillis millis)
      (positive : millis ≠ 0)
      (blank : Text.allBlank environment.companionName.toList = true) :
      Yields environment (.error .blankConfirmationField)
  | valid {millis : UInt64}
      (gives : environment.GivesMillis millis)
      (positive : millis ≠ 0)
      (named : Text.allBlank environment.companionName.toList = false) :
      Yields environment (.ok ⟨Duration.ofMillis millis, environment.companionName⟩)

variable {environment : Environment}

theorem GivesMillis.eq_of_none {millis : UInt64}
    (gives : environment.GivesMillis millis)
    (absent : environment.timeoutMillis = none) :
    millis = 5000 := by
  cases gives with
  | unset _ => rfl
  | written present _ =>
      rw [absent] at present
      cases present

theorem GivesMillis.writes_of_some {millis : UInt64} {text : String}
    (gives : environment.GivesMillis millis)
    (present : environment.timeoutMillis = some text) :
    Text.WritesNatural text.toList millis.toNat := by
  cases gives with
  | unset absent =>
      rw [absent] at present
      cases present
  | written given writes =>
      obtain rfl := Option.some.inj (given.symm.trans present)
      exact writes

theorem GivesMillis.readTimeout {millis : UInt64} (gives : environment.GivesMillis millis) :
    Config.readTimeout environment.timeoutMillis = .ok (Duration.ofMillis millis) := by
  cases gives with
  | unset absent => rw [absent, Config.readTimeout, Config.default]
  | written present writes =>
      rw [present, Config.readTimeout, (Text.uint64?_eq_some_iff _ millis).2 writes]

theorem ofEnvironment_eq_bind (environment : Environment) :
    Config.ofEnvironment environment =
      (Config.readTimeout environment.timeoutMillis).bind fun timeout =>
        (Config.validate ⟨timeout, environment.companionName⟩).bind fun _ =>
          .ok ⟨timeout, environment.companionName⟩ :=
  rfl

/-- A timeout that is read leaves the test of the settings. -/
theorem GivesMillis.ofEnvironment {millis : UInt64} (gives : environment.GivesMillis millis) :
    Config.ofEnvironment environment =
      (Config.validate ⟨Duration.ofMillis millis, environment.companionName⟩).bind fun _ =>
        .ok ⟨Duration.ofMillis millis, environment.companionName⟩ := by
  rw [ofEnvironment_eq_bind, gives.readTimeout, Except.bind]

theorem Yields.ofEnvironment {outcome : Except ConfigError Config}
    (yields : environment.Yields outcome) :
    Config.ofEnvironment environment = outcome := by
  cases yields with
  | unreadable present foreign =>
      rw [ofEnvironment_eq_bind, present, Config.readTimeout,
        (Text.uint64?_eq_none_iff _).2 foreign]
      rfl
  | zero gives =>
      rw [gives.ofEnvironment, Config.validate, if_pos ((Duration.isZero_ofMillis 0).2 rfl)]
      rfl
  | blank gives positive blank =>
      have timed := mt (Duration.isZero_ofMillis _).1 positive
      rw [gives.ofEnvironment, Config.validate, if_neg timed, if_pos blank]
      rfl
  | valid gives positive named =>
      have timed := mt (Duration.isZero_ofMillis _).1 positive
      rw [gives.ofEnvironment, Config.validate, if_neg timed, named]
      rfl

theorem exists_yields (environment : Environment) : ∃ outcome, environment.Yields outcome := by
  have tested {millis : UInt64} (gives : environment.GivesMillis millis) :
      ∃ outcome, environment.Yields outcome := by
    by_cases positive : millis = 0
    · exact ⟨_, .zero (positive ▸ gives)⟩
    · cases blank : Text.allBlank environment.companionName.toList with
      | true => exact ⟨_, .blank gives positive blank⟩
      | false => exact ⟨_, .valid gives positive blank⟩
  cases present : environment.timeoutMillis with
  | none => exact tested (.unset present)
  | some text =>
      by_cases numeral : Text.IsUInt64Numeral text.toList
      · obtain ⟨value, writes, below⟩ := numeral
        rw [← UInt64.toNat_ofNat_of_lt' below] at writes
        exact tested (.written present writes)
      · exact ⟨_, .unreadable present numeral⟩

/-- An environment is read as what it yields, and yields nothing else. -/
theorem ofEnvironment_eq_iff (environment : Environment) (outcome : Except ConfigError Config) :
    Config.ofEnvironment environment = outcome ↔ environment.Yields outcome := by
  constructor
  · rintro rfl
    obtain ⟨outcome, yields⟩ := environment.exists_yields
    rwa [yields.ofEnvironment]
  · exact Yields.ofEnvironment

/-! ## Conditions on the two variables -/

/-- The timeout is unset, or a numeral of a positive number of 64 bits. -/
def SetsTimeout (environment : Environment) : Prop :=
  ∀ text, environment.timeoutMillis = some text →
    ∃ millis, Text.WritesNatural text.toList millis ∧ 1 ≤ millis ∧ millis ≤ 2 ^ 64 - 1

/-- The companion is not named, or by a text that is not blank. -/
def NamesCompanion (environment : Environment) : Prop :=
  ∀ name, environment.confirmationField = some name →
    ∃ char ∈ name.toList, Text.isBlank char = false

theorem setsTimeout_iff (environment : Environment) :
    environment.SetsTimeout ↔ ∃ millis, environment.GivesMillis millis ∧ millis ≠ 0 := by
  constructor
  · intro sets
    cases present : environment.timeoutMillis with
    | none => exact ⟨5000, .unset present, by decide⟩
    | some text =>
        obtain ⟨value, writes, positive, below⟩ := sets text present
        have fits : value < UInt64.size := Nat.lt_of_le_of_lt below (by decide)
        rw [← UInt64.toNat_ofNat_of_lt' fits] at writes positive
        refine ⟨_, .written present writes, ?_⟩
        intro zero
        rw [zero] at positive
        exact absurd positive (by decide)
  · rintro ⟨millis, gives, positive⟩ text present
    have written := UInt64.lt_iff_toNat_lt.1 (UInt64.pos_iff_ne_zero.2 positive)
    exact ⟨_, gives.writes_of_some present, written, Nat.le_sub_one_of_lt millis.toNat_lt⟩

theorem namesCompanion_iff (environment : Environment) :
    environment.NamesCompanion ↔ Text.allBlank environment.companionName.toList = false := by
  rw [Text.allBlank_eq_false_iff, companionName]
  cases present : environment.confirmationField with
  | none =>
      refine iff_of_true ?_ ⟨'C', by decide, by decide⟩
      intro name given
      rw [present] at given
      cases given
  | some name => simp [NamesCompanion, present]

theorem exists_ofEnvironment_eq_ok_iff (environment : Environment) :
    (∃ config, Config.ofEnvironment environment = .ok config) ↔
      environment.SetsTimeout ∧ environment.NamesCompanion := by
  simp only [ofEnvironment_eq_iff, setsTimeout_iff, namesCompanion_iff]
  constructor
  · rintro ⟨config, yields⟩
    cases yields with
    | valid gives positive named => exact ⟨⟨_, gives, positive⟩, named⟩
  · rintro ⟨⟨millis, gives, positive⟩, named⟩
    exact ⟨_, .valid gives positive named⟩

theorem ofEnvironment_eq_unreadable_iff (environment : Environment) (text : String) :
    Config.ofEnvironment environment = .error (.unreadableTimeout text) ↔
      environment.timeoutMillis = some text ∧ ¬ Text.IsUInt64Numeral text.toList := by
  rw [ofEnvironment_eq_iff]
  constructor
  · intro yields
    cases yields with
    | unreadable present foreign => exact ⟨present, foreign⟩
  · rintro ⟨present, foreign⟩
    exact .unreadable present foreign

/-- A validator may run on whatever an environment is read as. -/
theorem isValid_of_ofEnvironment_eq_ok {config : Config}
    (read : Config.ofEnvironment environment = .ok config) :
    config.IsValid := by
  cases (environment.ofEnvironment_eq_iff _).1 read with
  | valid gives positive named =>
      refine ⟨?_, (Text.allBlank_eq_false_iff _).1 named⟩
      have written := UInt64.lt_iff_toNat_lt.1 (UInt64.pos_iff_ne_zero.2 positive)
      rw [Duration.totalNanos_ofMillis]
      exact Nat.mul_pos written (by decide)

/-- The timeout that is read from a numeral is as long as the numeral says. -/
theorem totalNanos_of_ofEnvironment_eq_ok {config : Config} {text : String}
    (read : Config.ofEnvironment environment = .ok config)
    (present : environment.timeoutMillis = some text) :
    ∃ millis, Text.WritesNatural text.toList millis ∧
      config.activeUrlTimeout.totalNanos = millis * 1000000 := by
  cases (environment.ofEnvironment_eq_iff _).1 read with
  | valid gives positive named =>
      exact ⟨_, gives.writes_of_some present, Duration.totalNanos_ofMillis _⟩

theorem activeUrlTimeout_of_ofEnvironment_eq_ok {config : Config}
    (read : Config.ofEnvironment environment = .ok config)
    (absent : environment.timeoutMillis = none) :
    config.activeUrlTimeout = Config.default.activeUrlTimeout := by
  cases (environment.ofEnvironment_eq_iff _).1 read with
  | valid gives positive named =>
      rw [gives.eq_of_none absent, Config.default]

theorem confirmationField_of_ofEnvironment_eq_ok {config : Config}
    (read : Config.ofEnvironment environment = .ok config) :
    config.confirmationField = environment.companionName := by
  cases (environment.ofEnvironment_eq_iff _).1 read with
  | valid gives positive named => rfl

end Environment

end Fieldwise
