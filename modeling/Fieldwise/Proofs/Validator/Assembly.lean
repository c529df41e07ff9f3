import Fieldwise.Proofs.Engine.Independence
import Fieldwise.Proofs.Validator.History

/-!
Contract: validators made from settings in any order.

Owns: what a list of settings makes of a builder, and the agreement of the validator
that is built from it with one that is built bare and extended by calls.

Does **not** own: what calls make of a validator (`Fieldwise.Proofs.Validator.History`).

The invariant of a builder is that the last configuration and the last check count, and
that predicates and specifications are all kept, each in their order. The four sorts of
settings do not see each other, so that only the order inside a sort can matter.

Reports on a dynamic record are compared block by block, by the field that errors come
from; and by the name that errors bear, where predicates name their field.
-/

set_option autoImplicit false

namespace Fieldwise

/-- All rules of a specification, for a field. -/
def Registration.ofSpec (spec : String × String) : Registration :=
  .batch spec.1 spec.2

namespace Validator

/-! ## Sorts of settings -/

namespace Setting

def config? : Setting → Option Config
  | .config chosen => some chosen
  | _ => none

def reachability? : Setting → Option Reachability
  | .reachability chosen => some chosen
  | _ => none

def predicate? : Setting → Option (Kind × Predicate)
  | .predicate kind added => some (kind, added)
  | _ => none

/-- A field with its specification. -/
def spec? : Setting → Option (String × String)
  | .rules field spec => some (field, spec)
  | _ => none

end Setting

/-- The settings, in some order, set a configuration and a check, and no other after
them; and add predicates and specifications, each in the given order. -/
structure Arranges
    (settings : List Setting)
    (config : Config)
    (reachability : Reachability)
    (added : List (Kind × Predicate))
    (specs : List (String × String)) : Prop where
  config : (settings.filterMap Setting.config?).getLast? = some config
  reachability : (settings.filterMap Setting.reachability?).getLast? = some reachability
  predicates : settings.filterMap Setting.predicate? = added
  specs : settings.filterMap Setting.spec? = specs

namespace Builder

/-- The invariant of a builder. -/
theorem setAll_eq (builder : Builder) (settings : List Setting) :
    builder.setAll settings =
      { config := (settings.filterMap Setting.config?).getLast?.getD builder.config
        reachability :=
          (settings.filterMap Setting.reachability?).getLast?.getD builder.reachability
        predicates := builder.predicates ++ settings.filterMap Setting.predicate?
        rules := builder.rules.registerAll
          ((settings.filterMap Setting.spec?).map Registration.ofSpec) } := by
  unfold setAll
  induction settings generalizing builder with
  | nil => simp [RuleBook.registerAll]
  | cons setting rest inductionHypothesis =>
      rw [List.foldl_cons, inductionHypothesis]
      -- A setting heads the list of its own sort and leaves the other three as they are.
      cases setting <;>
        simp [set, List.filterMap_cons, List.getLast?_cons, RuleBook.registerAll,
          Registration.ofSpec, Setting.config?, Setting.reachability?, Setting.predicate?,
          Setting.spec?]

theorem build_eq_ok_iff [Libraries] (builder : Builder) (built : Validator) :
    builder.build = .ok built ↔ builder.config.validate = .ok () ∧ builder.assemble = built := by
  unfold build
  cases builder.config.validate with
  | error error => simp [Except.map]
  | ok accepted => simp [Except.map]

end Builder

theorem assemble_setAll_eq_afterAll
    [Libraries]
    {settings : List Setting} {config : Config} {reachability : Reachability}
    {added : List (Kind × Predicate)} {specs : List (String × String)} {calls : List Call}
    (arranged : Arranges settings config reachability added specs)
    (addsPredicates : predicates calls = added)
    (addsRules : registrations calls = specs.map Registration.ofSpec) :
    (Builder.initial.setAll settings).assemble =
      (Builder.initial.setAll [.config config, .reachability reachability]).assemble.afterAll
        calls := by
  rw [Builder.setAll_eq, arranged.config, arranged.reachability, arranged.predicates,
    arranged.specs, afterAll_eq, addsPredicates, addsRules]
  rfl

/-! ## Reports of two validators -/

/-- Two validators report the same on every record, of whatever sort. The errors of a
dynamic record are compared block by block, because each validator visits its fields in
an order of its own. -/
structure ReportsAlike (validator other : Validator) : Prop where
  source : ∀ source : FieldSource, validator.validate source = other.validate source
  schema : ∀ {Record : Type} (schema : Schema Record) (record : Record),
    validator.validateSchema schema record = other.validateSchema schema record
  /-- The errors that come from a field, whatever name they bear, are the same, in the
  same order. -/
  blocks : ∀ (record : DynamicRecord) (visited elsewhere : List (String × List Rule)),
    visited.Perm validator.rules.entries → elsewhere.Perm other.rules.entries →
      ∀ name,
        itemsOf Prod.fst name (validator.attributedErrors record visited) =
          itemsOf Prod.fst name (other.attributedErrors record elsewhere)
  /-- So are the errors that bear a name, where predicates name their field. -/
  named : validator.catalogue.NamesFields →
    ∀ (record : DynamicRecord) (report twin : Report),
      validator.MayReport record report → other.MayReport record twin →
        ∀ name, report.ofField name = twin.ofField name

/-- Even one validator may visit the fields of a record in two orders; the errors of each
field are the same. -/
theorem ReportsAlike.refl (validator : Validator) : validator.ReportsAlike validator where
  source _ := rfl
  schema _ _ := rfl
  blocks record visited elsewhere visits revisits name := by
    rw [itemsOf_attributedErrors record visits, itemsOf_attributedErrors record revisits]
  named names record report twin reported told name := by
    rw [reported.ofField_eq names, told.ofField_eq names]

/-- **Whether a validator is built from its settings or extended call by call makes no
difference.** Any list of settings builds a validator exactly if the configuration that
was set last may be run on, whatever else was set. Where predicates and specifications
are set in the same order among themselves as calls register them, the validator that is
built, in any arrangement, reports on every record what the bare validator of the same
configuration and check reports after the calls: on a dynamic record the same blocks, and
the same errors under each name if every added predicate names its field. -/
theorem built_reports_as_extended [Libraries] :
    (∀ settings : List Setting,
      (∃ built, (Builder.initial.setAll settings).build = .ok built) ↔
        ((settings.filterMap Setting.config?).getLast?.getD Config.default).validate = .ok ()) ∧
    (∀ (config : Config) (reachability : Reachability) (added : List (Kind × Predicate))
        (specs : List (String × String)) (settings : List Setting) (calls : List Call),
      config.validate = .ok () →
      Arranges settings config reachability added specs →
      predicates calls = added →
      registrations calls = specs.map Registration.ofSpec →
        ∃ built bare : Validator,
          (Builder.initial.setAll settings).build = .ok built ∧
          (Builder.initial.setAll [.config config, .reachability reachability]).build =
            .ok bare ∧
          built.ReportsAlike (bare.afterAll calls) ∧
          ((∀ entry ∈ added, entry.2.NamesField) → built.catalogue.NamesFields)) := by
  constructor
  · intro settings
    simp only [Builder.build_eq_ok_iff, Builder.setAll_eq]
    constructor
    · rintro ⟨built, accepted, -⟩
      exact accepted
    · intro accepted
      exact ⟨_, accepted, rfl⟩
  · intro config reachability added specs settings calls valid arranged addsPredicates addsRules
    have accepted : (Builder.initial.setAll settings).config.validate = .ok () := by
      rw [Builder.setAll_eq, arranged.config]
      exact valid
    refine ⟨_, _, (Builder.build_eq_ok_iff _ _).2 ⟨accepted, rfl⟩,
      (Builder.build_eq_ok_iff _ _).2 ⟨valid, rfl⟩, ?_, ?_⟩
    · rw [assemble_setAll_eq_afterAll arranged addsPredicates addsRules]
      exact .refl _
    · intro named
      rw [Builder.setAll_eq, arranged.predicates]
      exact (Catalogue.builtIn_namesFields _ _).registerAll named

/-- Rules of one field in two specifications, a kind of its own, and a keyword whose
predicate is replaced. -/
def mixedSettings : List Setting :=
  [.rules "Title" "required|max:2", .predicate (.other "filled") Predicate.required,
    .config Config.testing, .rules "Title" "filled", .reachability Reachability.offline,
    .predicate (.builtIn .max) Predicate.accepted]

def mixedCalls : List Call :=
  [.registerPredicate (.other "filled") Predicate.required,
    .registerPredicate (.builtIn .max) Predicate.accepted,
    .register (.batch "Title" "required|max:2"), .register (.batch "Title" "filled")]

theorem mixed_reports_as_extended :
    Config.testing.validate = .ok () ∧
    Arranges mixedSettings Config.testing Reachability.offline (predicates mixedCalls)
      [("Title", "required|max:2"), ("Title", "filled")] ∧
    registrations mixedCalls =
      [("Title", "required|max:2"), ("Title", "filled")].map Registration.ofSpec ∧
    ∃ built bare : Validator,
      (Builder.initial.setAll mixedSettings).build = .ok built ∧
      (Builder.initial.setAll
        [.config Config.testing, .reachability Reachability.offline]).build = .ok bare ∧
      built.ReportsAlike (bare.afterAll mixedCalls) := by
  have valid : Config.testing.validate = .ok () := by decide
  have arranged : Arranges mixedSettings Config.testing Reachability.offline
      (predicates mixedCalls) [("Title", "required|max:2"), ("Title", "filled")] :=
    ⟨rfl, rfl, rfl, rfl⟩
  obtain ⟨built, bare, builds, starts, alike, -⟩ :=
    built_reports_as_extended.2 _ _ _ _ _ mixedCalls valid arranged rfl rfl
  exact ⟨valid, arranged, rfl, built, bare, builds, starts, alike⟩

end Validator

end Fieldwise
