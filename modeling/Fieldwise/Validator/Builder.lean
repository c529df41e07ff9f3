import Fieldwise.Validator.Basic

/-!
Contract: the making of validators.

Owns: what a validator is made from, in any order, and the refusal of settings
that it may not run on.

Does **not** own: what a validator does (`Fieldwise.Validator.Basic`).
-/

set_option autoImplicit false

namespace Fieldwise

namespace Validator

structure Builder where
  config : Config
  /-- The check behind `active_url`. -/
  reachability : Reachability
  /-- Predicates beyond the built-in ones, or in place of them. -/
  predicates : List (Kind × Predicate)
  rules : RuleBook

/-- One thing that a validator is made from. -/
inductive Setting where
  | config (config : Config)
  | reachability (reachability : Reachability)
  | predicate (kind : Kind) (predicate : Predicate)
  | rules (field : String) (spec : String)

namespace Builder

/-- The default settings, no check that reaches anything, and nothing more than
the built-in predicates. The check stands in for one that makes a request over the
network. -/
def initial : Builder :=
  { config := Config.default
    reachability := Reachability.offline
    predicates := []
    rules := Table.empty }

/-- Settings and the check are replaced; predicates and rules are added. -/
def set (builder : Builder) : Setting → Builder
  | .config config => { builder with config }
  | .reachability reachability => { builder with reachability }
  | .predicate kind predicate =>
      { builder with predicates := builder.predicates ++ [(kind, predicate)] }
  | .rules field spec =>
      { builder with rules := builder.rules.register (.batch field spec) }

def setAll (builder : Builder) (settings : List Setting) : Builder :=
  settings.foldl set builder

/-- The validator, whatever its settings are. -/
def assemble [Libraries] (builder : Builder) : Validator :=
  { config := builder.config
    catalogue :=
      (Catalogue.builtIn builder.reachability builder.config.activeUrlTimeout).registerAll
        builder.predicates
    rules := builder.rules }

/-- The validator, unless its settings are refused. -/
def build [Libraries] (builder : Builder) : Except ConfigError Validator :=
  builder.config.validate.map fun _ => builder.assemble

end Builder

def default [Libraries] : Validator := Builder.initial.assemble

instance [Libraries] : Inhabited Validator := ⟨default⟩

def ofConfig [Libraries] (config : Config) : Except ConfigError Validator :=
  (Builder.initial.set (.config config)).build

end Validator

end Fieldwise
