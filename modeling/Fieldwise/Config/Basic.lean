import Fieldwise.Duration
import Fieldwise.Text.Blank
import Fieldwise.Text.Quoted

/-!
Contract: the settings of a validator.

Owns: the settings with their defaults, the test that a validator may run on
them, their reading from an environment, and the errors of both.

Does **not** own: settings as values (`Fieldwise.Config.Codec`), nor which
variables an environment is read from.
-/

set_option autoImplicit false

namespace Fieldwise

/-- The settings of a validator: how long an address may take to answer, and
which field of a record confirms others. -/
structure Config where
  activeUrlTimeout : Duration
  confirmationField : String
deriving DecidableEq

inductive ConfigError where
  /-- The text given as timeout is no number of milliseconds. -/
  | unreadableTimeout (text : String)
  | zeroTimeout
  | blankConfirmationField
deriving DecidableEq

namespace ConfigError

def message : ConfigError → String
  | .unreadableTimeout text =>
      "Invalid value for active_url_timeout: '" ++ text
        ++ "', expected valid number of milliseconds"
  | .zeroTimeout =>
      "Configuration validation failed: active_url timeout must be greater than 0"
  | .blankConfirmationField =>
      "Configuration validation failed: Confirmation field name must be non-empty"

end ConfigError

/-- What an environment says about the settings. -/
structure Environment where
  timeoutMillis : Option String
  confirmationField : Option String

namespace Config

/-- Five seconds, and the field `Confirmation_password`. -/
def default : Config :=
  { activeUrlTimeout := Duration.ofMillis 5000
    confirmationField := "Confirmation_password" }

instance : Inhabited Config := ⟨default⟩

/-- The settings for tests: a fifth of a second. -/
def testing : Config :=
  { default with activeUrlTimeout := Duration.ofMillis 200 }

/-- May a validator run on the settings? The timeout must not be zero and the
field name not blank; the timeout is looked at first. -/
def validate (config : Config) : Except ConfigError Unit :=
  if config.activeUrlTimeout.isZero then .error .zeroTimeout
  else if Text.allBlank config.confirmationField.toList then .error .blankConfirmationField
  else .ok ()

/-- The timeout of an environment; the default where it is unset. -/
def readTimeout : Option String → Except ConfigError Duration
  | none => .ok default.activeUrlTimeout
  | some text =>
      match Text.uint64? text.toList with
      | some millis => .ok (Duration.ofMillis millis)
      | none => .error (.unreadableTimeout text)

/-- The settings of an environment, with defaults for what is unset, if a
validator may run on them. -/
def ofEnvironment (environment : Environment) : Except ConfigError Config := do
  let activeUrlTimeout ← readTimeout environment.timeoutMillis
  let config : Config :=
    { activeUrlTimeout
      confirmationField := environment.confirmationField.getD default.confirmationField }
  config.validate
  return config

def describe (config : Config) : String :=
  Text.recordText "ValidatorConfig"
    [("active_url_timeout", config.activeUrlTimeout.describe),
      ("confirmation_field", Text.quoted config.confirmationField)]

end Config

end Fieldwise
