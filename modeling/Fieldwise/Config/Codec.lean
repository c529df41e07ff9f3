import Fieldwise.Config.Basic
import Fieldwise.Value.Members

/-!
Contract: settings as values, and back.

Owns: the value of a duration and of settings, and their reading.

Does **not** own: the test that a validator may run on them; settings that it
refuses have a value too.
-/

set_option autoImplicit false

namespace Fieldwise

namespace Duration

def toValue (duration : Duration) : Value :=
  Value.ofEntries
    [("secs", .integer duration.seconds.toNat), ("nanos", .integer duration.nanos.val)]

/-- The duration that a value is. Both parts must be unsigned integers, seconds
of 64 bits and nanoseconds of 32 bits, and there must be no third part. -/
def ofValue? (value : Value) : Option Duration :=
  if value.onlyNames ["secs", "nanos"] then
    match value.members? ["secs", "nanos"] with
    | some [some (.integer (.ofNat seconds)), some (.integer (.ofNat nanos))] =>
        if seconds < UInt64.size ∧ nanos < UInt32.size then ofParts? seconds nanos else none
    | _ => none
  else none

end Duration

namespace Config

def toValue (config : Config) : Value :=
  Value.ofEntries
    [("active_url_timeout", config.activeUrlTimeout.toValue),
      ("confirmation_field", .text config.confirmationField)]

/-- The settings that a value is. Entries of other names are passed over. -/
def ofValue? (value : Value) : Option Config :=
  match value.members? ["active_url_timeout", "confirmation_field"] with
  | some [some timeout, some (.text confirmationField)] =>
      (Duration.ofValue? timeout).map fun activeUrlTimeout =>
        ⟨activeUrlTimeout, confirmationField⟩
  | _ => none

end Config

end Fieldwise
