import Fieldwise.Value.Basic

/-!
Contract: values that are given, and values that agree.

Owns: which values count as empty, and which as an acceptance.

Does **not** own: the treatment of null by other rules, which is to skip it.
-/

set_option autoImplicit false

namespace Fieldwise.Check

/-- Null, the empty text, the empty list and the empty object. -/
def isEmpty : Value → Bool
  | .null => true
  | .text content => content = ""
  | .list items => items.isEmpty
  | .object entries => entries.isEmpty
  | _ => false

/-- The texts `yes` and `on`, the integer one, and true. -/
def isAccepted : Value → Bool
  | .text content => content = "yes" || content = "on"
  | .boolean truth => truth
  | value => value.int64? = some 1

end Fieldwise.Check
