import Fieldwise.Value.Basic

/-!
Contract: the members of values that stand for records.

Owns: members by name or by position, and the reading of every item of a list.

Does **not** own: the meaning of any member.
-/

set_option autoImplicit false

namespace Fieldwise.Value

/-- The members of these names: those of an object, or the items of a list of
exactly as many items. -/
def members? (names : List String) : Value → Option (List (Option Value))
  | .object entries => some (names.map fun name => entries.lookup name)
  | .list items => if items.length = names.length then some (items.map some) else none
  | _ => none

/-- Does an object have no entries but those of these names? Other values have
no entries at all. -/
def onlyNames (names : List String) : Value → Bool
  | .object entries => entries.all fun entry => names.contains entry.1
  | _ => true

/-- The results of reading each item, if every item can be read. -/
def readAll {Result : Type} (read : Value → Option Result) :
    List Value → Option (List Result)
  | [] => some []
  | item :: items => do
      let first ← read item
      let rest ← readAll read items
      return first :: rest

end Fieldwise.Value
