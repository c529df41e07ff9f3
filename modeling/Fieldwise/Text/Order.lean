/-!
Contract: the order in which listings show names.

Owns: texts in ascending order of their code points.

Does **not** own: the order of errors and of registered rules, which is the
order of insertion.
-/

set_option autoImplicit false

namespace Fieldwise.Text

/-- Texts in ascending order by code points; equal texts are all kept. -/
def ascending (texts : List String) : List String :=
  texts.mergeSort fun left right => left ≤ right

theorem ascending_perm (texts : List String) : (ascending texts).Perm texts :=
  List.mergeSort_perm texts _

end Fieldwise.Text
