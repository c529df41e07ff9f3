import Fieldwise.Predicate.BuiltIn
import Fieldwise.Table
import Fieldwise.Text.Order
import Fieldwise.Text.Quoted

/-!
Contract: which predicate is behind which kind of rule.

Owns: the catalogue of predicates by kind, the catalogue of the built-in ones,
registration, and the summary.

Does **not** own: the predicates (`Fieldwise.Predicate.BuiltIn`).
-/

set_option autoImplicit false

namespace Fieldwise

/-- The predicate behind each kind of rule. -/
abbrev Catalogue := Table Kind Predicate

namespace Catalogue

/-- Put a predicate behind a kind, in place of the one that was there. -/
def register (catalogue : Catalogue) (kind : Kind) (predicate : Predicate) : Catalogue :=
  catalogue.insert kind predicate

def registerAll (catalogue : Catalogue) (predicates : List (Kind × Predicate)) : Catalogue :=
  predicates.foldl (fun catalogue entry => catalogue.register entry.1 entry.2) catalogue

def builtIn [Libraries] (reachability : Reachability) (timeout : Duration) : Catalogue :=
  registerAll Table.empty <| Keyword.all.map fun keyword =>
    (.builtIn keyword, Predicate.ofKeyword reachability timeout keyword)

/-- The summary of a catalogue: the names of its kinds in ascending order. Kinds of
one name are all shown. -/
def describe (catalogue : Catalogue) : String :=
  Text.recordText "PredicateRegistry"
    [("kinds", Text.quotedList (Text.ascending (catalogue.keys.map Kind.name)))]

/-- A registration is seen under its own kind and under no other. -/
theorem get?_register
    (catalogue : Catalogue)
    (kind other : Kind)
    (predicate : Predicate) :
    (catalogue.register kind predicate).get? other =
      if other = kind then some predicate else catalogue.get? other :=
  Table.get?_alter catalogue kind other _

/-- Registrations bring in no predicate but their own. -/
theorem forall_get?_registerAll
    {property : Predicate → Prop}
    {catalogue : Catalogue} {predicates : List (Kind × Predicate)}
    (held : ∀ kind predicate, catalogue.get? kind = some predicate → property predicate)
    (added : ∀ entry ∈ predicates, property entry.2) :
    ∀ kind predicate,
      (catalogue.registerAll predicates).get? kind = some predicate → property predicate := by
  unfold registerAll
  induction predicates generalizing catalogue with
  | nil => exact held
  | cons entry rest inductionHypothesis =>
      rw [List.foldl_cons]
      apply inductionHypothesis
      · intro kind predicate found
        rw [get?_register] at found
        split at found
        · cases found
          exact added entry List.mem_cons_self
        · exact held kind predicate found
      · intro later member
        exact added later (List.mem_cons_of_mem _ member)

theorem forall_get?_builtIn
    [Libraries]
    {property : Predicate → Prop} {reachability : Reachability} {timeout : Duration}
    (each : ∀ keyword, property (Predicate.ofKeyword reachability timeout keyword)) :
    ∀ kind predicate,
      (builtIn reachability timeout).get? kind = some predicate → property predicate := by
  apply forall_get?_registerAll
  · intro kind predicate found
    cases found
  · intro entry member
    obtain ⟨keyword, -, rfl⟩ := List.mem_map.1 member
    exact each keyword

end Catalogue

end Fieldwise
