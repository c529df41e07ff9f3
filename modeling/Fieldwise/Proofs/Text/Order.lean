import Mathlib.Data.Finset.Card
import Mathlib.Data.List.Destutter
import Fieldwise.Proofs.Report.ByName
import Fieldwise.Text.Order

/-!
Contract: texts in ascending order, and each of them once.

Owns: that a listing ascends, strictly where no text repeats, and that dropping the texts
equal to the one before them leaves each text of a listing once.

Does **not** own: items sorted by a text that they bear (`Fieldwise.Proofs.Report.ByName`).

Dropping repeats looks at neighbours only. In a listing that is enough, because equal texts
are neighbours there.
-/

set_option autoImplicit false

namespace Fieldwise

theorem eraseReps_loop_eq {Item : Type} [DecidableEq Item] (items kept : List Item) (last : Item) :
    List.eraseRepsBy.loop (· == ·) last items kept =
      kept.reverse ++ items.destutter' (· ≠ ·) last := by
  induction items generalizing last kept with
  | nil => simp [List.eraseRepsBy.loop]
  | cons item items inductionHypothesis =>
      unfold List.eraseRepsBy.loop
      by_cases same : last = item
      · rw [beq_iff_eq.2 same, List.destutter'_cons_neg _ (not_not.2 same)]
        exact inductionHypothesis kept last
      · rw [beq_eq_false_iff_ne.2 same, List.destutter'_cons_pos _ same]
        simpa using inductionHypothesis (last :: kept) item

theorem eraseReps_eq_destutter {Item : Type} [DecidableEq Item] (items : List Item) :
    items.eraseReps = items.destutter (· ≠ ·) := by
  cases items with
  | nil => rfl
  | cons item items => exact eraseReps_loop_eq items [] item

namespace Text

theorem ascending_pairwise (texts : List String) : (ascending texts).Pairwise (· ≤ ·) :=
  sortedBy_ascends id texts

/-- A listing of distinct texts ascends strictly. -/
theorem ascending_strictly {texts : List String} (distinct : texts.Nodup) :
    (ascending texts).Pairwise (· < ·) := by
  have apart : (ascending texts).Pairwise (· ≠ ·) :=
    (ascending_perm texts).nodup_iff.2 distinct
  refine (ascending_pairwise texts).imp₂ ?_ apart
  intro left right before different
  exact String.not_le.1 fun after => different (String.le_antisymm before after)

/-- Each text of a listing is left once, however often it stood there. -/
theorem eraseReps_ascending (texts : List String) :
    (ascending texts).eraseReps = (ascending texts).dedup := by
  rw [eraseReps_eq_destutter]
  exact (ascending_pairwise texts).destutter_eq_dedup

/-- There are as many texts left as there are distinct ones. -/
theorem length_eraseReps_ascending (texts : List String) :
    (ascending texts).eraseReps.length = texts.toFinset.card := by
  rw [eraseReps_ascending, ← List.card_toFinset,
    List.toFinset_eq_of_perm _ _ (ascending_perm texts)]

end Text

end Fieldwise
