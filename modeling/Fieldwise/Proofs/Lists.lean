import Mathlib.Data.List.DropRight

/-!
Contract: lists of images, and lists with items dropped.

Owns: the list that lies behind items which are all images, what is picked from a list
when items that nothing is picked from are dropped, and where dropping from an end stops.

Does **not** own: lists of keys and entries (`Fieldwise.Proofs.Table`).
-/

set_option autoImplicit false

namespace Fieldwise

/-- Where each item is an image, the items are the images of a list. -/
theorem exists_map_of_forall_mem
    {Part Item : Type} {image : Part → Item} {holds : Part → Prop} {items : List Item}
    (each : ∀ item ∈ items, ∃ part, holds part ∧ item = image part) :
    ∃ parts : List Part, (∀ part ∈ parts, holds part) ∧ items = parts.map image := by
  induction items with
  | nil => exact ⟨[], by simp, rfl⟩
  | cons item rest inductionHypothesis =>
      obtain ⟨part, held, rfl⟩ := each item (by simp)
      obtain ⟨parts, allHold, rfl⟩ :=
        inductionHypothesis fun other member => each other (List.mem_cons_of_mem _ member)
      exact ⟨part :: parts, by simpa using ⟨held, allHold⟩, rfl⟩

theorem filterMap_filter_of_dropped
    {Item Picked : Type} {pick : Item → Option Picked} {keeps : Item → Bool}
    (dropped : ∀ item, keeps item = false → pick item = none)
    (items : List Item) :
    (items.filter keeps).filterMap pick = items.filterMap pick := by
  rw [List.filterMap_filter]
  apply List.filterMap_congr
  intro item _
  cases kept : keeps item with
  | true => rfl
  | false => exact (dropped item kept).symm

/-- Nothing is dropped in front of an item that stays. -/
theorem dropWhile_eq_self_of_head?
    {Item : Type} {test : Item → Bool} {items : List Item}
    (stays : ∀ item ∈ items.head?, test item = false) :
    items.dropWhile test = items := by
  cases items with
  | nil => rfl
  | cons first rest => exact List.dropWhile_cons_of_neg (by simp [stays first rfl])

/-- Dropping from the end stops at an item that stays. -/
theorem rdropWhile_append_cons
    {Item : Type} {test : Item → Bool} {kept : Item}
    (stays : test kept = false)
    (front back : List Item) :
    (front ++ kept :: back).rdropWhile test = front ++ kept :: back.rdropWhile test := by
  induction back using List.reverseRecOn with
  | nil => rw [List.rdropWhile_concat_neg _ _ _ (by simp [stays]), List.rdropWhile_nil]
  | append_singleton more last inductionHypothesis =>
      rw [← List.cons_append, ← List.append_assoc]
      by_cases passes : test last = true
      · rw [List.rdropWhile_concat_pos _ _ _ passes, List.rdropWhile_concat_pos _ _ _ passes,
          inductionHypothesis]
      · rw [List.rdropWhile_concat_neg _ _ _ passes, List.rdropWhile_concat_neg _ _ _ passes,
          List.append_assoc, List.cons_append]

end Fieldwise
