import Mathlib.Data.List.Nodup
import Fieldwise.Report.Basic

/-!
Contract: items that bear a name, as errors bear that of their field.

Owns: the items of one name, blocks of items under distinct names, and sorting by name
as the one list in which names ascend and the items of each name are as they were.

Does **not** own: which errors bear which name (`Fieldwise.Proofs.Engine.Dynamic`).

Items of one name may differ, so that the order of names does not make two sorted
rearrangements equal. What makes them equal is that both hold the same items of each
name in the same order.
-/

set_option autoImplicit false

namespace Fieldwise

variable {Item : Type}

/-- The items of one name, in their order. -/
def itemsOf (nameOf : Item → String) (name : String) (items : List Item) : List Item :=
  items.filter fun item => nameOf item = name

variable {nameOf : Item → String}

/-! ## Blocks -/

section Blocks

variable {names : List String} {blockOf : String → List Item}

/-- Of blocks under distinct names, the items of a name are its block. -/
theorem itemsOf_flatMap
    (distinct : names.Nodup)
    (named : ∀ name, ∀ item ∈ blockOf name, nameOf item = name)
    (name : String) :
    itemsOf nameOf name (names.flatMap blockOf) = if name ∈ names then blockOf name else [] := by
  induction names with
  | nil => rfl
  | cons head rest inductionHypothesis =>
      obtain ⟨fresh, distinctRest⟩ := List.nodup_cons.1 distinct
      have parts : itemsOf nameOf name ((head :: rest).flatMap blockOf) =
          itemsOf nameOf name (blockOf head) ++ itemsOf nameOf name (rest.flatMap blockOf) := by
        rw [List.flatMap_cons]
        exact List.filter_append ..
      rw [parts, inductionHypothesis distinctRest]
      by_cases here : name = head
      · subst here
        have whole : itemsOf nameOf name (blockOf name) = blockOf name := by
          rw [itemsOf, List.filter_eq_self]
          intro item member
          exact decide_eq_true (named name item member)
        simp [whole, fresh]
      · have nothing : itemsOf nameOf name (blockOf head) = [] := by
          rw [itemsOf, List.filter_eq_nil_iff]
          intro item member
          rw [named head item member]
          simpa using Ne.symm here
        simp [nothing, here]

/-- The items of a name stand side by side. -/
theorem exists_itemsOf_between
    (distinct : names.Nodup)
    (named : ∀ name, ∀ item ∈ blockOf name, nameOf item = name)
    (name : String) :
    ∃ before after : List Item,
      names.flatMap blockOf =
        before ++ itemsOf nameOf name (names.flatMap blockOf) ++ after ∧
      ∀ item ∈ before ++ after, nameOf item ≠ name := by
  rw [itemsOf_flatMap distinct named]
  have apart {others : List String} (absent : name ∉ others) :
      ∀ item ∈ others.flatMap blockOf, nameOf item ≠ name := by
    intro item member
    obtain ⟨other, listed, held⟩ := List.mem_flatMap.1 member
    rw [named other item held]
    exact ne_of_mem_of_not_mem listed absent
  by_cases present : name ∈ names
  · obtain ⟨before, after, rfl⟩ := List.append_of_mem present
    rw [List.nodup_middle, List.nodup_cons] at distinct
    refine ⟨before.flatMap blockOf, after.flatMap blockOf, ?_, ?_⟩
    · simp
    · rw [← List.flatMap_append]
      exact apart distinct.1
  · refine ⟨names.flatMap blockOf, [], by simp [present], ?_⟩
    rw [List.append_nil]
    exact apart present

end Blocks

/-! ## Sorting -/

/-- The items in ascending order of their names, those of one name in the order in which
they were. -/
def sortedBy (nameOf : Item → String) (items : List Item) : List Item :=
  items.mergeSort fun left right => nameOf left ≤ nameOf right

variable (nameOf)

theorem sortedBy_perm (items : List Item) : (sortedBy nameOf items).Perm items :=
  List.mergeSort_perm items _

theorem nameOf_le_trans (first second third : Item) :
    decide (nameOf first ≤ nameOf second) = true →
      decide (nameOf second ≤ nameOf third) = true →
        decide (nameOf first ≤ nameOf third) = true := by
  simp only [decide_eq_true_eq]
  exact String.le_trans

theorem nameOf_le_total (first second : Item) :
    (decide (nameOf first ≤ nameOf second) || decide (nameOf second ≤ nameOf first)) = true := by
  simpa using String.le_total (nameOf first) (nameOf second)

theorem sortedBy_ascends (items : List Item) :
    (sortedBy nameOf items).Pairwise fun left right => nameOf left ≤ nameOf right := by
  have sorted := List.pairwise_mergeSort (nameOf_le_trans nameOf) (nameOf_le_total nameOf) items
  simpa [sortedBy] using sorted

/-- Sorting by name does not touch the items of one name. -/
theorem itemsOf_sortedBy (name : String) (items : List Item) :
    itemsOf nameOf name (sortedBy nameOf items) = itemsOf nameOf name items := by
  have level : (itemsOf nameOf name items).Pairwise fun left right =>
      decide (nameOf left ≤ nameOf right) = true := by
    rw [List.pairwise_iff_forall_sublist]
    intro left right pair
    have both : ∀ item ∈ [left, right], nameOf item = name := by
      intro item member
      simpa using List.of_mem_filter (pair.subset member)
    rw [both left (by simp), both right (by simp)]
    exact decide_eq_true (String.le_refl name)
  have kept : (itemsOf nameOf name items).Sublist (sortedBy nameOf items) :=
    List.sublist_mergeSort (nameOf_le_trans nameOf) (nameOf_le_total nameOf) level
      List.filter_sublist
  have within : (itemsOf nameOf name items).Sublist
      (itemsOf nameOf name (sortedBy nameOf items)) := by
    have again := kept.filter fun item => decide (nameOf item = name)
    simpa [itemsOf, List.filter_filter] using again
  have many : (itemsOf nameOf name (sortedBy nameOf items)).length =
      (itemsOf nameOf name items).length :=
    ((sortedBy_perm nameOf items).filter _).length_eq
  exact (within.eq_of_length many.symm).symm

variable {nameOf}

/-- The items of each name are all items. -/
theorem mem_iff_of_itemsOf_eq
    {first second : List Item}
    (same : ∀ name, itemsOf nameOf name first = itemsOf nameOf name second)
    (item : Item) :
    item ∈ first ↔ item ∈ second := by
  have here := congrArg (item ∈ ·) (same (nameOf item))
  simpa [itemsOf] using here

/-- Where names ascend, the items of each name say which list it is. -/
theorem eq_of_itemsOf_eq
    {first second : List Item}
    (firstAscends : first.Pairwise fun left right => nameOf left ≤ nameOf right)
    (secondAscends : second.Pairwise fun left right => nameOf left ≤ nameOf right)
    (same : ∀ name, itemsOf nameOf name first = itemsOf nameOf name second) :
    first = second := by
  have shared := mem_iff_of_itemsOf_eq same
  induction first generalizing second with
  | nil =>
      cases second with
      | nil => rfl
      | cons other others => simpa using shared other
  | cons head rest inductionHypothesis =>
      cases second with
      | nil => simpa using shared head
      | cons other others =>
          obtain ⟨headLeast, restAscends⟩ := List.pairwise_cons.1 firstAscends
          obtain ⟨otherLeast, othersAscend⟩ := List.pairwise_cons.1 secondAscends
          -- Both heads bear the least name, and so both begin the list of its items.
          have headBelow : nameOf head ≤ nameOf other := by
            rcases List.mem_cons.1 ((shared other).2 (by simp)) with rfl | later
            · exact String.le_refl _
            · exact headLeast other later
          have otherBelow : nameOf other ≤ nameOf head := by
            rcases List.mem_cons.1 ((shared head).1 (by simp)) with rfl | later
            · exact String.le_refl _
            · exact otherLeast head later
          have named : nameOf head = nameOf other := String.le_antisymm headBelow otherBelow
          have start := same (nameOf other)
          simp only [itemsOf, List.filter_cons, named, decide_true, if_true] at start
          obtain ⟨rfl, -⟩ := List.cons.inj start
          have sameRest : ∀ name, itemsOf nameOf name rest = itemsOf nameOf name others := by
            intro name
            have whole := same name
            simp only [itemsOf, List.filter_cons] at whole ⊢
            split at whole
            · exact (List.cons.inj whole).2
            · exact whole
          rw [inductionHypothesis restAscends othersAscend sameRest
            (mem_iff_of_itemsOf_eq sameRest)]

/-- Two lists with the same items of each name, in the same order, are sorted into one. -/
theorem sortedBy_eq
    {first second : List Item}
    (same : ∀ name, itemsOf nameOf name first = itemsOf nameOf name second) :
    sortedBy nameOf first = sortedBy nameOf second := by
  apply eq_of_itemsOf_eq (sortedBy_ascends nameOf first) (sortedBy_ascends nameOf second)
  intro name
  rw [itemsOf_sortedBy, itemsOf_sortedBy, same]

end Fieldwise
