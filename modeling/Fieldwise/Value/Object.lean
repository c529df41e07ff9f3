import Fieldwise.Table
import Fieldwise.Value.Basic

/-!
Contract: the one form of an object, and of values.

Owns: the law that entries stand in strictly ascending order of their keys, what
putting an entry does to it and to look-up, and the values that keep this law and
the bounds on numbers throughout.

Does **not** own: which values of the program are of this sort
(`Fieldwise.Proofs.Value.WellFormed`).
-/

set_option autoImplicit false

namespace Fieldwise.Value

/-- The keys are strictly ascending, so that no key stands twice. -/
def IsAscending (entries : List (String × Value)) : Prop :=
  entries.Pairwise fun earlier later => earlier.1 < later.1

/-- Of two keys, neither equal nor in order, the other order holds. -/
theorem lt_of_ne_of_not_lt
    {key other : String}
    (apart : key ≠ other)
    (notBefore : ¬key < other) :
    other < key :=
  String.not_le.1 fun before =>
    apart (String.le_antisymm before (String.not_lt.1 notBefore))

/-- Putting an entry brings in no other. -/
theorem eq_or_mem_of_mem_insertEntry
    {key : String} {value : Value} {entries : List (String × Value)}
    {entry : String × Value}
    (member : entry ∈ insertEntry key value entries) :
    entry = (key, value) ∨ entry ∈ entries := by
  induction entries with
  | nil =>
      rw [insertEntry, List.mem_singleton] at member
      exact .inl member
  | cons head rest inductionHypothesis =>
      obtain ⟨other, held⟩ := head
      unfold insertEntry at member
      split at member
      · rcases List.mem_cons.1 member with here | later
        · exact .inl here
        · exact .inr (List.mem_cons_of_mem _ later)
      · split at member
        · exact List.mem_cons.1 member
        · rcases List.mem_cons.1 member with here | later
          · exact .inr (by rw [here]; exact List.mem_cons_self)
          · exact (inductionHypothesis later).imp id (List.mem_cons_of_mem _)

theorem isAscending_insertEntry
    {key : String} {value : Value} {entries : List (String × Value)}
    (ascending : IsAscending entries) :
    IsAscending (insertEntry key value entries) := by
  induction entries with
  | nil => exact List.pairwise_singleton _ _
  | cons head rest inductionHypothesis =>
      obtain ⟨other, held⟩ := head
      have headBefore := (List.pairwise_cons.1 ascending).1
      have restAscending := (List.pairwise_cons.1 ascending).2
      unfold insertEntry
      split
      · rename_i equal
        exact List.pairwise_cons.2 ⟨fun entry member => equal ▸ headBefore entry member,
          restAscending⟩
      · rename_i apart
        split
        · rename_i before
          refine List.pairwise_cons.2 ⟨fun entry member => ?_, ascending⟩
          rcases List.mem_cons.1 member with here | later
          · rw [here]
            exact before
          · exact String.lt_trans before (headBefore entry later)
        · rename_i notBefore
          refine List.pairwise_cons.2 ⟨fun entry member => ?_,
            inductionHypothesis restAscending⟩
          rcases eq_or_mem_of_mem_insertEntry member with own | old
          · rw [own]
            exact lt_of_ne_of_not_lt apart notBefore
          · exact headBefore entry old

/-- An entry that was put is found under its own key, and changes no other
look-up. -/
theorem lookup_insertEntry
    (key other : String)
    (value : Value)
    (entries : List (String × Value)) :
    (insertEntry key value entries).lookup other =
      if other = key then some value else entries.lookup other := by
  induction entries with
  | nil => exact lookup_cons_ite key other value []
  | cons head rest inductionHypothesis =>
      obtain ⟨present, held⟩ := head
      unfold insertEntry
      split
      · rename_i here
        rw [lookup_cons_ite, lookup_cons_ite, ← here]
        split <;> rfl
      · rename_i apart
        split
        · exact lookup_cons_ite key other value _
        · rw [lookup_cons_ite, lookup_cons_ite, inductionHypothesis]
          by_cases found : other = present
          · rw [if_pos found, if_pos found, if_neg]
            exact fun same => apart (same.symm.trans found)
          · rw [if_neg found, if_neg found]

theorem isAscending_foldl_insertEntry
    (entries sorted : List (String × Value))
    (ascending : IsAscending sorted) :
    IsAscending
      (entries.foldl (fun sorted entry => insertEntry entry.1 entry.2 sorted) sorted) := by
  induction entries generalizing sorted with
  | nil => exact ascending
  | cons entry entries inductionHypothesis =>
      exact inductionHypothesis _ (isAscending_insertEntry ascending)

theorem mem_of_mem_foldl_insertEntry
    {entries sorted : List (String × Value)} {entry : String × Value}
    (member :
      entry ∈ entries.foldl (fun sorted entry => insertEntry entry.1 entry.2 sorted) sorted) :
    entry ∈ entries ∨ entry ∈ sorted := by
  induction entries generalizing sorted with
  | nil => exact .inr member
  | cons head entries inductionHypothesis =>
      rcases inductionHypothesis member with later | before
      · exact .inl (List.mem_cons_of_mem _ later)
      · rcases eq_or_mem_of_mem_insertEntry before with here | old
        · exact .inl (by rw [here]; exact List.mem_cons_self)
        · exact .inr old

/-! ## Well-formed values -/

/-- The values that data can be: integers of 64 bits, signed or unsigned, other
numbers finite, and every object in its one form. -/
inductive WellFormed : Value → Prop where
  | null : WellFormed .null
  | boolean (truth : Bool) : WellFormed (.boolean truth)
  | integer {number : Int}
      (least : -9223372036854775808 ≤ number)
      (greatest : number ≤ 18446744073709551615) :
      WellFormed (.integer number)
  | float {number : Decimal.Binary64} (finite : number.isFinite = true) :
      WellFormed (.float number)
  | text (content : String) : WellFormed (.text content)
  | list {items : List Value} (held : ∀ item ∈ items, WellFormed item) :
      WellFormed (.list items)
  | object {entries : List (String × Value)}
      (ascending : IsAscending entries)
      (held : ∀ entry ∈ entries, WellFormed entry.2) :
      WellFormed (.object entries)

/-- Whatever the entries are and how they are ordered, their object is well-formed if
their values are. -/
theorem wellFormed_ofEntries
    {entries : List (String × Value)}
    (held : ∀ entry ∈ entries, entry.2.WellFormed) :
    (ofEntries entries).WellFormed := by
  apply WellFormed.object
  · exact isAscending_foldl_insertEntry entries [] List.Pairwise.nil
  · intro entry member
    exact held entry ((mem_of_mem_foldl_insertEntry member).resolve_right List.not_mem_nil)

end Fieldwise.Value
