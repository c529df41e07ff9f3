import Fieldwise.Proofs.Table
import Fieldwise.Proofs.Value.Equals
import Fieldwise.Value.Members

/-!
Contract: records written as objects, and lists written item by item, read back.

Owns: the members of an object under the names that it was built of, the entries that an
object has beside them, and the reading of a list in which each item can be read.

Does **not** own: which members a record has (`Fieldwise.Report.Codec`,
`Fieldwise.Config.Codec`).

An object sorts its entries, so that they do not stand where they were written. Look-up by
name finds them nevertheless, as long as no name was written twice.
-/

set_option autoImplicit false

namespace Fieldwise.Value

section Entries

variable {entries : List (String × Value)} (distinct : (entries.map Prod.fst).Nodup)

include distinct

theorem entry?_ofEntries {name : String} {value : Value} (member : (name, value) ∈ entries) :
    entry? name (ofEntries entries) = some value := by
  have distinctReverse : (entries.reverse.map Prod.fst).Nodup := by
    rw [List.map_reverse]
    exact List.nodup_reverse.2 distinct
  have found : entries.reverse.lookup name = some value :=
    (lookup_eq_some_iff_mem distinctReverse name value).2 (List.mem_reverse.2 member)
  rw [ofEntries, entry?, lookup_foldl_insertEntry, found]
  rfl

/-- The members under the names of the entries are the values of the entries. -/
theorem members?_ofEntries :
    (ofEntries entries).members? (entries.map Prod.fst) =
      some (entries.map fun entry => some entry.2) := by
  show some ((entries.map Prod.fst).map fun name => entry? name (ofEntries entries)) = _
  rw [List.map_map]
  congr 1
  apply List.map_congr_left
  intro entry member
  exact entry?_ofEntries distinct member

end Entries

theorem entry?_ofEntries_singleton (name : String) (value : Value) :
    entry? name (ofEntries [(name, value)]) = some value := by
  apply entry?_ofEntries
  · exact List.nodup_singleton name
  · exact List.mem_cons_self

/-! ## Entries under other names -/

/-- An object is built of entries, and there is nothing in it but them. -/
theorem mem_of_entry?_ofEntries
    {entries : List (String × Value)} {name : String} {value : Value}
    (found : entry? name (ofEntries entries) = some value) :
    name ∈ entries.map Prod.fst := by
  rw [ofEntries, entry?, lookup_foldl_insertEntry, List.lookup_nil, Option.or_none] at found
  obtain ⟨entry, member, same⟩ := List.lookup_isSome_iff.1 (Option.isSome_of_eq_some found)
  exact List.mem_map.2 ⟨entry, List.mem_reverse.1 member, (beq_iff_eq.1 same).symm⟩

/-- An object has entries of some names only exactly if nothing is found under any other. -/
theorem onlyNames_iff (names : List String) (value : Value) :
    value.onlyNames names = true ↔
      ∀ name found, entry? name value = some found → name ∈ names := by
  cases value with
  | object entries =>
      rw [onlyNames, List.all_eq_true]
      constructor
      · intro only name found lookup
        obtain ⟨entry, member, same⟩ :=
          List.lookup_isSome_iff.1 (Option.isSome_of_eq_some lookup)
        rw [beq_iff_eq.1 same]
        exact List.contains_iff_mem.1 (only entry member)
      · intro only entry member
        obtain ⟨found, lookup⟩ := Option.isSome_iff_exists.1
          (List.lookup_isSome_iff.2 ⟨entry, member, beq_self_eq_true entry.1⟩)
        exact List.contains_iff_mem.2 (only entry.1 found lookup)
  | _ => simp [onlyNames, entry?]

/-- A value in which something is found is an object, whose members are what is found under
their names. -/
theorem members?_of_found
    {value found : Value} {name : String}
    (present : entry? name value = some found)
    (names : List String) :
    value.members? names = some (names.map fun other => entry? other value) := by
  cases value with
  | object entries => rfl
  | _ => cases present

/-! ## Lists -/

/-- Where reading undoes writing up to some change, it does so for a whole list. -/
theorem readAll_map
    {Item Result : Type} {read : Value → Option Result} {write : Item → Value}
    {change : Item → Result}
    (reads : ∀ item, read (write item) = some (change item))
    (items : List Item) :
    readAll read (items.map write) = some (items.map change) := by
  induction items with
  | nil => rfl
  | cons item items inductionHypothesis =>
      rw [List.map_cons, readAll, reads, inductionHypothesis]
      rfl

end Fieldwise.Value
