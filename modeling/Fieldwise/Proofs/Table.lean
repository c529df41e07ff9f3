import Mathlib.Data.List.Nodup
import Fieldwise.Table

/-!
Contract: tables as finite maps.

Owns: the agreement of look-up with the entries, and the table that a list of
insertions leaves.

Does **not** own: what one change does (`Fieldwise.Table`).
-/

set_option autoImplicit false

namespace Fieldwise

/-- Where no key repeats, look-up finds exactly the entries. -/
theorem lookup_eq_some_iff_mem
    {Key Entry : Type} [DecidableEq Key]
    {entries : List (Key × Entry)}
    (distinct : (entries.map Prod.fst).Nodup)
    (key : Key)
    (entry : Entry) :
    entries.lookup key = some entry ↔ (key, entry) ∈ entries := by
  induction entries with
  | nil => simp
  | cons head rest inductionHypothesis =>
      obtain ⟨present, held⟩ := head
      obtain ⟨fresh, distinctRest⟩ := List.nodup_cons.1 distinct
      rw [lookup_cons_ite, List.mem_cons, Prod.mk.injEq]
      by_cases same : key = present
      · subst same
        have absent : (key, entry) ∉ rest := fun member =>
          fresh (List.mem_map.2 ⟨(key, entry), member, rfl⟩)
        simp [absent, eq_comm]
      · simp [same, inductionHypothesis distinctRest]

namespace Table

variable {Key Entry : Type} [DecidableEq Key]

theorem get?_eq_some_iff (table : Table Key Entry) (key : Key) (entry : Entry) :
    table.get? key = some entry ↔ (key, entry) ∈ table.entries :=
  lookup_eq_some_iff_mem table.nodup key entry

theorem mem_keys_iff (table : Table Key Entry) (key : Key) :
    key ∈ table.keys ↔ (table.get? key).isSome = true := by
  have absent := table.get?_eq_none_iff key
  cases held : table.get? key with
  | none => simpa using absent.1 held
  | some entry =>
      have present : key ∈ table.keys := by
        by_contra missing
        simpa [held] using absent.2 missing
      simpa using present

/-- The insertion of entries, one after the other. -/
def insertAll (table : Table Key Entry) (entries : List (Key × Entry)) : Table Key Entry :=
  entries.foldl (fun table entry => table.insert entry.1 entry.2) table

theorem insertAll_append (table : Table Key Entry) (before after : List (Key × Entry)) :
    table.insertAll (before ++ after) = (table.insertAll before).insertAll after :=
  List.foldl_append

theorem insertAll_cons
    (table : Table Key Entry)
    (head : Key × Entry)
    (rest : List (Key × Entry)) :
    table.insertAll (head :: rest) = (table.insert head.1 head.2).insertAll rest :=
  rfl

/-- After a list of insertions a key has the last entry that was inserted under it,
and the one it had before if there is none. -/
theorem get?_insertAll
    (entries : List (Key × Entry))
    (table : Table Key Entry)
    (key : Key) :
    (table.insertAll entries).get? key =
      (entries.reverse.lookup key).or (table.get? key) := by
  induction entries generalizing table with
  | nil => rfl
  | cons head rest inductionHypothesis =>
      obtain ⟨inserted, entry⟩ := head
      rw [insertAll_cons, inductionHypothesis, List.reverse_cons, List.lookup_append,
        Option.or_assoc]
      congr 1
      rw [insert, get?_alter, lookup_cons_ite]
      split <;> rfl

/-- Where no key repeats, the order of insertion does not matter. -/
theorem get?_insertAll_eq_some
    {entries : List (Key × Entry)}
    (distinct : (entries.map Prod.fst).Nodup)
    (table : Table Key Entry)
    {key : Key} {entry : Entry}
    (member : (key, entry) ∈ entries) :
    (table.insertAll entries).get? key = some entry := by
  have distinctReverse : (entries.reverse.map Prod.fst).Nodup := by
    rw [List.map_reverse]
    exact List.nodup_reverse.2 distinct
  have found : entries.reverse.lookup key = some entry :=
    (lookup_eq_some_iff_mem distinctReverse key entry).2 (List.mem_reverse.2 member)
  rw [get?_insertAll, found]
  rfl

/-- A key under which nothing was inserted has what it had. -/
theorem get?_insertAll_of_absent
    {entries : List (Key × Entry)}
    (table : Table Key Entry)
    {key : Key}
    (absent : ∀ entry ∈ entries, entry.1 ≠ key) :
    (table.insertAll entries).get? key = table.get? key := by
  have missing : entries.reverse.lookup key = none := by
    rw [List.lookup_eq_none_iff]
    intro entry member
    simpa using Ne.symm (absent entry (List.mem_reverse.1 member))
  rw [get?_insertAll, missing]
  rfl

/-- Under a key either nothing was inserted, or one insertion was the last. -/
theorem absent_or_exists_last (entries : List (Key × Entry)) (key : Key) :
    (∀ entry ∈ entries, entry.1 ≠ key) ∨
      ∃ before entry after, entries = before ++ (key, entry) :: after ∧
        ∀ later ∈ after, later.1 ≠ key := by
  induction entries with
  | nil => simp
  | cons head rest inductionHypothesis =>
      rcases inductionHypothesis with absent | ⟨before, entry, after, cut, last⟩
      · by_cases here : head.1 = key
        · obtain ⟨_, entry⟩ := head
          subst here
          exact .inr ⟨[], entry, rest, rfl, absent⟩
        · exact .inl (List.forall_mem_cons.2 ⟨here, absent⟩)
      · exact .inr ⟨head :: before, entry, after, congrArg (head :: ·) cut, last⟩

theorem get?_insertAll_of_last
    (before : List (Key × Entry))
    {after : List (Key × Entry)}
    (table : Table Key Entry)
    {key : Key}
    (entry : Entry)
    (last : ∀ later ∈ after, later.1 ≠ key) :
    (table.insertAll (before ++ (key, entry) :: after)).get? key = some entry := by
  rw [insertAll_append, insertAll_cons, get?_insertAll_of_absent _ last, insert,
    get?_alter, if_pos rfl]

/-- An insertion is not seen under any other key. -/
theorem get?_insertAll_drop
    (before after : List (Key × Entry))
    (table : Table Key Entry)
    {key other : Key}
    (entry : Entry)
    (apart : other ≠ key) :
    (table.insertAll (before ++ (key, entry) :: after)).get? other =
      (table.insertAll (before ++ after)).get? other := by
  rw [insertAll_append, insertAll_cons, insertAll_append, get?_insertAll after,
    get?_insertAll after, insert, get?_alter, if_neg apart]

theorem mem_keys_insertAll
    (entries : List (Key × Entry))
    (table : Table Key Entry)
    (key : Key) :
    key ∈ (table.insertAll entries).keys ↔
      key ∈ table.keys ∨ key ∈ entries.map Prod.fst := by
  induction entries generalizing table with
  | nil => simp [insertAll]
  | cons head rest inductionHypothesis =>
      have inserted : key ∈ (table.insert head.1 head.2).keys ↔
          key ∈ table.keys ∨ key = head.1 := by
        rw [insert, keys_alter]
        split
        · rename_i present
          exact ⟨.inl, fun either => either.elim id fun same => same ▸ present⟩
        · simp
      rw [insertAll_cons, inductionHypothesis, inserted, List.map_cons, List.mem_cons, or_assoc]

/-- The table of entries without a repeated key looks them up. -/
theorem get?_ofList
    {entries : List (Key × Entry)}
    (distinct : (entries.map Prod.fst).Nodup)
    (key : Key) :
    (ofList entries).get? key = entries.lookup key := by
  show (insertAll empty entries).get? key = entries.lookup key
  cases found : entries.lookup key with
  | some entry =>
      have member := (lookup_eq_some_iff_mem distinct key entry).1 found
      exact get?_insertAll_eq_some distinct empty member
  | none =>
      refine (get?_insertAll_of_absent empty ?_).trans (get?_empty key)
      intro entry member same
      have absent := List.lookup_eq_none_iff.1 found entry member
      simp [same] at absent

end Table

end Fieldwise
