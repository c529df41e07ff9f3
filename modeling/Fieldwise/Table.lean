/-!
Contract: finite maps that remember the order in which keys first came.

Owns: the table type with its distinct keys, the one operation `alter` that
changes a table, lookup, and the two laws that say what `alter` does to lookup
and to the keys.

Does **not** own: any order other than that of first insertion. Listings that
need another order sort the keys.
-/

set_option autoImplicit false

namespace Fieldwise

/-- Change the entry under a key, or add one at the end. The change sees the
entry that was there, if any. -/
def alterEntries
    {Key Entry : Type} [DecidableEq Key]
    (key : Key)
    (change : Option Entry → Entry) :
    List (Key × Entry) → List (Key × Entry)
  | [] => [(key, change none)]
  | (other, entry) :: rest =>
      if other = key then (other, change (some entry)) :: rest
      else (other, entry) :: alterEntries key change rest

/-- A change keeps the keys and their order, and adds a new key at the end. -/
theorem map_fst_alterEntries
    {Key Entry : Type} [DecidableEq Key]
    (key : Key)
    (change : Option Entry → Entry)
    (entries : List (Key × Entry)) :
    (alterEntries key change entries).map Prod.fst =
      if key ∈ entries.map Prod.fst then entries.map Prod.fst
      else entries.map Prod.fst ++ [key] := by
  induction entries with
  | nil => simp [alterEntries]
  | cons head rest inductionHypothesis =>
      obtain ⟨other, entry⟩ := head
      by_cases same : other = key
      · simp [alterEntries, same]
      · by_cases present : key ∈ rest.map Prod.fst
        · simp only [alterEntries, if_neg same, List.map_cons, inductionHypothesis,
            List.mem_cons, present, or_true, if_true]
        · simp only [alterEntries, if_neg same, List.map_cons, inductionHypothesis,
            List.mem_cons, present, or_false, Ne.symm same, if_false,
            List.cons_append]

theorem lookup_cons_ite
    {Key Entry : Type} [DecidableEq Key]
    (key other : Key)
    (entry : Entry)
    (rest : List (Key × Entry)) :
    List.lookup other ((key, entry) :: rest) =
      if other = key then some entry else List.lookup other rest := by
  by_cases same : other = key
  · rw [if_pos same, same, List.lookup_cons_self]
  · rw [if_neg same, List.lookup_cons, beq_eq_false_iff_ne.2 same]

/-- Looking past an entry under another key. -/
theorem lookup_cons_of_ne
    {Key Entry : Type} [DecidableEq Key]
    {key other : Key} {entry : Entry} {rest : List (Key × Entry)}
    (apart : other ≠ key) :
    List.lookup other ((key, entry) :: rest) = List.lookup other rest := by
  rw [lookup_cons_ite, if_neg apart]

/-- A finite map with distinct keys, in the order of their first insertion. -/
structure Table (Key Entry : Type) where
  entries : List (Key × Entry)
  nodup : (entries.map Prod.fst).Nodup

namespace Table

variable {Key Entry : Type} [DecidableEq Key]

def empty : Table Key Entry :=
  { entries := [], nodup := List.nodup_nil }

instance : Inhabited (Table Key Entry) := ⟨empty⟩

/-- The keys, in the order of their first insertion. -/
def keys (table : Table Key Entry) : List Key :=
  table.entries.map Prod.fst

def get? (table : Table Key Entry) (key : Key) : Option Entry :=
  table.entries.lookup key

def contains (table : Table Key Entry) (key : Key) : Bool :=
  (table.get? key).isSome

def size (table : Table Key Entry) : Nat :=
  table.entries.length

/-- Change the entry under a key, or add one. The change sees the entry that was
there, if any. -/
def alter
    (table : Table Key Entry)
    (key : Key)
    (change : Option Entry → Entry) :
    Table Key Entry :=
  { entries := alterEntries key change table.entries
    nodup := by
      rw [map_fst_alterEntries]
      split
      · exact table.nodup
      · rename_i absent
        refine List.nodup_append.2 ⟨table.nodup, by simp, ?_⟩
        intro left leftMember right rightMember
        rw [List.mem_singleton.1 rightMember]
        exact fun same => absent (same ▸ leftMember) }

/-- Put an entry under a key, in place of the one that was there. -/
def insert (table : Table Key Entry) (key : Key) (entry : Entry) : Table Key Entry :=
  table.alter key fun _ => entry

/-- The table of some entries. Of two entries with one key the later counts. -/
def ofList (entries : List (Key × Entry)) : Table Key Entry :=
  entries.foldl (fun table entry => table.insert entry.1 entry.2) empty

/-! ## What a change does -/

@[simp]
theorem get?_empty (key : Key) : (empty : Table Key Entry).get? key = none := rfl

theorem keys_alter
    (table : Table Key Entry)
    (key : Key)
    (change : Option Entry → Entry) :
    (table.alter key change).keys =
      if key ∈ table.keys then table.keys else table.keys ++ [key] :=
  map_fst_alterEntries key change table.entries

/-- A change is seen under its own key and under no other. -/
theorem get?_alter
    (table : Table Key Entry)
    (key other : Key)
    (change : Option Entry → Entry) :
    (table.alter key change).get? other =
      if other = key then some (change (table.get? key)) else table.get? other := by
  obtain ⟨entries, nodup⟩ := table
  simp only [get?, alter]
  clear nodup
  induction entries with
  | nil =>
      by_cases same : other = key
      · simp [alterEntries, same]
      · simp [alterEntries, same, lookup_cons_of_ne same]
  | cons head rest inductionHypothesis =>
      obtain ⟨present, entry⟩ := head
      by_cases here : present = key
      · subst here
        by_cases same : other = present
        · simp [alterEntries, same]
        · simp [alterEntries, same, lookup_cons_of_ne same]
      · rw [alterEntries, if_neg here, lookup_cons_of_ne (Ne.symm here)]
        by_cases found : other = present
        · subst found
          simp [here]
        · rw [lookup_cons_of_ne found, lookup_cons_of_ne found]
          exact inductionHypothesis

/-- A key without entry is exactly one that is not among the keys. -/
theorem get?_eq_none_iff (table : Table Key Entry) (key : Key) :
    table.get? key = none ↔ key ∉ table.keys := by
  obtain ⟨entries, nodup⟩ := table
  simp only [get?, keys]
  clear nodup
  induction entries with
  | nil => simp
  | cons head rest inductionHypothesis =>
      obtain ⟨present, entry⟩ := head
      by_cases found : key = present
      · simp [found]
      · rw [lookup_cons_of_ne found, inductionHypothesis]
        simp [found]

end Table

end Fieldwise
