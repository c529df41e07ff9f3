import Mathlib.Data.List.Forall2
import Mathlib.Data.Option.Basic
import Fieldwise.Value.Object

/-!
Contract: equality of values as a relation.

Owns: the relation with one case for each sort of value, the agreement of the test with
it, and the equality of objects by look-up.

Does **not** own: that the test is an equivalence (`Fieldwise.Proofs.Value.Equality`).

Two objects are compared entry by entry. That the order in which they were written does
not count rests on the one order of their keys: where keys ascend, two lists of entries
with the same look-ups have the same keys in the same places.
-/

set_option autoImplicit false

namespace Fieldwise.Value

/-- Equality of values, one case for each sort: no two sorts have equal values, so that an
integer equals integers only and a floating-point number floating-point numbers only. -/
inductive Equals : Value → Value → Prop where
  | null : Equals .null .null
  | boolean (truth : Bool) : Equals (.boolean truth) (.boolean truth)
  | integer (number : Int) : Equals (.integer number) (.integer number)
  /-- The two zeros are one number. -/
  | float {left right : Decimal.Binary64}
      (alike : left = right ∨ left.isZero = true ∧ right.isZero = true) :
      Equals (.float left) (.float right)
  | text (content : String) : Equals (.text content) (.text content)
  | list {lefts rights : List Value} (items : List.Forall₂ Equals lefts rights) :
      Equals (.list lefts) (.list rights)
  | object {lefts rights : List (String × Value)}
      (keys : lefts.map Prod.fst = rights.map Prod.fst)
      (values : List.Forall₂ Equals (lefts.map Prod.snd) (rights.map Prod.snd)) :
      Equals (.object lefts) (.object rights)

/-! ## The test -/

theorem sameNumber_eq_true_iff (left right : Decimal.Binary64) :
    left.sameNumber right = true ↔ left = right ∨ left.isZero = true ∧ right.isZero = true := by
  rw [Decimal.Binary64.sameNumber, Bool.or_eq_true, decide_eq_true_eq, Bool.and_eq_true]

mutual

theorem same_eq_true_iff : (left right : Value) → left.same right = true ↔ left.Equals right
  | .null, right => by
      cases right with
      | null => exact ⟨fun _ => .null, fun _ => by rw [same]⟩
      | _ => exact ⟨fun equal => by simp [same] at equal, nofun⟩
  | .boolean truth, right => by
      cases right with
      | boolean other =>
          rw [same, decide_eq_true_eq]
          exact ⟨fun equal => equal ▸ .boolean truth, fun equal => by cases equal; rfl⟩
      | _ => exact ⟨fun equal => by simp [same] at equal, nofun⟩
  | .integer number, right => by
      cases right with
      | integer other =>
          rw [same, decide_eq_true_eq]
          exact ⟨fun equal => equal ▸ .integer number, fun equal => by cases equal; rfl⟩
      | _ => exact ⟨fun equal => by simp [same] at equal, nofun⟩
  | .float number, right => by
      cases right with
      | float other =>
          rw [same, sameNumber_eq_true_iff]
          exact ⟨.float, fun equal => by cases equal; assumption⟩
      | _ => exact ⟨fun equal => by simp [same] at equal, nofun⟩
  | .text content, right => by
      cases right with
      | text other =>
          rw [same, decide_eq_true_eq]
          exact ⟨fun equal => equal ▸ .text content, fun equal => by cases equal; rfl⟩
      | _ => exact ⟨fun equal => by simp [same] at equal, nofun⟩
  | .list items, right => by
      cases right with
      | list others =>
          rw [same, sameItems_eq_true_iff items others]
          exact ⟨.list, fun equal => by cases equal; assumption⟩
      | _ => exact ⟨fun equal => by simp [same] at equal, nofun⟩
  | .object entries, right => by
      cases right with
      | object others =>
          rw [same, sameEntries_eq_true_iff entries others]
          exact ⟨fun equal => .object equal.1 equal.2,
            fun equal => by cases equal; constructor <;> assumption⟩
      | _ => exact ⟨fun equal => by simp [same] at equal, nofun⟩

theorem sameItems_eq_true_iff : (lefts rights : List Value) →
    (sameItems lefts rights = true ↔ List.Forall₂ Equals lefts rights)
  | [], [] => by simp [sameItems]
  | [], _ :: _ => by simp [sameItems]
  | _ :: _, [] => by simp [sameItems]
  | left :: lefts, right :: rights => by
      rw [sameItems, Bool.and_eq_true, same_eq_true_iff left right,
        sameItems_eq_true_iff lefts rights, List.forall₂_cons]

theorem sameEntries_eq_true_iff : (lefts rights : List (String × Value)) →
    (sameEntries lefts rights = true ↔
      lefts.map Prod.fst = rights.map Prod.fst ∧
        List.Forall₂ Equals (lefts.map Prod.snd) (rights.map Prod.snd))
  | [], [] => by simp [sameEntries]
  | [], _ :: _ => by simp [sameEntries]
  | _ :: _, [] => by simp [sameEntries]
  | (leftKey, left) :: lefts, (rightKey, right) :: rights => by
      rw [sameEntries, Bool.and_eq_true, Bool.and_eq_true, decide_eq_true_eq,
        same_eq_true_iff left right, sameEntries_eq_true_iff lefts rights]
      simp only [List.map_cons, List.cons.injEq, List.forall₂_cons]
      exact ⟨fun ⟨⟨key, here⟩, keys, values⟩ => ⟨⟨key, keys⟩, here, values⟩,
        fun ⟨⟨key, keys⟩, here, values⟩ => ⟨⟨key, here⟩, keys, values⟩⟩

end

/-! ## Objects by look-up -/

theorem lookup_eq_none_of_lt
    {key : String} {entries : List (String × Value)}
    (later : ∀ entry ∈ entries, key < entry.1) :
    entries.lookup key = none := by
  apply List.lookup_eq_none_iff.2
  intro entry member
  apply bne_iff_ne.2
  intro same
  exact String.lt_irrefl key (same.symm ▸ later entry member)

/-- Entries with the same keys and related values in the same places have related look-ups. -/
theorem rel_lookup_of_forall₂
    {related : Value → Value → Prop} {lefts rights : List (String × Value)}
    (keys : lefts.map Prod.fst = rights.map Prod.fst)
    (values : List.Forall₂ related (lefts.map Prod.snd) (rights.map Prod.snd))
    (key : String) :
    Option.Rel related (lefts.lookup key) (rights.lookup key) := by
  induction lefts generalizing rights with
  | nil =>
      rw [List.map_eq_nil_iff.1 keys.symm]
      exact .none
  | cons left lefts inductionHypothesis =>
      cases rights with
      | nil => cases keys
      | cons right rights =>
          obtain ⟨leftKey, leftValue⟩ := left
          obtain ⟨rightKey, rightValue⟩ := right
          obtain ⟨rfl, laterKeys⟩ := List.cons.inj keys
          obtain ⟨here, laterValues⟩ := List.forall₂_cons.1 values
          rw [lookup_cons_ite, lookup_cons_ite]
          split
          · exact .some here
          · exact inductionHypothesis laterKeys laterValues

theorem isSome_eq_of_rel
    {related : Value → Value → Prop} {left right : Option Value}
    (alike : Option.Rel related left right) :
    left.isSome = right.isSome := by
  cases alike <;> rfl

/-- Where keys ascend, the first key of other entries does not come before the first key. -/
theorem not_lt_of_isSome_lookup
    {lefts rights : List (String × Value)} {left right : String × Value}
    (ascending : IsAscending (right :: rights))
    (found : ((left :: lefts).lookup left.1).isSome = ((right :: rights).lookup left.1).isSome) :
    ¬ left.1 < right.1 := by
  intro before
  have absent : (right :: rights).lookup left.1 = none := by
    apply lookup_eq_none_of_lt
    intro entry member
    rcases List.mem_cons.1 member with rfl | later
    · exact before
    · exact String.lt_trans before ((List.pairwise_cons.1 ascending).1 entry later)
  rw [absent, List.lookup_cons_self] at found
  cases found

/-- Where keys ascend, related look-ups come from the same keys in the same places. -/
theorem forall₂_of_rel_lookup
    {related : Value → Value → Prop} {lefts rights : List (String × Value)}
    (leftAscending : IsAscending lefts)
    (rightAscending : IsAscending rights)
    (alike : ∀ key, Option.Rel related (lefts.lookup key) (rights.lookup key)) :
    lefts.map Prod.fst = rights.map Prod.fst ∧
      List.Forall₂ related (lefts.map Prod.snd) (rights.map Prod.snd) := by
  induction lefts generalizing rights with
  | nil =>
      cases rights with
      | nil => exact ⟨rfl, .nil⟩
      | cons right rights =>
          have found := isSome_eq_of_rel (alike right.1)
          rw [List.lookup_cons_self] at found
          cases found
  | cons left lefts inductionHypothesis =>
      cases rights with
      | nil =>
          have found := isSome_eq_of_rel (alike left.1)
          rw [List.lookup_cons_self] at found
          cases found
      | cons right rights =>
          have sameKey : left.1 = right.1 := by
            have notBefore := not_lt_of_isSome_lookup rightAscending
              (isSome_eq_of_rel (alike left.1))
            have notAfter := not_lt_of_isSome_lookup leftAscending
              (isSome_eq_of_rel (alike right.1)).symm
            exact String.le_antisymm (String.not_lt.1 notAfter) (String.not_lt.1 notBefore)
          obtain ⟨key, leftValue⟩ := left
          obtain ⟨_, rightValue⟩ := right
          obtain rfl : key = _ := sameKey
          obtain ⟨leftLater, leftRest⟩ := List.pairwise_cons.1 leftAscending
          obtain ⟨rightLater, rightRest⟩ := List.pairwise_cons.1 rightAscending
          have here : related leftValue rightValue := by
            have first := alike key
            rw [List.lookup_cons_self, List.lookup_cons_self] at first
            cases first
            assumption
          have rest : ∀ other, Option.Rel related (lefts.lookup other) (rights.lookup other) := by
            intro other
            by_cases same : other = key
            · rw [same, lookup_eq_none_of_lt leftLater, lookup_eq_none_of_lt rightLater]
              exact .none
            · have later := alike other
              rwa [lookup_cons_ite, lookup_cons_ite, if_neg same, if_neg same] at later
          obtain ⟨keys, values⟩ := inductionHypothesis leftRest rightRest rest
          exact ⟨congrArg (key :: ·) keys, .cons here values⟩

/-- Where keys ascend, objects are equal exactly if they have equal values under each key,
or none. -/
theorem equals_object_iff
    {lefts rights : List (String × Value)}
    (leftAscending : IsAscending lefts)
    (rightAscending : IsAscending rights) :
    (Value.object lefts).Equals (.object rights) ↔
      ∀ key, Option.Rel Equals (lefts.lookup key) (rights.lookup key) := by
  constructor
  · intro equal key
    cases equal with
    | object keys values => exact rel_lookup_of_forall₂ keys values key
  · intro alike
    obtain ⟨keys, values⟩ := forall₂_of_rel_lookup leftAscending rightAscending alike
    exact .object keys values

/-- Of the entries that an object is built of, the last one under a key counts. -/
theorem lookup_foldl_insertEntry
    (entries sorted : List (String × Value))
    (key : String) :
    (entries.foldl (fun sorted entry => insertEntry entry.1 entry.2 sorted) sorted).lookup key =
      (entries.reverse.lookup key).or (sorted.lookup key) := by
  induction entries generalizing sorted with
  | nil => rfl
  | cons entry entries inductionHypothesis =>
      rw [List.foldl_cons, inductionHypothesis, lookup_insertEntry, List.reverse_cons,
        List.lookup_append, Option.or_assoc, lookup_cons_ite]
      by_cases same : key = entry.1
      · rw [if_pos same, if_pos same]
        rfl
      · rw [if_neg same, if_neg same]
        rfl

/-- **The order in which an object was written does not count.** Two objects are equal
exactly if under each key the last entries that were written have equal values, or none was
written in either. -/
theorem equals_ofEntries_iff (lefts rights : List (String × Value)) :
    (ofEntries lefts).Equals (ofEntries rights) ↔
      ∀ key, Option.Rel Equals (lefts.reverse.lookup key) (rights.reverse.lookup key) := by
  have ascending (entries : List (String × Value)) :=
    isAscending_foldl_insertEntry entries [] List.Pairwise.nil
  rw [ofEntries, ofEntries, equals_object_iff (ascending lefts) (ascending rights)]
  simp only [lookup_foldl_insertEntry, List.lookup_nil, Option.or_none]

end Fieldwise.Value
