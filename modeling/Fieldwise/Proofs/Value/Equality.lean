import Fieldwise.Proofs.BuiltIn.Demand
import Fieldwise.Proofs.Value.Equals

/-!
Contract: equality of values as an equivalence.

Owns: symmetry and transitivity, the values that equal only themselves, and what two
equal values have in common.

Does **not** own: reflexivity (`Fieldwise.Value.Basic`).

Equal values are almost always one value. They differ only in the sign of a zero among
floating-point numbers, on its own or inside a list or an object.
-/

set_option autoImplicit false

namespace Fieldwise

namespace Decimal.Binary64

theorem sameNumber_comm (left right : Binary64) :
    left.sameNumber right = right.sameNumber left := by
  simp only [sameNumber, @eq_comm _ left right, Bool.and_comm]

theorem sameNumber_trans
    {left middle right : Binary64}
    (first : left.sameNumber middle = true)
    (second : middle.sameNumber right = true) :
    left.sameNumber right = true := by
  simp only [sameNumber, Bool.or_eq_true, decide_eq_true_eq, Bool.and_eq_true] at *
  rcases first with rfl | ⟨leftZero, middleZero⟩
  · exact second
  · rcases second with rfl | ⟨-, rightZero⟩
    · exact .inr ⟨leftZero, middleZero⟩
    · exact .inr ⟨leftZero, rightZero⟩

end Decimal.Binary64

namespace Value

/-! ## Symmetry and transitivity -/

mutual

theorem same_comm : (left right : Value) → left.same right = right.same left
  | .null, right => by cases right <;> simp [same]
  | .boolean _, right => by cases right <;> simp [same, eq_comm]
  | .integer _, right => by cases right <;> simp [same, eq_comm]
  | .float number, right => by
      cases right <;> simp [same, number.sameNumber_comm]
  | .text _, right => by cases right <;> simp [same, eq_comm]
  | .list items, right => by cases right <;> simp [same, sameItems_comm items]
  | .object entries, right => by cases right <;> simp [same, sameEntries_comm entries]

theorem sameItems_comm : (lefts rights : List Value) →
    sameItems lefts rights = sameItems rights lefts
  | [], rights => by cases rights <;> simp [sameItems]
  | left :: lefts, rights => by
      cases rights <;> simp [sameItems, same_comm left, sameItems_comm lefts]

theorem sameEntries_comm : (lefts rights : List (String × Value)) →
    sameEntries lefts rights = sameEntries rights lefts
  | [], rights => by cases rights <;> simp [sameEntries]
  | (leftKey, left) :: lefts, rights => by
      cases rights <;>
        simp [sameEntries, same_comm left, sameEntries_comm lefts, @eq_comm _ leftKey]

end

mutual

theorem same_trans : (left middle right : Value) →
    left.same middle = true → middle.same right = true → left.same right = true
  | .null, middle, right => by cases middle <;> cases right <;> simp [same]
  | .boolean _, middle, right => by cases middle <;> cases right <;> simp_all [same]
  | .integer _, middle, right => by cases middle <;> cases right <;> simp_all [same]
  | .text _, middle, right => by cases middle <;> cases right <;> simp_all [same]
  | .float _, middle, right => by
      intro first second
      cases middle <;> simp only [same, Bool.false_eq_true] at first
      cases right <;> simp only [same, Bool.false_eq_true] at second
      exact Decimal.Binary64.sameNumber_trans first second
  | .list items, middle, right => by
      intro first second
      cases middle <;> simp only [same, Bool.false_eq_true] at first
      cases right <;> simp only [same, Bool.false_eq_true] at second
      exact sameItems_trans items _ _ first second
  | .object entries, middle, right => by
      intro first second
      cases middle <;> simp only [same, Bool.false_eq_true] at first
      cases right <;> simp only [same, Bool.false_eq_true] at second
      exact sameEntries_trans entries _ _ first second

theorem sameItems_trans : (lefts middles rights : List Value) →
    sameItems lefts middles = true → sameItems middles rights = true →
      sameItems lefts rights = true
  | [], middles, rights => by cases middles <;> cases rights <;> simp [sameItems]
  | left :: lefts, middles, rights => by
      intro first second
      cases middles <;> simp only [sameItems, Bool.false_eq_true, Bool.and_eq_true] at first
      cases rights <;> simp only [sameItems, Bool.false_eq_true, Bool.and_eq_true] at second
      rw [sameItems, Bool.and_eq_true]
      exact ⟨same_trans left _ _ first.1 second.1, sameItems_trans lefts _ _ first.2 second.2⟩

theorem sameEntries_trans : (lefts middles rights : List (String × Value)) →
    sameEntries lefts middles = true → sameEntries middles rights = true →
      sameEntries lefts rights = true
  | [], middles, rights => by cases middles <;> cases rights <;> simp [sameEntries]
  | (leftKey, left) :: lefts, middles, rights => by
      intro first second
      cases middles <;>
        simp only [sameEntries, Bool.false_eq_true, Bool.and_eq_true, decide_eq_true_eq] at first
      cases rights <;>
        simp only [sameEntries, Bool.false_eq_true, Bool.and_eq_true, decide_eq_true_eq] at second
      simp only [sameEntries, Bool.and_eq_true, decide_eq_true_eq]
      obtain ⟨⟨key, here⟩, later⟩ := first
      obtain ⟨⟨keyToo, hereToo⟩, laterToo⟩ := second
      exact ⟨⟨key.trans keyToo, same_trans left _ _ here hereToo⟩,
        sameEntries_trans lefts _ _ later laterToo⟩

end

/-! ## Values that equal only themselves -/

def IsExact (value : Value) : Prop :=
  ∀ other, value.same other = true → other = value

theorem isExact_null : Value.null.IsExact := by
  intro other equal
  cases (same_eq_true_iff _ other).1 equal
  rfl

theorem isExact_boolean (truth : Bool) : (Value.boolean truth).IsExact := by
  intro other equal
  cases (same_eq_true_iff _ other).1 equal
  rfl

theorem isExact_integer (number : Int) : (Value.integer number).IsExact := by
  intro other equal
  cases (same_eq_true_iff _ other).1 equal
  rfl

theorem isExact_text (content : String) : (Value.text content).IsExact := by
  intro other equal
  cases (same_eq_true_iff _ other).1 equal
  rfl

theorem eq_of_forall₂_equals
    {items others : List Value}
    (exact : ∀ item ∈ items, item.IsExact)
    (equal : List.Forall₂ Equals items others) :
    others = items := by
  induction equal with
  | nil => rfl
  | @cons item other items others here later inductionHypothesis =>
      rw [exact item List.mem_cons_self other ((same_eq_true_iff item other).2 here),
        inductionHypothesis fun next member => exact next (List.mem_cons_of_mem _ member)]

theorem isExact_list {items : List Value} (exact : ∀ item ∈ items, item.IsExact) :
    (Value.list items).IsExact := by
  intro other equal
  cases (same_eq_true_iff _ other).1 equal with
  | list equalItems => rw [eq_of_forall₂_equals exact equalItems]

theorem isExact_emptyList : (Value.list []).IsExact :=
  isExact_list nofun

theorem isExact_emptyObject : (Value.object []).IsExact := by
  intro other equal
  cases (same_eq_true_iff _ other).1 equal with
  | object keys values => rw [List.map_eq_nil_iff.1 keys.symm]

section Equal

variable {value other : Value} (equal : value.same other = true)

include equal

theorem IsExact.eq_iff_of_same {held : Value} (exact : held.IsExact) :
    value = held ↔ other = held := by
  constructor
  · rintro rfl
    exact exact other equal
  · rintro rfl
    rw [same_comm] at equal
    exact exact value equal

theorem typeName_of_same : value.typeName = other.typeName := by
  cases (same_eq_true_iff value other).1 equal <;> rfl

/-- What a typed rule receives is exact: a text, an integer, or a list of such. -/
theorem eq_of_same_of_fits
    {shape : Shape}
    (typed : shape ≠ .any)
    (fits : shape.Fits value) :
    other = value := by
  have exact : value.IsExact := by
    cases fits with
    | text content => exact isExact_text content
    | integer inRange => exact isExact_integer _
    | characters content => exact isExact_text content
    | texts contents =>
        apply isExact_list
        intro item member
        obtain ⟨content, -, rfl⟩ := List.mem_map.1 member
        exact isExact_text content
    | integers inRange =>
        apply isExact_list
        intro item member
        obtain ⟨number, -, rfl⟩ := List.mem_map.1 member
        exact isExact_integer number
    | any value => exact absurd rfl typed
  exact exact other equal

theorem fits_of_same {shape : Shape} (fits : shape.Fits value) : shape.Fits other := by
  by_cases typed : shape = .any
  · subst typed
    exact .any other
  · rw [eq_of_same_of_fits equal typed fits]
    exact fits

end Equal

end Value

end Fieldwise
