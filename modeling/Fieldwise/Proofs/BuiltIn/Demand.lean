import Mathlib.Data.List.Basic
import Fieldwise.Proofs.Lists
import Fieldwise.Proofs.Table
import Fieldwise.Validator.Basic

/-!
Contract: what a built-in rule asks for before it can come to a verdict.

Owns: the type of value and the parameter that each keyword asks for, as tables of
their own, and the agreement of reading and demanding with them.

Does **not** own: the verdicts (`Fieldwise.Proofs.BuiltIn.Verdict`).

The tables are written by type and by need and not by predicate, so that a predicate
with the wrong shape or the wrong demand does not agree with them.
-/

set_option autoImplicit false

namespace Fieldwise

/-! ## Types of value -/

/-- The integers of 64 bits with a sign. -/
def IsInt64 (number : Int) : Prop :=
  -9223372036854775808 ≤ number ∧ number ≤ 9223372036854775807

/-- The values of each shape. -/
inductive Shape.Fits : Shape → Value → Prop where
  | text (content : String) : Fits .text (.text content)
  | integer {number : Int} (inRange : IsInt64 number) : Fits .integer (.integer number)
  | characters (content : String) : Fits .sized (.text content)
  | texts (contents : List String) : Fits .sized (.list (contents.map .text))
  | integers {numbers : List Int} (inRange : ∀ number ∈ numbers, IsInt64 number) :
      Fits .sized (.list (numbers.map .integer))
  | any (value : Value) : Fits .any value

theorem Text.toInt64?_eq_some_iff (number : Int) (word : Int64) :
    Text.toInt64? number = some word ↔ IsInt64 number ∧ word.toInt = number := by
  unfold Text.toInt64? IsInt64
  constructor
  · intro read
    split at read
    · rename_i inRange
      obtain rfl := Option.some.inj read
      refine ⟨by omega, Int64.toInt_ofInt_of_le ?_ ?_⟩ <;> simp <;> omega
    · cases read
  · intro fitting
    rcases fitting with ⟨inRange, rfl⟩
    rw [if_pos (by omega), Int64.ofInt_toInt]

theorem Value.int64?_isSome_iff (value : Value) :
    value.int64?.isSome = true ↔ ∃ number, IsInt64 number ∧ value = .integer number := by
  rw [Option.isSome_iff_exists]
  constructor
  · intro found
    rcases found with ⟨word, read⟩
    cases value with
    | integer number => exact ⟨number, ((Text.toInt64?_eq_some_iff number word).1 read).1, rfl⟩
    | _ => cases read
  · intro integral
    rcases integral with ⟨number, inRange, rfl⟩
    have bounds := inRange
    unfold IsInt64 at bounds
    exact ⟨Int64.ofInt number, by rw [Value.int64?, Text.toInt64?, if_pos (by omega)]⟩

/-- An integer of 64 bits as a word. -/
theorem IsInt64.exists_word {number : Int} (inRange : IsInt64 number) :
    ∃ word : Int64, word.toInt = number := by
  have integral := (Value.int64?_isSome_iff (.integer number)).2 ⟨number, inRange, rfl⟩
  obtain ⟨word, read⟩ := Option.isSome_iff_exists.1 integral
  exact ⟨word, ((Text.toInt64?_eq_some_iff number word).1 read).2⟩

theorem Value.isText_iff (value : Value) :
    value.isText = true ↔ ∃ content, value = .text content := by
  cases value <;> simp [Value.isText]

theorem Value.all_isText_iff (items : List Value) :
    items.all Value.isText = true ↔ ∃ contents : List String, items = contents.map .text := by
  rw [List.all_eq_true]
  constructor
  · intro each
    have texts : ∀ item ∈ items, ∃ content, True ∧ item = .text content := by
      intro item member
      obtain ⟨content, isText⟩ := (Value.isText_iff item).1 (each item member)
      exact ⟨content, trivial, isText⟩
    obtain ⟨contents, -, listed⟩ := exists_map_of_forall_mem texts
    exact ⟨contents, listed⟩
  · rintro ⟨contents, rfl⟩ item member
    obtain ⟨content, -, rfl⟩ := List.mem_map.1 member
    rfl

theorem Value.all_int64?_iff (items : List Value) :
    items.all (fun item => item.int64?.isSome) = true ↔
      ∃ numbers : List Int,
        (∀ number ∈ numbers, IsInt64 number) ∧ items = numbers.map .integer := by
  rw [List.all_eq_true]
  constructor
  · intro each
    exact exists_map_of_forall_mem fun item member =>
      (Value.int64?_isSome_iff item).1 (each item member)
  · rintro ⟨numbers, inRange, rfl⟩ item member
    obtain ⟨number, isNumber, rfl⟩ := List.mem_map.1 member
    exact (Value.int64?_isSome_iff _).2 ⟨number, inRange number isNumber, rfl⟩

/-- The size of a value: the characters of a text, the items of a list. -/
def Value.extent : Value → Nat
  | .text content => content.length
  | .list items => items.length
  | _ => 0

theorem Shape.sizeOf?_eq_some_iff (value : Value) (size : Nat) :
    Shape.sizeOf? value = some size ↔ Shape.sized.Fits value ∧ value.extent = size := by
  constructor
  · intro read
    cases value with
    | text content => exact ⟨.characters content, Option.some.inj read⟩
    | list items =>
        rw [Shape.sizeOf?] at read
        split at read
        · rename_i homogeneous
          refine ⟨?_, Option.some.inj read⟩
          rw [Bool.or_eq_true, Value.all_isText_iff, Value.all_int64?_iff] at homogeneous
          rcases homogeneous with ⟨contents, rfl⟩ | ⟨numbers, inRange, rfl⟩
          · exact .texts contents
          · exact .integers inRange
        · cases read
    | _ => cases read
  · intro sized
    rcases sized with ⟨fits, rfl⟩
    cases fits with
    | characters content => rfl
    | texts contents =>
        have homogeneous := (Value.all_isText_iff (contents.map .text)).2 ⟨contents, rfl⟩
        rw [Shape.sizeOf?, homogeneous]
        rfl
    | @integers numbers inRange =>
        have homogeneous :=
          (Value.all_int64?_iff (numbers.map .integer)).2 ⟨numbers, inRange, rfl⟩
        rw [Shape.sizeOf?, homogeneous, Bool.or_true]
        rfl

/-- A value fits a shape exactly where something is read of it. -/
theorem Shape.fits_iff_read?_isSome (shape : Shape) (value : Value) :
    shape.Fits value ↔ (shape.read? value).isSome = true := by
  cases shape with
  | text =>
      cases value with
      | text content => exact ⟨fun _ => rfl, fun _ => .text content⟩
      | _ =>
          constructor
          · intro fits
            cases fits
          · intro read
            cases read
  | integer =>
      show Shape.integer.Fits value ↔ value.int64?.isSome = true
      rw [Value.int64?_isSome_iff]
      constructor
      · intro fits
        rcases fits with _ | inRange
        exact ⟨_, inRange, rfl⟩
      · intro integral
        rcases integral with ⟨number, inRange, rfl⟩
        exact .integer inRange
  | sized =>
      show Shape.sized.Fits value ↔ (Shape.sizeOf? value).isSome = true
      rw [Option.isSome_iff_exists]
      constructor
      · intro fits
        exact ⟨value.extent, (Shape.sizeOf?_eq_some_iff value _).2 ⟨fits, rfl⟩⟩
      · intro found
        rcases found with ⟨size, read⟩
        exact ((Shape.sizeOf?_eq_some_iff value size).1 read).1
  | any => exact ⟨fun _ => rfl, fun _ => .any value⟩

/-- Null is of no type that a rule can ask for. -/
theorem Shape.Fits.ne_null
    {shape : Shape} {value : Value}
    (fits : shape.Fits value)
    (definite : shape ≠ .any) :
    value ≠ .null := by
  rintro rfl
  cases fits
  exact definite rfl

theorem Shape.demand_of_not_fits
    {shape : Shape} {value : Value}
    (unfit : ¬ shape.Fits value) :
    shape.demand value = .error (.coercion shape value.typeName) := by
  rw [Shape.fits_iff_read?_isSome, Bool.not_eq_true, Option.isSome_eq_false_iff,
    Option.isNone_iff_eq_none] at unfit
  rw [Shape.demand, unfit]

/-! ## Parameters -/

/-- The parameter that a rule cannot do without. -/
inductive Need where
  | nothing
  | integer
  /-- An integer or a text, but no list. -/
  | single
  /-- Any parameter, since a scalar counts as a list of one item. -/
  | items
deriving DecidableEq

namespace Need

inductive Meets : Need → Option Parameter → Prop where
  | nothing (parameter : Option Parameter) : Meets .nothing parameter
  | integer (number : Int64) : Meets .integer (some (.integer number))
  | singleInteger (number : Int64) : Meets .single (some (.integer number))
  | singleText (content : String) : Meets .single (some (.text content))
  | items (parameter : Parameter) : Meets .items (some parameter)

/-- The fault of a parameter that does not meet a need. -/
inductive Refuses (kind : Kind) : Need → Option Parameter → Fault → Prop where
  | missing {need : Need} (needed : need ≠ .nothing) :
      Refuses kind need none (.missingParameter kind)
  | noInteger {parameter : Parameter} (other : ∀ number, parameter ≠ .integer number) :
      Refuses kind .integer (some parameter) (.invalidParameter kind parameter "an integer")
  | several (contents : List String) :
      Refuses kind .single (some (.list contents))
        (.invalidParameter kind (.list contents) "a single value")

theorem exists_refuses_of_not_meets
    (kind : Kind)
    {need : Need} {parameter : Option Parameter}
    (unmet : ¬ need.Meets parameter) :
    ∃ fault, need.Refuses kind parameter fault := by
  cases need with
  | nothing => exact absurd (Meets.nothing parameter) unmet
  | integer =>
      cases parameter with
      | none => exact ⟨_, .missing (by decide)⟩
      | some parameter =>
          refine ⟨_, .noInteger ?_⟩
          rintro number rfl
          exact unmet (.integer number)
  | single =>
      cases parameter with
      | none => exact ⟨_, .missing (by decide)⟩
      | some parameter =>
          cases parameter with
          | integer number => exact absurd (Meets.singleInteger number) unmet
          | text content => exact absurd (Meets.singleText content) unmet
          | list contents => exact ⟨_, .several contents⟩
  | items =>
      cases parameter with
      | none => exact ⟨_, .missing (by decide)⟩
      | some parameter => exact absurd (Meets.items parameter) unmet

theorem Refuses.code_eq
    {kind : Kind} {need : Need} {parameter : Option Parameter} {fault : Fault}
    (refused : need.Refuses kind parameter fault) :
    fault.code = "invalid_rule" := by
  cases refused <;> rfl

end Need

namespace Parameter

theorem demandInteger_of_refuses
    {kind : Kind} {parameter : Option Parameter} {fault : Fault}
    (refused : Need.integer.Refuses kind parameter fault) :
    demandInteger kind parameter = .error fault := by
  cases refused with
  | missing needed => rfl
  | @noInteger parameter other =>
      cases parameter with
      | integer number => exact absurd rfl (other number)
      | text content => rfl
      | list contents => rfl

theorem demandText_of_refuses
    {kind : Kind} {parameter : Option Parameter} {fault : Fault}
    (refused : Need.single.Refuses kind parameter fault) :
    demandText kind parameter = .error fault := by
  cases refused with
  | missing needed => rfl
  | several contents => rfl

theorem demandItems_of_refuses
    {kind : Kind} {parameter : Option Parameter} {fault : Fault}
    (refused : Need.items.Refuses kind parameter fault) :
    demandItems kind parameter = .error fault := by
  cases refused
  rfl

theorem demandText_of_meets
    (kind : Kind)
    {parameter : Option Parameter}
    (met : Need.single.Meets parameter) :
    ∃ scalar, parameter = some scalar ∧ demandText kind parameter = .ok scalar.toText := by
  cases met with
  | singleInteger number => exact ⟨_, rfl, rfl⟩
  | singleText content => exact ⟨_, rfl, rfl⟩

end Parameter

/-! ## Keywords -/

namespace Keyword

/-- The type of value that the rules of a keyword are about. -/
def subject : Keyword → Shape
  | required | accepted | confirmed => .any
  | max | min | size => .sized
  | between | greater | less | atLeast | atMost => .integer
  | email | url | activeUrl | ipFormat | date | dateFormat | oneOf | noneOf
  | doesntEndWith | doesntStartWith | macAddress => .text

/-- The parameter that the rules of a keyword cannot do without. -/
def need : Keyword → Need
  | required | accepted | confirmed | email | url | activeUrl | ipFormat | date
  | macAddress => .nothing
  | max | min | size | greater | less | atLeast | atMost => .integer
  | dateFormat | doesntEndWith | doesntStartWith => .single
  | between | oneOf | noneOf => .items

end Keyword

end Fieldwise
