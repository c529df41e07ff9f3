import Fieldwise.Proofs.BuiltIn.Single
import Fieldwise.Proofs.Rule.Canonical

/-!
Contract: scalars behind the colon of a rule, and the rules that need an integer there.

Owns: which texts are read as an integer and which are kept, the integers that are read
back, and the report of the rules on sizes and comparisons where no integer was read.

Does **not** own: the verdicts where one was read (`Fieldwise.Proofs.BuiltIn.Length`,
`Fieldwise.Proofs.BuiltIn.Range`).

A text is read as the integer that it writes or is kept as it is. Nothing lies between the
two: no blank is trimmed, no digit is dropped, and no number is brought into the range.
-/

set_option autoImplicit false

namespace Fieldwise

/-! ## Texts that write no integer of 64 bits -/

namespace Text

theorem Writes.ne_nil {chars : List Char} {number : Int} (writes : Writes chars number) :
    chars ≠ [] := by
  cases writes with
  | unsigned run => exact run.1
  | plus run => exact List.cons_ne_nil _ _
  | minus run => exact List.cons_ne_nil _ _

/-- Why a text is no numeral of 64 bits: there is nothing, a blank, or a number out of
range. There are other reasons. -/
inductive IsFlawed (chars : List Char) : Prop where
  | empty (none : chars = []) : IsFlawed chars
  | blank {char : Char} (member : char ∈ chars) (blank : isBlank char = true) : IsFlawed chars
  | overflow {number : Int} (writes : Writes chars number) (outside : ¬ IsInt64 number) :
      IsFlawed chars

theorem IsFlawed.not_isInt64Numeral {chars : List Char} (flawed : IsFlawed chars) :
    ¬ IsInt64Numeral chars := by
  rintro ⟨number, writes, inRange⟩
  cases flawed with
  | empty none => exact writes.ne_nil none
  | blank member blank =>
      rw [writes.isBlank_of_mem member] at blank
      cases blank
  | overflow also outside => exact outside (also.unique writes ▸ inRange)

end Text

/-! ## Reading -/

namespace Parameter

theorem parse_scalar_eq_integer_iff (raw : List Char) (number : Int64) :
    parse .scalar raw = .integer number ↔ Text.Writes raw number.toInt := by
  rw [← Text.int64?_eq_some_iff, parse]
  cases Text.int64? raw <;> simp

theorem parse_scalar_eq_text_iff (raw : List Char) :
    parse .scalar raw = .text (String.ofList raw) ↔ ¬ Text.IsInt64Numeral raw := by
  rw [← Text.int64?_eq_none_iff, parse]
  cases Text.int64? raw <;> simp

end Parameter

theorem Kind.form_eq_scalar_of_takes
    {kind : Kind}
    (unlisted : kind.takesList = false)
    (read : kind.takesLiteral = false) :
    kind.form = .scalar := by
  rw [takesList, decide_eq_false_iff_not] at unlisted
  rw [takesLiteral, decide_eq_false_iff_not] at read
  cases form : kind.form with
  | scalar => rfl
  | list => exact absurd form unlisted
  | literal => exact absurd form read

namespace Keyword

/-- The keywords of the rules that hold a size or a number against an integer. -/
def bounding : List Keyword :=
  [.max, .min, .size, .greater, .less, .atLeast, .atMost]

theorem mem_bounding_iff (keyword : Keyword) :
    keyword ∈ bounding ↔ keyword.need = .integer := by
  cases keyword <;> decide

theorem form_of_mem_bounding {keyword : Keyword} (member : keyword ∈ bounding) :
    keyword.form = .scalar ∧ keyword.subject ≠ .any := by
  revert keyword
  decide

end Keyword

/-! ## The report -/

namespace Validator

variable (config : Config) (reachability : Reachability) (book : RuleBook)

/-- The report of a rule that needs an integer and has a text that writes none. -/
theorem errors_of_no_numeral
    [Libraries]
    (lookup : String → Option Value)
    (name : String)
    {raw : String} {keyword : Keyword} {value : Value}
    (member : keyword ∈ Keyword.bounding)
    (foreign : ¬ Text.IsInt64Numeral raw.toList)
    (fits : keyword.subject.Fits value) :
    let validator := Builder.assemble { config, reachability, predicates := [], rules := book }
    let rule : Rule := ⟨.builtIn keyword, some (Parameter.parse keyword.form raw.toList)⟩
    (validator.validate ⟨[⟨name, value, .registered [rule]⟩], lookup⟩).errors =
      [.about name ⟨.builtIn keyword, some (.text raw)⟩ "invalid_rule"
        ((Fault.invalidParameter (.builtIn keyword) (.text raw) "an integer").describe
          name)] := by
  intro validator rule
  obtain ⟨scalar, definite⟩ := Keyword.form_of_mem_bounding member
  have kept : Parameter.parse keyword.form raw.toList = .text raw := by
    rw [scalar, (Parameter.parse_scalar_eq_text_iff _).2 foreign, String.ofList_toList]
  have refused : keyword.need.Refuses (.builtIn keyword) (some (.text raw))
      (.invalidParameter (.builtIn keyword) (.text raw) "an integer") := by
    rw [(Keyword.mem_bounding_iff keyword).1 member]
    exact .noInteger nofun
  simp only [rule, kept]
  exact errors_of_misconfigured config reachability book lookup name rfl rfl
    (fits.ne_null definite) fits refused

/-- **A scalar is the integer that its text writes, or the text.** Of every kind that takes
neither a list nor a literal, and each kind made of a name is one, the parameter is an integer
exactly if the text writes it with at most one sign and in 64 bits, and the text itself in
every other case. The numeral of an integer is read back. A text that is empty,
holds a blank or writes a number out of range is such a case. A rule on a size or a comparison
is a fault then on every value of its type, and the fault holds the text as it was. -/
theorem scalars_are_exact
    [Libraries]
    (lookup : String → Option Value)
    (name : String) :
    let validator := Builder.assemble { config, reachability, predicates := [], rules := book }
    (∀ kind : Kind, kind.takesList = false → kind.takesLiteral = false →
      (∀ (raw : String) (number : Int64),
        Parameter.parse kind.form raw.toList = .integer number ↔
          Text.Writes raw.toList number.toInt) ∧
      (∀ raw : String,
        Parameter.parse kind.form raw.toList = .text raw ↔
          ¬ Text.IsInt64Numeral raw.toList) ∧
      (∀ number : Int64,
        Parameter.parse kind.form (Parameter.integer number).toText.toList =
          .integer number)) ∧
    (∀ other, (Kind.other other).takesList = false ∧ (Kind.other other).takesLiteral = false) ∧
    (∀ chars, Text.IsFlawed chars → ¬ Text.IsInt64Numeral chars) ∧
    (∀ keyword ∈ Keyword.bounding, ∀ raw : String, ¬ Text.IsInt64Numeral raw.toList →
      ∀ value, keyword.subject.Fits value →
        let rule : Rule := ⟨.builtIn keyword, some (Parameter.parse keyword.form raw.toList)⟩
        (validator.validate ⟨[⟨name, value, .registered [rule]⟩], lookup⟩).errors =
          [.about name ⟨.builtIn keyword, some (.text raw)⟩ "invalid_rule"
            ((Fault.invalidParameter (.builtIn keyword) (.text raw) "an integer").describe
              name)]) := by
  intro validator
  refine ⟨?_, fun other => ⟨rfl, rfl⟩, fun chars => Text.IsFlawed.not_isInt64Numeral, ?_⟩
  · intro kind unlisted read
    rw [Kind.form_eq_scalar_of_takes unlisted read]
    refine ⟨fun raw => Parameter.parse_scalar_eq_integer_iff raw.toList, ?_, ?_⟩
    · intro raw
      rw [← Parameter.parse_scalar_eq_text_iff, String.ofList_toList]
    · intro number
      rw [Parameter.toText, String.toList_ofList, Parameter.parse_scalar_chars_integer]
  · intro keyword member raw foreign value fits
    exact errors_of_no_numeral config reachability book lookup name member foreign fits

/-- The least integer under a name that is no keyword, and three limits that are none: one
above the greatest integer, none at all, and a digit after a blank. -/
theorem overflowing_limit_is_a_fault :
    let errors (raw : String) : List FieldError :=
      (Validator.default.validate
        ⟨[⟨"Level", .text "naïve",
          .registered [⟨.builtIn .max, some (Parameter.parse .scalar raw.toList)⟩]⟩],
          fun _ => none⟩).errors
    Parameter.parse (Kind.other "level").form "-09223372036854775808".toList =
      .integer (-9223372036854775808) ∧
    ∀ raw ∈ ["9223372036854775808", "", " 7"],
      errors raw =
        [.about "Level" ⟨.builtIn .max, some (.text raw)⟩ "invalid_rule"
          ((Fault.invalidParameter (.builtIn .max) (.text raw) "an integer").describe
            "Level")] := by
  intro errors
  obtain ⟨reads, others, foreign, faults⟩ := scalars_are_exact Config.default
    Reachability.offline Table.empty (fun _ => none) "Level"
  obtain ⟨unlisted, read⟩ := others "level"
  constructor
  · refine ((reads _ unlisted read).1 _ _).2 ?_
    exact (Text.int64?_eq_some_iff _ _).1 (by decide)
  · intro raw member
    have flawed : Text.IsFlawed raw.toList := by
      simp only [List.mem_cons, List.not_mem_nil, or_false] at member
      rcases member with rfl | rfl | rfl
      · have writes : Text.Writes "9223372036854775808".toList 9223372036854775808 :=
          (Text.integer?_eq_some_iff _ _).1 (by decide)
        exact .overflow writes (by unfold IsInt64; omega)
      · exact .empty rfl
      · have member : ' ' ∈ " 7".toList := by decide
        exact .blank member (by decide)
    exact faults .max (by decide) raw (foreign _ flawed) _ (.characters _)

end Validator

end Fieldwise
