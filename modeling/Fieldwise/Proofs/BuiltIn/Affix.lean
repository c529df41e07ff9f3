import Fieldwise.Proofs.BuiltIn.Single
import Fieldwise.Proofs.Rule.Specification

/-!
Contract: affixes that a text must not have, from the specification to the report.

Owns: the report on a text under a rule whose parameter is literal, and what the two
affix rules say of a text.

Does **not** own: the reading of the specification (`Fieldwise.Proofs.Rule.Specification`)
and the verdict on a parameter that was read (`Fieldwise.Proofs.BuiltIn.Verdict`).

An affix is not typed, so that digits, signs, commas and colons reach the comparison as
they are. But blanks around the text of a rule do not count, and the end of the affix is
the end of that text: blanks at the end of an affix are lost, all others are compared.
-/

set_option autoImplicit false

namespace Fieldwise

/-- The keywords with a literal parameter cannot do without it, and read texts. -/
theorem Keyword.subject_need_of_literal {keyword : Keyword} (literal : keyword.form = .literal) :
    keyword.subject = .text ∧ keyword.need = .single ∧ keyword ≠ .confirmed := by
  cases keyword with
  | dateFormat | doesntEndWith | doesntStartWith => exact ⟨rfl, rfl, by decide⟩
  | _ => cases literal

/-! ## The two sides of a text -/

inductive Side where
  | front
  | back

namespace Side

/-- The keyword of the rule that excludes affixes on a side. -/
def keyword : Side → Keyword
  | .front => .doesntStartWith
  | .back => .doesntEndWith

/-- What a text does that has an affix on a side. -/
def verb : Side → String
  | .front => "start"
  | .back => "end"

/-- The text has the affix on this side. -/
def Has (affix chars : List Char) : Side → Prop
  | .front => affix <+: chars
  | .back => affix <:+ chars

instance (affix chars : List Char) (side : Side) : Decidable (side.Has affix chars) :=
  match side with
  | .front => inferInstanceAs (Decidable (affix <+: chars))
  | .back => inferInstanceAs (Decidable (affix <:+ chars))

theorem literal (side : Side) : side.keyword.form = .literal := by
  cases side <;> rfl

theorem passes_iff
    [Libraries]
    (side : Side)
    (reachability : Reachability)
    (timeout : Duration)
    (companion : Companion)
    (content affix : String) :
    side.keyword.Passes reachability timeout companion (.text content) (some (.text affix)) ↔
      ¬ side.Has affix.toList content.toList := by
  cases side <;> simp [keyword, Has, Keyword.Passes, Parameter.chars]

end Side

/-- The error of a field whose text has an affix that it must not have. -/
def FieldError.ofAffix (name : String) (side : Side) (affix : String) : FieldError :=
  { field := name
    message := "The " ++ name ++ " field must not " ++ side.verb ++ " with '" ++ affix ++ "'"
    code := side.keyword.name
    context := some
      (Value.ofEntries [("rule", .text side.keyword.name), ("parameter", .text affix)]) }

theorem Report.keywordMessage_affix (name affix : String) (side : Side) (value : Value) :
    keywordMessage name side.keyword ⟨.builtIn side.keyword, some (.text affix)⟩ value =
      "The " ++ name ++ " field must not " ++ side.verb ++ " with '" ++ affix ++ "'" := by
  have parameter (kind : Kind) : Rule.parameterText ⟨kind, some (.text affix)⟩ = affix :=
    String.ofList_toList
  apply String.ext
  cases side <;> simp [keywordMessage, Side.keyword, Side.verb, parameter]

namespace Validator

variable (config : Config) (reachability : Reachability) (book : RuleBook)

/-- The report on a text under one rule with a literal parameter, where the rule passes
the text exactly if it does not have something. -/
theorem errors_of_literal
    [Libraries]
    (lookup : String → Option Value)
    (name content : String)
    {affix : String}
    (whole : '|' ∉ affix.toList)
    {keyword : Keyword}
    (literal : keyword.form = .literal)
    (has : Prop) [Decidable has]
    (decides : ∀ companion : Companion,
      keyword.Passes reachability config.activeUrlTimeout companion (.text content)
        (some (.text (String.ofList (Text.trimEnd affix.toList)))) ↔ ¬ has) :
    let validator := Builder.assemble { config, reachability, predicates := [], rules := book }
    let rule : Rule :=
      ⟨.builtIn keyword, some (.text (String.ofList (Text.trimEnd affix.toList)))⟩
    (validator.validate
      ⟨[⟨name, .text content, .declared (keyword.name ++ ":" ++ affix)⟩], lookup⟩).errors =
      if has then
        [.about name rule keyword.name (Report.keywordMessage name keyword rule (.text content))]
      else [] := by
  intro validator rule
  have reads : (RuleSource.declared (keyword.name ++ ":" ++ affix)).rules = [rule] := by
    rw [Rule.rules_keyword keyword whole, literal, Parameter.parse]
  obtain ⟨text, single, alone⟩ := Keyword.subject_need_of_literal literal
  have present : Value.text content ≠ .null := by simp
  have fits : keyword.subject.Fits (.text content) := text ▸ .text content
  have met : keyword.need.Meets rule.parameter := single ▸ .singleText _
  obtain ⟨accepts, refuses⟩ :=
    errors_of_reads config reachability book lookup name reads rfl present fits met alone decides
  split
  · rename_i had
    exact refuses.2 (not_not_intro had)
  · rename_i absent
    exact accepts.2 absent

/-- The report on a text under a rule that excludes an affix. -/
theorem errors_of_affix
    [Libraries]
    (lookup : String → Option Value)
    (name content : String)
    {affix : String}
    (whole : '|' ∉ affix.toList)
    (side : Side) :
    let validator := Builder.assemble { config, reachability, predicates := [], rules := book }
    let reached := Text.trimEnd affix.toList
    (validator.validate
      ⟨[⟨name, .text content, .declared (side.keyword.name ++ ":" ++ affix)⟩], lookup⟩).errors =
      if side.Has reached content.toList then [.ofAffix name side (String.ofList reached)]
      else [] := by
  intro validator reached
  have decides (companion : Companion) :
      side.keyword.Passes reachability config.activeUrlTimeout companion (.text content)
          (some (.text (String.ofList reached))) ↔ ¬ side.Has reached content.toList := by
    rw [side.passes_iff, String.toList_ofList]
  rw [errors_of_literal config reachability book lookup name content whole side.literal _ decides,
    Report.keywordMessage_affix]
  rfl

/-- **The affix rules compare a text with what stands behind the colon, as it stands there,
except for blanks at the end.** The affix is cut into what reaches the comparison and the
blanks at its end, and the report on a field has an error exactly if the text of the field
ends, or starts, with what reaches the comparison. An affix that does not end in a blank
reaches it whole, whatever characters it consists of. -/
theorem affix_rules_compare_text
    [Libraries]
    {affix : String}
    (whole : '|' ∉ affix.toList) :
    let validator := Builder.assemble { config, reachability, predicates := [], rules := book }
    ∃ reached blanks : List Char,
      affix.toList = reached ++ blanks ∧
      (∀ char ∈ blanks, Text.isBlank char = true) ∧
      ¬ Text.EndsBlank reached ∧
      ∀ (lookup : String → Option Value) (name content : String),
        (validator.validate
            ⟨[⟨name, .text content, .declared ("doesnt_end_with:" ++ affix)⟩], lookup⟩).errors =
          (if reached <:+ content.toList then
            [.ofAffix name .back (String.ofList reached)]
          else []) ∧
        (validator.validate
            ⟨[⟨name, .text content, .declared ("doesnt_start_with:" ++ affix)⟩],
              lookup⟩).errors =
          (if reached <+: content.toList then
            [.ofAffix name .front (String.ofList reached)]
          else []) := by
  intro validator
  obtain ⟨blanks, cut, blank⟩ := Text.exists_blanks_after_trimEnd affix.toList
  refine ⟨Text.trimEnd affix.toList, blanks, cut, blank, Text.not_endsBlank_trimEnd _, ?_⟩
  intro lookup name content
  have endWith : "doesnt_end_with:" = Side.back.keyword.name ++ ":" := by decide
  have startWith : "doesnt_start_with:" = Side.front.keyword.name ++ ":" := by decide
  rw [endWith, startWith]
  exact ⟨errors_of_affix config reachability book lookup name content whole .back,
    errors_of_affix config reachability book lookup name content whole .front⟩

/-- Blanks, digits, a sign, a colon and a comma. -/
theorem mixed_affix_is_compared :
    '|' ∉ " 07:+1, ".toList ∧
    ∃ reached blanks : List Char,
      " 07:+1, ".toList = reached ++ blanks ∧
      (∀ char ∈ blanks, Text.isBlank char = true) ∧
      ¬ Text.EndsBlank reached ∧
      (Validator.default.validate
          ⟨[⟨"Code", .text "x 07:+1,", .declared ("doesnt_end_with:" ++ " 07:+1, ")⟩],
            fun _ => none⟩).errors =
        if reached <:+ "x 07:+1,".toList then [.ofAffix "Code" .back (String.ofList reached)]
        else [] := by
  have whole : '|' ∉ " 07:+1, ".toList := by decide
  obtain ⟨reached, blanks, cut, blank, flush, compared⟩ :=
    affix_rules_compare_text Config.default Reachability.offline Table.empty whole
  exact ⟨whole, reached, blanks, cut, blank, flush,
    (compared (fun _ => none) "Code" "x 07:+1,").1⟩

/-- A text that does not end with the affix as it was written, but with the affix without
its last blank, is refused. -/
theorem blank_behind_affix_is_lost :
    '|' ∉ ". ".toList ∧ ¬ ". ".toList <:+ "end.".toList ∧
    (Validator.default.validate
        ⟨[⟨"Line", .text "end.", .declared "doesnt_end_with:. "⟩], fun _ => none⟩).errors =
      [.ofAffix "Line" .back "."] := by
  have whole : '|' ∉ ". ".toList := by decide
  have written : "doesnt_end_with:. " = Side.back.keyword.name ++ ":" ++ ". " := by decide
  have ends : Side.back.Has (Text.trimEnd ". ".toList) "end.".toList := by decide
  have affix : String.ofList (Text.trimEnd ". ".toList) = "." := by decide
  refine ⟨whole, by decide, ?_⟩
  rw [written, ← affix]
  exact (errors_of_affix Config.default Reachability.offline Table.empty (fun _ => none)
    "Line" "end." whole .back).trans (if_pos ends)

end Validator

end Fieldwise
