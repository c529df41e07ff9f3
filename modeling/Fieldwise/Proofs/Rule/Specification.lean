import Fieldwise.Proofs.Rule.Canonical

/-!
Contract: specifications as lists of rules.

Owns: the rules that a specification can hold, the characters that reading and writing
a rule keep, and the proof that specifications of such rules, and no others, read back.

Does **not** own: one rule and its text (`Fieldwise.Proofs.Rule.Canonical`).

A rule can be lost in a specification in three ways: its text is read as another rule,
it is blank and dropped, or a bar cuts it in two. Reading never leads to such a rule.
-/

set_option autoImplicit false

namespace Fieldwise

namespace Parameter

/-- A parameter that was read is written with the characters that were read, an integer
with a sign and digits of its own. -/
theorem mem_chars_parse
    {form : ParameterForm} {raw : List Char} {char : Char}
    (member : char ∈ (parse form raw).chars) :
    char ∈ raw ∨ char = '-' ∨ char.isDigit = true := by
  cases form with
  | list =>
      have written : (parse .list raw).chars = raw := by
        simp [parse, chars, List.map_map, Function.comp_def, List.intercalate_splitOn]
      exact .inl (written ▸ member)
  | literal => exact .inl (by simpa [parse, chars] using member)
  | scalar =>
      rw [parse] at member
      cases read : Text.int64? raw with
      | some number =>
          rw [read] at member
          exact .inr (Text.mem_signedDecimal member)
      | none =>
          rw [read] at member
          exact .inl (by simpa [chars] using member)

end Parameter

namespace Rule

/-- A rule that a specification can hold. -/
structure Specifiable (rule : Rule) : Prop where
  reads : parse rule.chars = rule
  some : rule.chars ≠ []
  whole : '|' ∉ rule.chars

/-! ## The text of a rule that was read -/

theorem mem_chars_parse
    {token : List Char} {char : Char}
    (member : char ∈ (parse token).chars) :
    char ∈ token ∨ char = '-' ∨ char.isDigit = true := by
  have kept : ∀ other ∈ Text.trim token, other ∈ token := fun _ => Text.mem_of_mem_trim
  unfold parse at member
  generalize Text.trim token = text at member kept
  by_cases cut : ':' ∈ text
  · obtain ⟨name, raw, rfl, uncut⟩ := List.eq_append_cons_of_mem cut
    rw [ofTrimmed_cut raw uncut, chars_some, Kind.name_ofName, String.toList_ofList,
      List.mem_append, List.mem_cons] at member
    rcases member with inName | colon | inParameter
    · exact .inl (kept char (by simp [inName]))
    · exact .inl (kept char (by simp [colon]))
    · exact (Parameter.mem_chars_parse inParameter).imp_left fun inRaw =>
        kept char (by simp [inRaw])
  · rw [ofTrimmed_of_not_mem cut, chars_none, Kind.name_ofName, String.toList_ofList] at member
    exact .inl (kept char member)

theorem chars_ofTrimmed_eq_nil_iff (text : List Char) :
    (ofTrimmed text).chars = [] ↔ text = [] := by
  by_cases cut : ':' ∈ text
  · obtain ⟨name, raw, rfl, uncut⟩ := List.eq_append_cons_of_mem cut
    rw [ofTrimmed_cut raw uncut, chars_some]
    simp
  · rw [ofTrimmed_of_not_mem cut, chars_none, Kind.name_ofName, String.toList_ofList]

theorem chars_parse_eq_nil_iff (token : List Char) :
    (parse token).chars = [] ↔ Text.allBlank token = true := by
  rw [parse, chars_ofTrimmed_eq_nil_iff, Text.trim_eq_nil_iff]

/-- A token of a specification is read as a rule that a specification can hold. -/
theorem specifiable_parse
    {token : List Char}
    (written : Text.allBlank token = false)
    (whole : '|' ∉ token) :
    (parse token).Specifiable where
  reads := (canonical_parse token).parse_chars
  some := by
    rw [ne_eq, chars_parse_eq_nil_iff, written]
    decide
  whole := by
    intro bar
    rcases mem_chars_parse bar with inToken | minus | digit
    · exact whole inToken
    · exact absurd minus (by decide)
    · exact absurd digit (by decide)

/-- The text of a rule that a specification can hold is not blank, so that it is not
dropped. -/
theorem Specifiable.not_allBlank {rule : Rule} (specifiable : rule.Specifiable) :
    Text.allBlank rule.chars = false := by
  rw [← Bool.not_eq_true, ← chars_parse_eq_nil_iff, specifiable.reads]
  exact specifiable.some

/-! ## Specifications -/

theorem specifiable_of_mem_parseSpec
    {spec : List Char} {rule : Rule}
    (member : rule ∈ parseSpec spec) :
    rule.Specifiable := by
  obtain ⟨token, kept, rfl⟩ := List.mem_map.1 member
  obtain ⟨isToken, written⟩ := List.mem_filter.1 kept
  exact specifiable_parse (by simpa using written) (Text.of_mem_splitOn isToken).1

theorem parseSpec_of_not_mem {token : List Char} (whole : '|' ∉ token) :
    parseSpec token = if Text.allBlank token then [] else [parse token] := by
  rw [parseSpec, List.splitOn_eq_singleton whole]
  cases blank : Text.allBlank token <;> simp [blank]

theorem parseSpec_intercalate (pieces : List (List Char)) :
    parseSpec (['|'].intercalate pieces) = pieces.flatMap parseSpec := by
  induction pieces with
  | nil => exact parseSpec_of_allBlank rfl
  | cons piece rest inductionHypothesis =>
      cases rest with
      | nil => simp [List.intercalate]
      | cons next more =>
          rw [List.intercalate_cons_cons, List.append_assoc, List.singleton_append,
            parseSpec_append, inductionHypothesis]
          exact List.flatMap_cons.symm

/-- A text that starts with a keyword and a colon is a rule of that keyword. Only blanks at
its end are lost. -/
theorem parse_keyword (keyword : Keyword) (raw : List Char) :
    parse (keyword.name.toList ++ ':' :: raw) =
      { kind := .builtIn keyword
        parameter := some (Parameter.parse keyword.form (Text.trimEnd raw)) } := by
  have canonical := Kind.Canonical.builtIn keyword
  have uncut : ':' ∉ keyword.name.toList := canonical.colon_not_mem
  have bare : Text.isBlank ':' = false := by decide
  have flush : ¬ Text.StartsBlank (keyword.name.toList ++ ':' :: raw) := by
    rw [Text.startsBlank_append_cons _ _ bare]
    exact canonical.not_startsBlank
  have trimmed : Text.trim (keyword.name.toList ++ ':' :: raw) =
      keyword.name.toList ++ ':' :: Text.trimEnd raw := by
    rw [Text.trim, Text.trimStart_eq_self flush, Text.trimEnd_append_cons _ _ bare]
  rw [parse, trimmed, ofTrimmed_cut _ uncut, String.ofList_toList, Kind.ofName_name_builtIn,
    Kind.form]

/-- A specification that starts with a keyword and a colon, and holds no bar, is one rule
of that keyword. -/
theorem parseSpec_keyword
    (keyword : Keyword)
    {raw : List Char}
    (whole : '|' ∉ raw) :
    parseSpec (keyword.name.toList ++ ':' :: raw) =
      [{ kind := .builtIn keyword
         parameter := some (Parameter.parse keyword.form (Text.trimEnd raw)) }] := by
  have one : '|' ∉ keyword.name.toList ++ ':' :: raw := by
    have unbarred : '|' ∉ keyword.name.toList := fun bar => (keyword.name_plain '|' bar).2.2 rfl
    simp [unbarred, whole]
  have bare : Text.isBlank ':' = false := by decide
  have written : Text.allBlank (keyword.name.toList ++ ':' :: raw) = false := by
    simp [Text.allBlank, bare]
  rw [parseSpec_of_not_mem one, written, if_neg Bool.false_ne_true, parse_keyword]

/-- The rules of a field whose specification is one keyword with its parameter. -/
theorem rules_keyword
    (keyword : Keyword)
    {raw : String}
    (whole : '|' ∉ raw.toList) :
    (RuleSource.declared (keyword.name ++ ":" ++ raw)).rules =
      [{ kind := .builtIn keyword
         parameter := some (Parameter.parse keyword.form (Text.trimEnd raw.toList)) }] := by
  have written : (keyword.name ++ ":" ++ raw).toList =
      keyword.name.toList ++ ':' :: raw.toList := by simp
  rw [RuleSource.rules, written, parseSpec_keyword keyword whole]

/-- A numeral of any form behind a keyword with a scalar is the integer that it writes. -/
theorem rules_numeral
    {keyword : Keyword} {text : String} {number : Int64}
    (scalar : keyword.form = .scalar)
    (writes : Text.Writes text.toList number.toInt) :
    (RuleSource.declared (keyword.name ++ ":" ++ text)).rules =
      [{ kind := .builtIn keyword, parameter := some (.integer number) }] := by
  have whole : '|' ∉ text.toList := fun bar => absurd (writes.of_mem bar) (by decide)
  rw [rules_keyword keyword whole, Text.trimEnd_eq_self writes.not_endsBlank, scalar,
    Parameter.parse, (Text.int64?_eq_some_iff text.toList number).2 writes]

theorem Specifiable.parseSpec_chars {rule : Rule} (specifiable : rule.Specifiable) :
    parseSpec rule.chars = [rule] := by
  rw [parseSpec_of_not_mem specifiable.whole, specifiable.not_allBlank,
    if_neg Bool.false_ne_true, specifiable.reads]

theorem parseSpec_specChars
    {rules : List Rule}
    (specifiable : ∀ rule ∈ rules, rule.Specifiable) :
    parseSpec (specChars rules) = rules :=
  calc
    parseSpec (specChars rules) = rules.flatMap fun rule => parseSpec rule.chars := by
      rw [specChars, parseSpec_intercalate, List.flatMap_map]
    _ = rules.flatMap fun rule => [rule] :=
      List.flatMap_congr fun rule isRule => (specifiable rule isRule).parseSpec_chars
    _ = rules := List.flatMap_singleton' rules

/-- **The specification of some rules reads back exactly if a specification can hold
each of them, and reading leads to no other rules.** The rules come back all and in
order, so that writing what was read and reading it again changes nothing. -/
theorem parseSpec_specChars_iff :
    (∀ rules : List Rule,
      parseSpec (specChars rules) = rules ↔ ∀ rule ∈ rules, rule.Specifiable) ∧
    (∀ spec : String, ∀ rule ∈ parseSpec spec.toList, rule.Specifiable) ∧
    (∀ spec : String,
      parseSpec (specChars (parseSpec spec.toList)) = parseSpec spec.toList) := by
  refine ⟨?_, fun spec rule => specifiable_of_mem_parseSpec, ?_⟩
  · intro rules
    constructor
    · intro same rule member
      rw [← same] at member
      exact specifiable_of_mem_parseSpec member
    · exact parseSpec_specChars
  · intro spec
    exact parseSpec_specChars fun rule => specifiable_of_mem_parseSpec

end Rule

end Fieldwise
