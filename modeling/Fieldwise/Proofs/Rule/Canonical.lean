import Mathlib.Data.List.TakeWhile
import Fieldwise.Proofs.Text.Margin
import Fieldwise.Proofs.Text.Numeral
import Fieldwise.Rule.Basic

/-!
Contract: the rules that their own text gives back.

Owns: canonical rules, the text of one rule cut at its first colon, and the proof that
reading leads to canonical rules only and that those are the rules that survive being
written and read.

Does **not** own: several rules in one text (`Fieldwise.Proofs.Rule.Specification`).

Canonical is said of the kind and the parameter as they are, kind by kind. It is not
said through reading, so that a rule that reads back by accident would refute the
theorem.
-/

set_option autoImplicit false

namespace Fieldwise

/-! ## Canonical rules -/

namespace Kind

/-- The kinds whose parameter is a list of items. -/
def listed : List Kind :=
  [.builtIn .between, .builtIn .oneOf, .builtIn .noneOf]

/-- The kinds whose parameter is text, whatever it looks like. -/
def literal : List Kind :=
  [.builtIn .dateFormat, .builtIn .doesntEndWith, .builtIn .doesntStartWith]

/-- The kinds that rule text can name: the keywords, and other names that hold no colon
and do not begin with a blank. -/
inductive Canonical : Kind → Prop where
  | builtIn (keyword : Keyword) : Canonical (.builtIn keyword)
  | other {name : String}
      (unreserved : ∀ keyword : Keyword, keyword.name ≠ name)
      (uncut : ':' ∉ name.toList)
      (flush : ¬ Text.StartsBlank name.toList) :
      Canonical (.other name)

end Kind

/-- The parameters that rule text can give to a rule of a kind. None ends in a blank. -/
inductive Parameter.Canonical (kind : Kind) : Parameter → Prop where
  | list {items : List String}
      (listed : kind ∈ Kind.listed)
      (some : items ≠ [])
      (uncut : ∀ item ∈ items, ',' ∉ item.toList)
      (flush : ∀ last ∈ items.getLast?, ¬ Text.EndsBlank last.toList) :
      Canonical kind (.list items)
  | literal {content : String}
      (literal : kind ∈ Kind.literal)
      (flush : ¬ Text.EndsBlank content.toList) :
      Canonical kind (.text content)
  | integer (number : Int64)
      (unlisted : kind ∉ Kind.listed)
      (read : kind ∉ Kind.literal) :
      Canonical kind (.integer number)
  /-- Text that looks like a 64-bit integer would be read as one. -/
  | text {content : String}
      (unlisted : kind ∉ Kind.listed)
      (read : kind ∉ Kind.literal)
      (unwritten : ¬ Text.IsInt64Numeral content.toList)
      (flush : ¬ Text.EndsBlank content.toList) :
      Canonical kind (.text content)

namespace Rule

/-- A rule that rule text can lead to. Without parameter its text ends with its name,
which must then not end in a blank. -/
structure Canonical (rule : Rule) : Prop where
  kind : rule.kind.Canonical
  parameter : ∀ parameter, rule.parameter = some parameter → parameter.Canonical rule.kind
  flush : rule.parameter = none → ¬ Text.EndsBlank rule.kind.name.toList

end Rule

/-! ## Kinds -/

namespace Kind

theorem form_eq_list_iff (kind : Kind) : kind.form = .list ↔ kind ∈ listed := by
  cases kind with
  | other name => simp [form, listed]
  | builtIn keyword => cases keyword <;> decide

theorem form_eq_literal_iff (kind : Kind) : kind.form = .literal ↔ kind ∈ literal := by
  cases kind with
  | other name => simp [form, literal]
  | builtIn keyword => cases keyword <;> decide

theorem form_eq_scalar_iff (kind : Kind) :
    kind.form = .scalar ↔ kind ∉ listed ∧ kind ∉ literal := by
  rw [← form_eq_list_iff, ← form_eq_literal_iff]
  cases kind.form <;> simp

end Kind

/-- The name of a keyword holds no blank and no separator. -/
theorem Keyword.name_plain (keyword : Keyword) :
    ∀ char ∈ keyword.name.toList,
      Text.isBlank char = false ∧ char ≠ ':' ∧ char ≠ '|' := by
  have plain : (keyword.name.toList.all fun char =>
      !Text.isBlank char && char != ':' && char != '|') = true := by
    cases keyword <;> rfl
  simpa [and_assoc] using plain

namespace Kind

theorem Canonical.colon_not_mem {kind : Kind} (canonical : kind.Canonical) :
    ':' ∉ kind.name.toList := by
  cases canonical with
  | builtIn keyword => exact fun member => (keyword.name_plain ':' member).2.1 rfl
  | other unreserved uncut flush => exact uncut

theorem Canonical.not_startsBlank {kind : Kind} (canonical : kind.Canonical) :
    ¬ Text.StartsBlank kind.name.toList := by
  cases canonical with
  | builtIn keyword =>
      intro starts
      obtain ⟨char, first, blank⟩ := starts
      simp [(keyword.name_plain char (List.mem_of_mem_head? first)).1] at blank
  | other unreserved uncut flush => exact flush

/-- A canonical kind is the one that its name stands for. -/
theorem Canonical.ofName_name {kind : Kind} (canonical : kind.Canonical) :
    ofName kind.name = kind := by
  cases canonical with
  | builtIn keyword => exact ofName_name_builtIn keyword
  | @other name unreserved uncut flush =>
      have unknown : Keyword.ofName? name = none := by
        apply List.find?_eq_none.2
        intro keyword _
        simpa using unreserved keyword
      rw [ofName, Kind.name, unknown]

/-- A name leads to a canonical kind if it holds no colon and does not begin with a
blank. -/
theorem canonical_ofName
    {name : List Char}
    (uncut : ':' ∉ name)
    (flush : ¬ Text.StartsBlank name) :
    (ofName (String.ofList name)).Canonical := by
  unfold ofName
  cases found : Keyword.ofName? (String.ofList name) with
  | some keyword => exact .builtIn keyword
  | none =>
      refine .other ?_ (by simpa using uncut) (by simpa using flush)
      intro keyword same
      rw [← same, Keyword.ofName?_name] at found
      cases found

end Kind

/-! ## Parameters -/

namespace Parameter

theorem Canonical.not_endsBlank
    {kind : Kind} {parameter : Parameter}
    (canonical : parameter.Canonical kind) :
    ¬ Text.EndsBlank parameter.chars := by
  cases canonical with
  | list listed some uncut flush =>
      rw [chars, Text.endsBlank_intercalate (by decide), List.getLast?_map]
      intro ends
      obtain ⟨chars, last, blank⟩ := ends
      obtain ⟨item, isLast, rfl⟩ := Option.map_eq_some_iff.1 last
      exact flush item isLast blank
  | literal literal flush => exact flush
  | integer number unlisted read =>
      intro ends
      obtain ⟨char, last, blank⟩ := ends
      rcases Text.mem_signedDecimal (List.mem_of_getLast? last) with rfl | digit
      · exact absurd blank (by decide)
      · simp [Text.isBlank_of_isDigit digit] at blank
  | text unlisted read unwritten flush => exact flush

/-- A canonical parameter is read back in the form of its kind. -/
theorem Canonical.parse_chars
    {kind : Kind} {parameter : Parameter}
    (canonical : parameter.Canonical kind) :
    parse kind.form parameter.chars = parameter := by
  cases canonical with
  | @list items listed some uncut flush =>
      rw [(Kind.form_eq_list_iff kind).2 listed, parse, chars, List.splitOn_intercalate]
      · simp [List.map_map, Function.comp_def]
      · simpa using uncut
      · simpa using some
  | literal literal flush =>
      rw [(Kind.form_eq_literal_iff kind).2 literal, parse, chars, String.ofList_toList]
  | integer number unlisted read =>
      rw [(Kind.form_eq_scalar_iff kind).2 ⟨unlisted, read⟩, parse_scalar_chars_integer]
  | text unlisted read unwritten flush =>
      rw [(Kind.form_eq_scalar_iff kind).2 ⟨unlisted, read⟩, parse, chars,
        (Text.int64?_eq_none_iff _).2 unwritten, String.ofList_toList]

/-- Text that does not end in a blank is read as a canonical parameter. -/
theorem canonical_parse
    (kind : Kind)
    {raw : List Char}
    (flush : ¬ Text.EndsBlank raw) :
    (parse kind.form raw).Canonical kind := by
  cases form : kind.form with
  | list =>
      refine .list ((Kind.form_eq_list_iff kind).1 form) ?_ ?_ ?_
      · simp [List.splitOn_ne_nil]
      · intro item member
        obtain ⟨piece, isPiece, rfl⟩ := List.mem_map.1 member
        rw [String.toList_ofList]
        exact (Text.of_mem_splitOn isPiece).1
      · intro item last
        rw [List.getLast?_map] at last
        obtain ⟨piece, isLast, rfl⟩ := Option.map_eq_some_iff.1 last
        rw [String.toList_ofList]
        intro ends
        apply flush
        have whole : [','].intercalate (raw.splitOn ',') = raw := List.intercalate_splitOn ','
        rw [← whole, Text.endsBlank_intercalate (by decide)]
        exact ⟨piece, isLast, ends⟩
  | literal =>
      exact .literal ((Kind.form_eq_literal_iff kind).1 form) (by simpa using flush)
  | scalar =>
      obtain ⟨unlisted, read⟩ := (Kind.form_eq_scalar_iff kind).1 form
      rw [parse]
      cases found : Text.int64? raw with
      | some number => exact .integer number unlisted read
      | none =>
          refine .text unlisted read ?_ (by simpa using flush)
          rw [String.toList_ofList]
          exact (Text.int64?_eq_none_iff raw).1 found

end Parameter

/-! ## Rules -/

namespace Rule

theorem ofTrimmed_of_not_mem {name : List Char} (uncut : ':' ∉ name) :
    ofTrimmed name = ⟨Kind.ofName (String.ofList name), none⟩ := by
  have whole : ∀ char ∈ name, (char != ':') = true := by
    intro char member
    simpa using ne_of_mem_of_not_mem member uncut
  rw [ofTrimmed, List.takeWhile_eq_self_iff.2 whole, List.dropWhile_eq_nil_iff.2 whole]

/-- A text is cut at its first colon. -/
theorem ofTrimmed_cut {name : List Char} (raw : List Char) (uncut : ':' ∉ name) :
    ofTrimmed (name ++ ':' :: raw) =
      ⟨Kind.ofName (String.ofList name),
        some (Parameter.parse (Kind.ofName (String.ofList name)).form raw)⟩ := by
  have whole : ∀ char ∈ name, (char != ':') = true := by
    intro char member
    simpa using ne_of_mem_of_not_mem member uncut
  rw [ofTrimmed, List.takeWhile_append_of_pos whole, List.dropWhile_append_of_pos whole]
  simp

theorem chars_none (kind : Kind) : chars ⟨kind, none⟩ = kind.name.toList :=
  List.append_nil _

theorem chars_some (kind : Kind) (parameter : Parameter) :
    chars ⟨kind, some parameter⟩ = kind.name.toList ++ ':' :: parameter.chars := rfl

theorem Canonical.parse_chars {rule : Rule} (canonical : rule.Canonical) :
    parse rule.chars = rule := by
  obtain ⟨kind, parameter⟩ := rule
  have named : Kind.ofName (String.ofList kind.name.toList) = kind := by
    rw [String.ofList_toList]
    exact canonical.kind.ofName_name
  cases parameter with
  | none =>
      have trimmed : Text.trim kind.name.toList = kind.name.toList :=
        Text.trim_eq_self canonical.kind.not_startsBlank (canonical.flush rfl)
      rw [chars_none, parse, trimmed, ofTrimmed_of_not_mem canonical.kind.colon_not_mem, named]
  | some parameter =>
      have given : parameter.Canonical kind := canonical.parameter parameter rfl
      have trimmed : Text.trim (kind.name.toList ++ ':' :: parameter.chars) =
          kind.name.toList ++ ':' :: parameter.chars := by
        apply Text.trim_eq_self
        · rw [Text.startsBlank_append_cons _ _ (by decide)]
          exact canonical.kind.not_startsBlank
        · rw [Text.endsBlank_append_cons _ _ (by decide)]
          exact given.not_endsBlank
      rw [chars_some, parse, trimmed, ofTrimmed_cut _ canonical.kind.colon_not_mem, named,
        given.parse_chars]

/-- Whatever a text is, it is read as a canonical rule. -/
theorem canonical_parse (token : List Char) : (parse token).Canonical := by
  have front := Text.not_startsBlank_trim token
  have back := Text.not_endsBlank_trim token
  unfold parse
  generalize Text.trim token = text at front back
  by_cases cut : ':' ∈ text
  · obtain ⟨name, raw, rfl, uncut⟩ := List.eq_append_cons_of_mem cut
    rw [Text.startsBlank_append_cons _ _ (by decide)] at front
    rw [Text.endsBlank_append_cons _ _ (by decide)] at back
    rw [ofTrimmed_cut raw uncut]
    refine ⟨Kind.canonical_ofName uncut front, ?_, by simp⟩
    rintro parameter ⟨⟩
    exact Parameter.canonical_parse _ back
  · rw [ofTrimmed_of_not_mem cut]
    refine ⟨Kind.canonical_ofName cut front, by simp, ?_⟩
    intro _
    rw [Kind.name_ofName, String.toList_ofList]
    exact back

/-- **A rule is what its own text is read as exactly if it is canonical, and reading
leads to nothing else.** So writing a rule that was read and reading it again changes
nothing. -/
theorem parse_toText_iff_canonical :
    (∀ rule : Rule, parse rule.toText.toList = rule ↔ rule.Canonical) ∧
    (∀ token : String, (parse token.toList).Canonical) ∧
    (∀ token : String, parse (parse token.toList).toText.toList = parse token.toList) := by
  have written (rule : Rule) : rule.toText.toList = rule.chars := String.toList_ofList
  refine ⟨?_, fun token => canonical_parse token.toList, ?_⟩
  · intro rule
    rw [written]
    constructor
    · intro same
      rw [← same]
      exact canonical_parse rule.chars
    · exact Canonical.parse_chars
  · intro token
    rw [written]
    exact (canonical_parse token.toList).parse_chars

end Rule

end Fieldwise
