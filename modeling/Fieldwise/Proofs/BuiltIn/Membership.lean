import Fieldwise.Proofs.BuiltIn.Single
import Fieldwise.Proofs.Rule.Specification

/-!
Contract: rules that list values, from the text of the rule to the report.

Owns: the report on a text under a rule that lists the values to have or not to have, which
values the text of such a rule lists, and that a scalar is a list of one item to it.

Does **not** own: the pieces of a text between separators (`Fieldwise.Proofs.Text.Margin`),
and rules as canonical texts (`Fieldwise.Proofs.Rule.Canonical`).

A list is cut at every comma and nothing else is done to it. So no item holds a comma, and an
item that is left out is the empty text.
-/

set_option autoImplicit false

namespace Fieldwise

/-! ## Listed values -/

/-- The two ways in which a rule lists values. -/
inductive Listing where
  | allowed
  | forbidden

namespace Listing

def keyword : Listing → Keyword
  | .allowed => .oneOf
  | .forbidden => .noneOf

/-- A value keeps to the listing of some items. -/
def Admits (items : List String) (content : String) : Listing → Prop
  | .allowed => content ∈ items
  | .forbidden => content ∉ items

/-- A listing is of texts, and any parameter lists some. -/
theorem subject_need (listing : Listing) :
    listing.keyword.subject = .text ∧ listing.keyword.need = .items ∧
      listing.keyword ≠ .confirmed ∧ listing.keyword ≠ .required ∧
      listing.keyword ≠ .accepted := by
  cases listing <;> decide

/-- The items of the text of a rule that lists values, if no blanks at its end are lost. -/
theorem parse_eq
    (listing : Listing)
    {items : String}
    (flush : ¬ Text.EndsBlank items.toList) :
    Rule.parse (listing.keyword.name ++ ":" ++ items).toList =
      ⟨.builtIn listing.keyword, some (Parameter.parse .list items.toList)⟩ := by
  have written : (listing.keyword.name ++ ":" ++ items).toList =
      listing.keyword.name.toList ++ ':' :: items.toList := by simp
  have list : listing.keyword.form = .list := by cases listing <;> rfl
  rw [written, Rule.parse_keyword, Text.trimEnd_eq_self flush, list]

theorem passes_iff
    [Libraries]
    (listing : Listing)
    (reachability : Reachability)
    (timeout : Duration)
    (companion : Companion)
    (content : String)
    (given : Parameter) :
    listing.keyword.Passes reachability timeout companion (.text content) (some given) ↔
      listing.Admits given.items content := by
  cases listing <;> simp [keyword, Keyword.Passes, Admits]

/-- The message shows the parameter as its text, however it is held. -/
theorem keywordMessage_eq
    (listing : Listing)
    (name : String)
    {given other : Parameter}
    (same : given.toText = other.toText)
    (value : Value) :
    Report.keywordMessage name listing.keyword ⟨.builtIn listing.keyword, some given⟩ value =
      Report.keywordMessage name listing.keyword ⟨.builtIn listing.keyword, some other⟩
        value := by
  have shown : Rule.parameterText ⟨.builtIn listing.keyword, some given⟩ =
      Rule.parameterText ⟨.builtIn listing.keyword, some other⟩ := same
  unfold Report.keywordMessage
  rw [shown]
  cases listing <;> rfl

end Listing

namespace Parameter

theorem toText_singleton (text : String) : (list [text]).toText = text := by
  simp [toText, chars]

theorem items_of_scalar
    {scalar : Parameter}
    (single : ∀ items, scalar ≠ .list items) :
    scalar.items = [scalar.toText] := by
  cases scalar with
  | integer number => rfl
  | text content => rfl
  | list items => exact absurd rfl (single items)

/-- The items of the text of a list are the texts without a comma that stand between two
commas where the text is put between commas itself. -/
theorem mem_items_parse_iff (raw : List Char) (content : String) :
    content ∈ (parse .list raw).items ↔
      ',' ∉ content.toList ∧ ',' :: (content.toList ++ [',']) <:+: ',' :: (raw ++ [',']) := by
  rw [← Text.mem_splitOn_iff, parse, items, List.mem_map]
  constructor
  · rintro ⟨piece, member, rfl⟩
    rwa [String.toList_ofList]
  · intro member
    exact ⟨content.toList, member, String.ofList_toList⟩

end Parameter

/-- All of an error but its context. -/
def FieldError.bare (error : FieldError) : FieldError :=
  { error with context := none }

namespace Validator

variable (config : Config) (reachability : Reachability) (book : RuleBook)

/-- The report on a text under a rule that lists values. -/
theorem errors_of_listing
    [Libraries]
    (lookup : String → Option Value)
    (name content : String)
    {listing : Listing} {source : RuleSource} {given : Parameter}
    (reads : source.rules = [⟨.builtIn listing.keyword, some given⟩]) :
    let validator := Builder.assemble { config, reachability, predicates := [], rules := book }
    let rule : Rule := ⟨.builtIn listing.keyword, some given⟩
    let errors := (validator.validate ⟨[⟨name, .text content, source⟩], lookup⟩).errors
    (errors = [] ↔ listing.Admits given.items content) ∧
    (errors =
        [.about name rule listing.keyword.name
          (Report.keywordMessage name listing.keyword rule (.text content))] ↔
      ¬ listing.Admits given.items content) := by
  intro validator rule errors
  obtain ⟨subject, needed, alone, -⟩ := listing.subject_need
  have fits : listing.keyword.subject.Fits (.text content) := subject ▸ .text content
  exact errors_of_reads config reachability book lookup name reads rfl (by simp) fits
    (needed ▸ .items given) alone
    fun companion => listing.passes_iff _ _ companion content given

/-- The report on any value under a rule with a scalar is that under the rule with the one
item that the scalar is, but for the context that shows the parameter. -/
theorem errors_of_scalar
    [Libraries]
    (lookup : String → Option Value)
    (name : String)
    (listing : Listing)
    {scalar : Parameter}
    (single : ∀ items, scalar ≠ .list items)
    (value : Value) :
    let validator := Builder.assemble { config, reachability, predicates := [], rules := book }
    let errors (given : Parameter) : List FieldError :=
      (validator.validate
        ⟨[⟨name, value, .registered [⟨.builtIn listing.keyword, some given⟩]⟩], lookup⟩).errors
    (errors scalar).map FieldError.bare =
      (errors (.list [scalar.toText])).map FieldError.bare := by
  intro validator errors
  obtain ⟨subject, -, -, untested⟩ := listing.subject_need
  by_cases null : value = .null
  · have skipped (given : Parameter) : errors given = [] :=
      errors_of_single rfl (.nullSkipped rfl null untested)
    rw [skipped, skipped]
  · by_cases text : Shape.text.Fits value
    · obtain ⟨content⟩ := text
      have report (given : Parameter) :=
        errors_of_listing config reachability book lookup name content
          (show (RuleSource.registered [⟨.builtIn listing.keyword, some given⟩]).rules =
            [⟨.builtIn listing.keyword, some given⟩] from rfl)
      have items : scalar.items = (Parameter.list [scalar.toText]).items :=
        Parameter.items_of_scalar single
      have message := listing.keywordMessage_eq name
        (Parameter.toText_singleton scalar.toText).symm (.text content)
      by_cases admitted : listing.Admits scalar.items content
      · have none : errors scalar = [] := (report scalar).1.2 admitted
        have alsoNone : errors (.list [scalar.toText]) = [] :=
          (report _).1.2 (items ▸ admitted)
        rw [none, alsoNone]
      · have one : errors scalar = [_] := (report scalar).2.2 admitted
        have alsoOne : errors (.list [scalar.toText]) = [_] :=
          (report _).2.2 (items ▸ admitted)
        rw [one, alsoOne, message]
        rfl
    · have mistyped (given : Parameter) : errors given = [_] :=
        errors_of_mistyped config reachability book lookup name rfl rfl subject null text
      rw [mistyped, mistyped]
      rfl

/-- A text with a comma is no value that the text of a rule allows, whatever it lists. -/
theorem errors_of_comma
    [Libraries]
    (lookup : String → Option Value)
    (name : String)
    {token content : String}
    (kind : (Rule.parse token.toList).kind = .builtIn .oneOf)
    (comma : ',' ∈ content.toList) :
    let validator := Builder.assemble { config, reachability, predicates := [], rules := book }
    (validator.validate
      ⟨[⟨name, .text content, .registered [Rule.parse token.toList]⟩], lookup⟩).errors ≠ [] := by
  intro validator accepted
  have canonical := Rule.canonical_parse token.toList
  generalize Rule.parse token.toList = rule at kind canonical accepted
  obtain ⟨ruleKind, parameter⟩ := rule
  obtain rfl : ruleKind = .builtIn .oneOf := kind
  have listed : Kind.builtIn .oneOf ∈ Kind.listed := by decide
  have notLiteral : Kind.builtIn .oneOf ∉ Kind.literal := by decide
  cases parameter with
  | none =>
      have fits : Keyword.oneOf.subject.Fits (.text content) :=
        Listing.allowed.subject_need.1 ▸ .text content
      have faulty : (validator.validate
          ⟨[⟨name, .text content, .registered [⟨.builtIn .oneOf, none⟩]⟩], lookup⟩).errors =
            [_] :=
        errors_of_single rfl (.misconfigured rfl (by simp) fits (.missing (by decide)))
      rw [accepted] at faulty
      cases faulty
  | some given =>
      have allowed : content ∈ given.items :=
        (errors_of_listing config reachability book lookup name content
          (show (RuleSource.registered [⟨.builtIn Listing.allowed.keyword, some given⟩]).rules =
            [⟨.builtIn Listing.allowed.keyword, some given⟩] from rfl)).1.1 accepted
      cases canonical.parameter given rfl with
      | list _ _ uncut _ => exact uncut content allowed comma
      | literal literal _ => exact notLiteral literal
      | integer _ unlisted _ => exact unlisted listed
      | text unlisted _ _ _ => exact unlisted listed

/-- **A rule that lists values lists the pieces of its text.** A text is one of them exactly
if it holds no comma and stands between two commas where the text of the list is put between
commas itself. So no item is trimmed or changed in another way, no text with a comma is
allowed by any text of a rule, and a list with a gap allows the empty text. The rule that
forbids the same items decides the other way. A parameter that is an integer or a text is
reported on as the list of the one item that it is written as. -/
theorem listed_values_are_pieces
    [Libraries]
    (lookup : String → Option Value)
    (name : String) :
    let validator := Builder.assemble { config, reachability, predicates := [], rules := book }
    let errors (value : Value) (rule : Rule) : List FieldError :=
      (validator.validate ⟨[⟨name, value, .registered [rule]⟩], lookup⟩).errors
    let refusal (keyword : Keyword) (rule : Rule) (content : String) : FieldError :=
      .about name rule keyword.name (Report.keywordMessage name keyword rule (.text content))
    (∀ items content : String, ¬ Text.EndsBlank items.toList →
      let allowed : Rule := Rule.parse ("in:" ++ items).toList
      let forbidden : Rule := Rule.parse ("notIn:" ++ items).toList
      (errors (.text content) allowed = [] ↔
        ',' ∉ content.toList ∧
          ',' :: (content.toList ++ [',']) <:+: ',' :: (items.toList ++ [','])) ∧
      (errors (.text content) forbidden = [] ↔ ¬ errors (.text content) allowed = []) ∧
      (errors (.text content) allowed = [refusal .oneOf allowed content] ↔
        ¬ errors (.text content) allowed = []) ∧
      (errors (.text content) forbidden = [refusal .noneOf forbidden content] ↔
        errors (.text content) allowed = [])) ∧
    (∀ token content : String, (Rule.parse token.toList).kind = .builtIn .oneOf →
      ',' ∈ content.toList → errors (.text content) (Rule.parse token.toList) ≠ []) ∧
    (∀ scalar : Parameter, (∀ items, scalar ≠ .list items) →
      (∀ keyword ∈ [Keyword.oneOf, .noneOf], ∀ value,
        (errors value ⟨.builtIn keyword, some scalar⟩).map FieldError.bare =
          (errors value ⟨.builtIn keyword, some (.list [scalar.toText])⟩).map
            FieldError.bare) ∧
      (∀ content,
        (errors (.text content) ⟨.builtIn .oneOf, some scalar⟩ = [] ↔
          content = scalar.toText) ∧
        (errors (.text content) ⟨.builtIn .noneOf, some scalar⟩ = [] ↔
          content ≠ scalar.toText))) := by
  intro validator errors refusal
  have report (listing : Listing) (given : Parameter) (content : String) :=
    errors_of_listing config reachability book lookup name content
      (show (RuleSource.registered [⟨.builtIn listing.keyword, some given⟩]).rules =
        [⟨.builtIn listing.keyword, some given⟩] from rfl)
  refine ⟨?_, ?_, ?_⟩
  · intro items content flush allowed forbidden
    let listed : Parameter := Parameter.parse .list items.toList
    have allows : allowed = ⟨.builtIn .oneOf, some listed⟩ := Listing.allowed.parse_eq flush
    have forbids : forbidden = ⟨.builtIn .noneOf, some listed⟩ :=
      Listing.forbidden.parse_eq flush
    obtain ⟨allowedPasses, allowedFails⟩ := report .allowed listed content
    obtain ⟨forbiddenPasses, forbiddenFails⟩ := report .forbidden listed content
    have passes : errors (.text content) allowed = [] ↔ content ∈ listed.items := by
      rw [allows]
      exact allowedPasses
    refine ⟨?_, ?_, ?_, ?_⟩
    · rw [passes, Parameter.mem_items_parse_iff]
    · rw [passes, forbids]
      exact forbiddenPasses
    · rw [passes, allows]
      exact allowedFails
    · rw [passes, forbids]
      exact forbiddenFails.trans not_not
  · intro token content kind comma
    exact errors_of_comma config reachability book lookup name kind comma
  · intro scalar single
    have items : scalar.items = [scalar.toText] := Parameter.items_of_scalar single
    constructor
    · intro keyword member value
      obtain ⟨listing, rfl⟩ : ∃ listing : Listing, listing.keyword = keyword := by
        rcases List.mem_pair.1 member with rfl | rfl
        · exact ⟨.allowed, rfl⟩
        · exact ⟨.forbidden, rfl⟩
      exact errors_of_scalar config reachability book lookup name listing single value
    · intro content
      have allowed := (report .allowed scalar content).1
      have forbidden := (report .forbidden scalar content).1
      rw [items] at allowed forbidden
      exact ⟨allowed.trans List.mem_singleton, forbidden.trans (not_congr List.mem_singleton)⟩

/-- A list with a colon, a gap and a blank in its items, a text with a comma, and an integer
as a parameter. -/
theorem listed_blank_is_kept :
    let errors (content : String) (rule : Rule) : List FieldError :=
      (Validator.default.validate
        ⟨[⟨"Tag", .text content, .registered [rule]⟩], fun _ => none⟩).errors
    let allowed : Rule := Rule.parse "in::a,, B".toList
    let forbidden : Rule := Rule.parse "notIn::a,, B".toList
    ¬ Text.EndsBlank ":a,, B".toList ∧
    errors "" allowed = [] ∧
    errors " B" allowed = [] ∧
    errors "B" allowed =
      [.about "Tag" allowed "in"
        "Value 'B' is not allowed for Tag. Allowed values are: :a,, B"] ∧
    errors ":a" forbidden =
      [.about "Tag" forbidden "notIn"
        "Value ':a' is not allowed for Tag. Must not be one of: :a,, B"] ∧
    errors "a,b" (Rule.parse " in:a,b ".toList) ≠ [] ∧
    errors "-7" ⟨.builtIn .oneOf, some (.integer (-7))⟩ = [] := by
  intro errors allowed forbidden
  obtain ⟨texts, commas, scalars⟩ := listed_values_are_pieces Config.default
    Reachability.offline Table.empty (fun _ => none) "Tag"
  have flush : ¬ Text.EndsBlank ":a,, B".toList := by
    rintro ⟨char, last, blank⟩
    obtain rfl : 'B' = char := by simpa using last
    exact absurd blank (by decide)
  have verdict (content : String) := texts ":a,, B" content flush
  have gap : errors "" allowed = [] := (verdict "").1.2 (by simp [List.infix_cons_iff])
  have blank : errors " B" allowed = [] :=
    (verdict " B").1.2 (by simp [List.infix_cons_iff])
  have absent : ¬ ',' :: ("B".toList ++ [',']) <:+: ',' :: (":a,, B".toList ++ [',']) := by
    simp [List.infix_cons_iff]
  have trimmed : ¬ errors "B" allowed = [] := fun passes => absent ((verdict "B").1.1 passes).2
  have colon : errors ":a" allowed = [] :=
    (verdict ":a").1.2 (by simp [List.infix_cons_iff])
  obtain ⟨-, -, refused, -⟩ := verdict "B"
  obtain ⟨-, -, -, kept⟩ := verdict ":a"
  have integer := (scalars (.integer (-7)) (by simp)).2 "-7"
  exact ⟨flush, gap, blank, refused.2 trimmed, kept.2 colon,
    commas " in:a,b " "a,b" (by decide) (by decide), integer.1.2 (by decide)⟩

end Validator

end Fieldwise
