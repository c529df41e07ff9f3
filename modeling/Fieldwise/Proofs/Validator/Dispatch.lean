import Mathlib.Data.Finset.Card
import Fieldwise.Proofs.BuiltIn.Outcome
import Fieldwise.Proofs.Rule.Canonical
import Fieldwise.Proofs.Validator.Assembly

/-!
Contract: which predicate evaluates a rule.

Owns: the predicate that registrations leave behind a kind, the name in the text of a
rule, and the proof that rules go to the predicate that was registered last for the kind
that their text names.

Does **not** own: the evaluation of a rule by a given predicate
(`Fieldwise.Proofs.Engine.Outcome`).

A keyword and a kind made of its name are different kinds with one name. Text that holds
the name leads to the keyword, so that registering under the other kind reaches only
rules that were made without text.
-/

set_option autoImplicit false

namespace Fieldwise

/-! ## The name in a text -/

namespace Kind

theorem ofName_eq_builtIn_iff (name : String) (keyword : Keyword) :
    ofName name = .builtIn keyword ↔ keyword.name = name := by
  constructor
  · intro read
    rw [← name_ofName name, read]
    rfl
  · rintro rfl
    exact ofName_name_builtIn keyword

theorem ofName_eq_other_iff (name other : String) :
    ofName name = .other other ↔ name = other ∧ ∀ keyword : Keyword, keyword.name ≠ name := by
  constructor
  · intro read
    constructor
    · rw [← name_ofName name, read]
      rfl
    · intro keyword same
      rw [(ofName_eq_builtIn_iff name keyword).2 same] at read
      cases read
  · rintro ⟨rfl, unreserved⟩
    cases kind : ofName name with
    | builtIn keyword =>
        exact absurd ((ofName_eq_builtIn_iff name keyword).1 kind) (unreserved keyword)
    | other read => rw [← name_ofName name, kind, Kind.name]

end Kind

namespace Rule

/-- The name in the text of a rule: what stands before the first colon once the blanks
around the text are gone, or all of it where it has no colon. -/
def Names (token : List Char) (name : String) : Prop :=
  ':' ∉ name.toList ∧
    (Text.trim token = name.toList ∨ ∃ raw, Text.trim token = name.toList ++ ':' :: raw)

theorem exists_names (token : List Char) : ∃ name, Names token name := by
  by_cases cut : ':' ∈ Text.trim token
  · obtain ⟨name, raw, text, uncut⟩ := List.eq_append_cons_of_mem cut
    exact ⟨String.ofList name, by simpa using uncut, .inr ⟨raw, by simpa using text⟩⟩
  · exact ⟨String.ofList (Text.trim token), by simpa using cut, .inl (by simp)⟩

theorem kind_parse {token : List Char} {name : String} (names : Names token name) :
    (parse token).kind = Kind.ofName name := by
  obtain ⟨uncut, whole | ⟨raw, text⟩⟩ := names
  · rw [parse, whole, ofTrimmed_of_not_mem uncut, String.ofList_toList]
  · rw [parse, text, ofTrimmed_cut raw uncut, String.ofList_toList]

theorem kind_parse_eq_builtIn_iff (token : List Char) (keyword : Keyword) :
    (parse token).kind = .builtIn keyword ↔ Names token keyword.name := by
  constructor
  · intro read
    obtain ⟨name, names⟩ := exists_names token
    rw [kind_parse names, Kind.ofName_eq_builtIn_iff] at read
    exact read ▸ names
  · intro names
    rw [kind_parse names, Kind.ofName_name_builtIn]

theorem kind_parse_eq_other_iff (token : List Char) (name : String) :
    (parse token).kind = .other name ↔
      Names token name ∧ ∀ keyword : Keyword, keyword.name ≠ name := by
  constructor
  · intro read
    obtain ⟨found, names⟩ := exists_names token
    rw [kind_parse names, Kind.ofName_eq_other_iff] at read
    obtain ⟨rfl, unreserved⟩ := read
    exact ⟨names, unreserved⟩
  · rintro ⟨names, unreserved⟩
    rw [kind_parse names, Kind.ofName_eq_other_iff]
    exact ⟨rfl, unreserved⟩

/-- Text never leads to a kind made of the name of a keyword. -/
theorem kind_parse_ne_other_name (token : List Char) (keyword : Keyword) :
    (parse token).kind ≠ .other keyword.name := by
  intro read
  exact ((kind_parse_eq_other_iff token keyword.name).1 read).2 keyword rfl

end Rule

/-! ## The predicate behind a kind -/

namespace Catalogue

/-- The predicate behind a kind after some registrations over the built-in predicates. -/
inductive Behind
    [Libraries]
    (reachability : Reachability)
    (timeout : Duration)
    (registered : List (Kind × Predicate))
    (kind : Kind) :
    Option Predicate → Prop where
  /-- The last one that was registered for the kind. -/
  | registered {before after : List (Kind × Predicate)} {predicate : Predicate}
      (cut : registered = before ++ (kind, predicate) :: after)
      (last : ∀ later ∈ after, later.1 ≠ kind) :
      Behind reachability timeout registered kind (some predicate)
  | keyword {keyword : Keyword}
      (reserved : kind = .builtIn keyword)
      (untouched : ∀ entry ∈ registered, entry.1 ≠ kind) :
      Behind reachability timeout registered kind
        (some (Predicate.ofKeyword reachability timeout keyword))
  | nothing {name : String}
      (own : kind = .other name)
      (untouched : ∀ entry ∈ registered, entry.1 ≠ kind) :
      Behind reachability timeout registered kind none

theorem registerAll_eq_insertAll
    (catalogue : Catalogue)
    (predicates : List (Kind × Predicate)) :
    catalogue.registerAll predicates = catalogue.insertAll predicates :=
  rfl

variable [Libraries] {reachability : Reachability} {timeout : Duration}
  {registered : List (Kind × Predicate)} {kind : Kind}

theorem Behind.get?_eq
    {found : Option Predicate}
    (behind : Behind reachability timeout registered kind found) :
    ((builtIn reachability timeout).registerAll registered).get? kind = found := by
  rw [registerAll_eq_insertAll]
  cases behind with
  | @registered before after predicate cut last =>
      rw [cut]
      exact Table.get?_insertAll_of_last before _ predicate last
  | keyword reserved untouched =>
      subst reserved
      exact (Table.get?_insertAll_of_absent _ untouched).trans
        (builtIn_get?_keyword reachability timeout _)
  | nothing own untouched =>
      subst own
      exact (Table.get?_insertAll_of_absent _ untouched).trans
        (builtIn_get?_other reachability timeout _)

theorem exists_behind
    (reachability : Reachability)
    (timeout : Duration)
    (registered : List (Kind × Predicate))
    (kind : Kind) :
    ∃ found, Behind reachability timeout registered kind found := by
  rcases Table.absent_or_exists_last registered kind with
    untouched | ⟨before, predicate, after, cut, last⟩
  · cases shape : kind with
    | builtIn keyword => exact ⟨_, .keyword rfl (shape ▸ untouched)⟩
    | other name => exact ⟨_, .nothing rfl (shape ▸ untouched)⟩
  · exact ⟨_, .registered cut last⟩

theorem get?_eq_iff_behind (found : Option Predicate) :
    ((builtIn reachability timeout).registerAll registered).get? kind = found ↔
      Behind reachability timeout registered kind found := by
  constructor
  · rintro rfl
    obtain ⟨found, behind⟩ := exists_behind reachability timeout registered kind
    rwa [behind.get?_eq]
  · exact Behind.get?_eq

theorem error?_eq_iff_behind
    (rule : Rule)
    (value : Value)
    (context : RuleContext)
    (outcome : Option FieldError) :
    ((builtIn reachability timeout).registerAll registered).error? rule value context =
        outcome ↔
      ∃ found, Behind reachability timeout registered rule.kind found ∧
        Outcome context.field value rule context.companion found outcome := by
  rw [← outcome_iff_error?_eq]
  constructor
  · intro led
    exact ⟨_, (get?_eq_iff_behind _).1 rfl, led⟩
  · rintro ⟨found, behind, led⟩
    rwa [behind.get?_eq]

omit [Libraries] in
/-- A registration changes no error of a rule of another kind. -/
theorem error?_registerAll_drop
    (catalogue : Catalogue)
    (before after : List (Kind × Predicate))
    (predicate : Predicate)
    {rule : Rule}
    (apart : rule.kind ≠ kind)
    (value : Value)
    (context : RuleContext) :
    (catalogue.registerAll (before ++ (kind, predicate) :: after)).error? rule value context =
      (catalogue.registerAll (before ++ after)).error? rule value context := by
  have found := Table.get?_insertAll_drop before after catalogue predicate apart
  rw [error?, error?, registerAll_eq_insertAll, registerAll_eq_insertAll, found]

theorem mem_keys_builtIn (kind : Kind) :
    kind ∈ (builtIn reachability timeout).keys ↔ kind ∈ Keyword.all.map Kind.builtIn := by
  refine (Table.mem_keys_insertAll _ Table.empty kind).trans ?_
  rw [List.map_map]
  exact or_iff_right List.not_mem_nil

theorem size_registerAll_builtIn :
    ((builtIn reachability timeout).registerAll registered).size =
      (Keyword.all.map Kind.builtIn ++ registered.map Prod.fst).toFinset.card := by
  let catalogue := (builtIn reachability timeout).registerAll registered
  -- Keys do not repeat, so that to count entries is to count the kinds among the keys.
  have kinds : (Keyword.all.map Kind.builtIn ++ registered.map Prod.fst).toFinset =
      catalogue.keys.toFinset := by
    ext kind
    rw [List.mem_toFinset, List.mem_toFinset, List.mem_append, ← mem_keys_builtIn]
    exact (Table.mem_keys_insertAll registered _ kind).symm
  have distinct : catalogue.keys.Nodup := catalogue.nodup
  rw [kinds, List.toFinset_card_of_nodup distinct]
  exact (List.length_map _).symm

omit [Libraries] in
/-- The predicate that was registered last for a keyword evaluates every text that names
the keyword. -/
theorem error?_parse_of_last
    (catalogue : Catalogue)
    (before : List (Kind × Predicate))
    {after : List (Kind × Predicate)} {keyword : Keyword} {token : List Char}
    (predicate : Predicate)
    (last : ∀ later ∈ after, later.1 ≠ .builtIn keyword)
    (names : Rule.Names token keyword.name) :
    (catalogue.registerAll (before ++ (.builtIn keyword, predicate) :: after)).error?
        (Rule.parse token) =
      predicate.error? (Rule.parse token) := by
  have kind := (Rule.kind_parse_eq_builtIn_iff token keyword).2 names
  have found := Table.get?_insertAll_of_last before catalogue predicate last
  funext value context
  rw [error?, registerAll_eq_insertAll, kind, found]

end Catalogue

namespace Validator

theorem catalogue_afterAll_assemble [Libraries] (settings : List Setting) (calls : List Call) :
    let builder := Builder.initial.setAll settings
    (builder.assemble.afterAll calls).catalogue =
      (Catalogue.builtIn builder.reachability builder.config.activeUrlTimeout).registerAll
        (settings.filterMap Setting.predicate? ++ predicates calls) := by
  intro builder
  have added : builder.predicates = settings.filterMap Setting.predicate? := by
    rw [show builder = _ from Builder.setAll_eq _ _]
    rfl
  rw [afterAll_eq, ← added]
  exact List.foldl_append.symm

end Validator

/-- **A rule goes to the predicate that was registered last for its kind, and text that
holds the name of a keyword means the keyword.** After any registrations over the
built-in predicates, the predicate behind a kind is the last one that was registered for
it, else the built-in one, else there is none; and the catalogue has one entry for each
kind that ever had a predicate. A registration shows in the errors of rules of its own
kind only: under the name of a keyword it shows in no rule that is read from text, and
under a keyword it replaces the built-in predicate for every text that names the keyword.
Every report of a validator is made by these predicates, whether they came with its
settings or later. -/
theorem Catalogue.rules_go_to_last_registered
    [Libraries]
    (reachability : Reachability)
    (timeout : Duration)
    (registered : List (Kind × Predicate)) :
    let catalogue := (builtIn reachability timeout).registerAll registered
    (∀ kind found,
      catalogue.get? kind = found ↔ Behind reachability timeout registered kind found) ∧
    (∀ rule value context outcome,
      catalogue.error? rule value context = outcome ↔
        ∃ found, Behind reachability timeout registered rule.kind found ∧
          Outcome context.field value rule context.companion found outcome) ∧
    catalogue.size =
      (Keyword.all.map Kind.builtIn ++ registered.map Prod.fst).toFinset.card ∧
    (∀ token,
      (∀ keyword, (Rule.parse token).kind = .builtIn keyword ↔ Rule.Names token keyword.name) ∧
      (∀ name, (Rule.parse token).kind = .other name ↔
        Rule.Names token name ∧ ∀ keyword : Keyword, keyword.name ≠ name)) ∧
    (∀ before kind predicate after,
      registered = before ++ (kind, predicate) :: after →
        let without := (builtIn reachability timeout).registerAll (before ++ after)
        (∀ rule, rule.kind ≠ kind → ∀ value context,
          catalogue.error? rule value context = without.error? rule value context) ∧
        (∀ keyword : Keyword, kind = .other keyword.name → ∀ token value context,
          catalogue.error? (Rule.parse token) value context =
            without.error? (Rule.parse token) value context) ∧
        (∀ keyword : Keyword, kind = .builtIn keyword →
          (∀ later ∈ after, later.1 ≠ kind) →
            ∀ token, Rule.Names token keyword.name → ∀ value context,
              catalogue.error? (Rule.parse token) value context =
                predicate.error? (Rule.parse token) value context)) ∧
    (∀ (settings : List Validator.Setting) (calls : List Validator.Call)
        (source : FieldSource) (report : Report),
      let builder := Validator.Builder.initial.setAll settings
      let validator := builder.assemble.afterAll calls
      validator.validate source = report ↔
        ∃ outcomes : List (Option FieldError),
          List.Forall₂
            (fun (demand : Field × Rule) outcome =>
              ∃ found,
                Behind builder.reachability builder.config.activeUrlTimeout
                  (settings.filterMap Validator.Setting.predicate? ++
                    Validator.predicates calls)
                  demand.2.kind found ∧
                Outcome demand.1.name demand.1.value demand.2
                  (source.companion validator.config.confirmationField) found outcome)
            source.demands outcomes ∧
          report.errors = outcomes.reduceOption) := by
  intro catalogue
  refine ⟨fun kind => get?_eq_iff_behind, error?_eq_iff_behind, size_registerAll_builtIn,
    ?_, ?_, ?_⟩
  · exact fun token =>
      ⟨Rule.kind_parse_eq_builtIn_iff token, Rule.kind_parse_eq_other_iff token⟩
  · rintro before kind predicate after rfl without
    refine ⟨fun rule => error?_registerAll_drop _ before after predicate, ?_, ?_⟩
    · rintro keyword rfl token
      exact error?_registerAll_drop _ before after predicate
        (Rule.kind_parse_ne_other_name token keyword)
    · rintro keyword rfl last token names value context
      exact congrFun (congrFun (error?_parse_of_last _ before predicate last names) value) context
  · intro settings calls source report builder validator
    apply validator.validate_eq_iff_walk source
    intro demand outcome
    rw [show validator.catalogue = _ from
      Validator.catalogue_afterAll_assemble settings calls]
    exact (error?_eq_iff_behind demand.2 demand.1.value ⟨demand.1.name, _⟩ outcome).symm

/-- A predicate for a kind that is only named like a keyword, and one for the keyword. -/
theorem Catalogue.max_goes_to_registered :
    let registered : List (Kind × Predicate) :=
      [(.other "max", Predicate.accepted), (.builtIn .max, Predicate.required)]
    let catalogue := (builtIn Reachability.offline Config.default.activeUrlTimeout).registerAll
      registered
    let rule := Rule.parse " max:2".toList
    catalogue.size = 23 ∧
    Rule.Names " max:2".toList Keyword.max.name ∧
    (∀ value context,
      catalogue.error? rule value context =
        ((builtIn Reachability.offline Config.default.activeUrlTimeout).registerAll
          [(.builtIn .max, Predicate.required)]).error? rule value context) ∧
    (∀ value context,
      catalogue.error? rule value context = Predicate.required.error? rule value context) := by
  intro registered catalogue rule
  have names : Rule.Names " max:2".toList Keyword.max.name :=
    ⟨by decide, .inr ⟨['2'], by decide⟩⟩
  obtain ⟨-, -, size, -, cut, -⟩ :=
    rules_go_to_last_registered Reachability.offline Config.default.activeUrlTimeout registered
  obtain ⟨-, unread, -⟩ := cut [] (.other "max") Predicate.accepted
    [(.builtIn .max, Predicate.required)] rfl
  obtain ⟨-, -, replaces⟩ := cut [(.other "max", Predicate.accepted)] (.builtIn .max)
    Predicate.required [] rfl
  exact ⟨size.trans (by decide), names, unread .max rfl _,
    replaces .max rfl (by simp) _ names⟩

end Fieldwise
