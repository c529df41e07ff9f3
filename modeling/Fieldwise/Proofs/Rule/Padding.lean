import Fieldwise.Proofs.Book
import Fieldwise.Proofs.Rule.Specification

/-!
Contract: specifications put together from others.

Owns: the rules of two specifications with a bar between them, blanks around the tokens of
a specification and blank tokens, specifications without a rule, and what all of this means
for a book in which specifications are registered.

Does **not** own: which rule a token is read as (`Fieldwise.Proofs.Rule.Canonical`).

Every statement on specifications is proved for texts without a bar and carried over a bar,
on both sides of which a specification stands.
-/

set_option autoImplicit false

namespace Fieldwise

namespace Rule

/-- Blanks at the ends of a specification belong to no rule. -/
theorem parseSpec_pad (before : Text.Blanks) (spec : List Char) (after : Text.Blanks) :
    parseSpec (before.chars ++ spec ++ after.chars) = parseSpec spec := by
  induction spec using Text.induction_on_cuts '|' generalizing before after with
  | whole token absent =>
      have bare : Text.isBlank '|' = false := by decide
      have absentPadded : '|' ∉ before.chars ++ token ++ after.chars := by
        simp [absent, before.not_mem_of_bare bare, after.not_mem_of_bare bare]
      rw [parseSpec_of_not_mem absentPadded, parseSpec_of_not_mem absent, Text.allBlank_append,
        Text.allBlank_append, before.blank, after.blank, Bool.true_and, Bool.and_true, parse,
        parse, Text.trim_pad]
  | cut front back frontHypothesis backHypothesis =>
      calc
        parseSpec (before.chars ++ (front ++ '|' :: back) ++ after.chars) =
            parseSpec (before.chars ++ front ++ '|' :: (back ++ after.chars)) := by simp
        _ = parseSpec (before.chars ++ front ++ Text.Blanks.none.chars) ++
              parseSpec (Text.Blanks.none.chars ++ back ++ after.chars) := by
            rw [parseSpec_append, Text.Blanks.none, List.append_nil, List.nil_append]
        _ = parseSpec front ++ parseSpec back := by
            rw [frontHypothesis before .none, backHypothesis .none after]
        _ = parseSpec (front ++ '|' :: back) := (parseSpec_append front back).symm

theorem parseSpec_bar (left right : String) :
    parseSpec (left ++ "|" ++ right).toList = parseSpec left.toList ++ parseSpec right.toList := by
  rw [← parseSpec_append]
  simp

/-- A specification without a rule is made of bars and blanks. -/
theorem parseSpec_eq_nil_iff (spec : List Char) :
    parseSpec spec = [] ↔ ∀ char ∈ spec, char = '|' ∨ Text.isBlank char = true := by
  induction spec using Text.induction_on_cuts '|' with
  | whole token absent =>
      have unbarred : (∀ char ∈ token, char = '|' ∨ Text.isBlank char = true) ↔
          Text.allBlank token = true := by
        rw [Text.allBlank, List.all_eq_true]
        refine forall₂_congr fun char member => or_iff_right ?_
        rintro rfl
        exact absent member
      rw [parseSpec_of_not_mem absent, unbarred]
      simp
  | cut front back frontHypothesis backHypothesis =>
      rw [parseSpec_append, List.append_eq_nil_iff, frontHypothesis, backHypothesis]
      simp [or_imp, forall_and]

/-! ## Pieces between bars -/

/-- What may stand between two bars: a token among blanks, or blanks alone. -/
inductive Piece where
  | token (before : Text.Blanks) (text : List Char) (after : Text.Blanks)
  | filler (blanks : Text.Blanks)

namespace Piece

def chars : Piece → List Char
  | token before text after => before.chars ++ text ++ after.chars
  | filler blanks => blanks.chars

/-- The token of a piece, without what stands around it. -/
def bare? : Piece → Option (List Char)
  | token _ text _ => some text
  | filler _ => none

theorem parseSpec_chars (piece : Piece) :
    parseSpec piece.chars = piece.bare?.toList.flatMap parseSpec := by
  cases piece with
  | token before text after =>
      rw [bare?, Option.toList_some, List.flatMap_singleton]
      exact parseSpec_pad before text after
  | filler blanks => exact parseSpec_of_allBlank blanks.blank

end Piece

/-- Neither blanks around tokens nor blank tokens matter to a specification. -/
theorem parseSpec_pieces (pieces : List Piece) :
    parseSpec (['|'].intercalate (pieces.map Piece.chars)) =
      parseSpec (['|'].intercalate (pieces.filterMap Piece.bare?)) := by
  rw [parseSpec_intercalate, parseSpec_intercalate]
  induction pieces with
  | nil => rfl
  | cons piece rest inductionHypothesis =>
      rw [List.map_cons, List.flatMap_cons, inductionHypothesis, piece.parseSpec_chars]
      cases bare : piece.bare? <;> simp [bare]

end Rule

/-! ## Registrations -/

namespace RuleBook

theorem rulesFor_map_single (name field : String) (rules : List Rule) :
    Registration.rulesFor name (rules.map (.single field)) =
      if field = name then rules else [] := by
  rw [Registration.rulesFor, List.flatMap_map]
  by_cases named : field = name <;> simp [Registration.field, Registration.rules, named]

/-- Registering rules one by one makes a field present only by its first rule. -/
theorem get?_registerAll_single (book : RuleBook) (name field : String) (rules : List Rule) :
    (book.registerAll (rules.map (.single field))).get? name =
      if field = name ∧ rules ≠ [] then some (book.rulesOf name ++ rules)
      else book.get? name := by
  have named : name ∈ (rules.map (.single field)).map Registration.field ↔
      field = name ∧ rules ≠ [] := by
    cases rules <;> simp [Registration.field, eq_comm]
  rw [get?_registerAll, rulesFor_map_single]
  by_cases present : field = name ∧ rules ≠ []
  · rw [if_pos (named.2 present), if_pos present, if_pos present.1]
  · rw [if_neg (mt named.1 present), if_neg present]

theorem register_batch_join (book : RuleBook) (field left right : String) :
    ((book.register (.batch field left)).register (.batch field right)).SameRules
      (book.register (.batch field (left ++ "|" ++ right))) := by
  intro name
  simp only [get?_register, Registration.field, Registration.rules, Rule.parseSpec_bar]
  by_cases named : name = field <;> simp [named]

theorem registerAll_single_sameRules_iff (book : RuleBook) (field spec : String) :
    (book.registerAll ((Rule.parseSpec spec.toList).map (.single field))).SameRules
        (book.register (.batch field spec)) ↔
      Rule.parseSpec spec.toList ≠ [] ∨ field ∈ book.keys := by
  generalize read : Rule.parseSpec spec.toList = rules
  have batch (name : String) : (book.register (.batch field spec)).get? name =
      if name = field then some (book.rulesOf field ++ rules) else book.get? name := by
    rw [get?_register, Registration.rules, read]
    rfl
  constructor
  · intro same
    by_contra neither
    obtain ⟨unread, absent⟩ := not_or.1 neither
    have here := same field
    rw [get?_registerAll_single, batch, if_pos rfl, if_neg (fun both => unread both.2),
      (book.get?_eq_none_iff field).2 absent] at here
    cases here
  · intro either name
    rw [get?_registerAll_single, batch]
    by_cases named : name = field
    · subst named
      rw [if_pos rfl]
      by_cases unread : rules = []
      · have present := either.resolve_left (not_not.2 unread)
        obtain ⟨held, found⟩ := Option.isSome_iff_exists.1 ((book.mem_keys_iff name).1 present)
        rw [if_neg (fun both => both.2 unread), rulesOf, found, unread]
        simp
      · rw [if_pos ⟨rfl, unread⟩]
    · rw [if_neg (fun both => named both.1.symm), if_neg named]

/-- **A bar between two specifications puts their rules one after the other, blanks do not
matter, and registration agrees.** The rules of a specification are those of its tokens,
whatever blanks stand around the tokens and however many tokens are blank. There are none
exactly if the specification is made of bars and blanks. So two specifications registered
one after the other for a field leave the book that they leave as one specification with a
bar between them; and registering the rules of a specification one by one leaves that book
too, unless there is no rule and the field was not present before. -/
theorem specifications_join :
    (∀ left right : String,
      Rule.parseSpec (left ++ "|" ++ right).toList =
        Rule.parseSpec left.toList ++ Rule.parseSpec right.toList) ∧
    (∀ pieces : List Rule.Piece,
      Rule.parseSpec (['|'].intercalate (pieces.map Rule.Piece.chars)) =
        Rule.parseSpec (['|'].intercalate (pieces.filterMap Rule.Piece.bare?))) ∧
    (∀ spec : String,
      Rule.parseSpec spec.toList = [] ↔
        ∀ char ∈ spec.toList, char = '|' ∨ Text.isBlank char = true) ∧
    (∀ (book : RuleBook) (field left right : String),
      ((book.register (.batch field left)).register (.batch field right)).SameRules
        (book.register (.batch field (left ++ "|" ++ right)))) ∧
    (∀ (book : RuleBook) (field spec : String),
      (book.registerAll ((Rule.parseSpec spec.toList).map (.single field))).SameRules
          (book.register (.batch field spec)) ↔
        Rule.parseSpec spec.toList ≠ [] ∨ field ∈ book.keys) :=
  ⟨Rule.parseSpec_bar, Rule.parseSpec_pieces, fun spec => Rule.parseSpec_eq_nil_iff spec.toList,
    register_batch_join, registerAll_single_sameRules_iff⟩

end RuleBook

end Fieldwise
