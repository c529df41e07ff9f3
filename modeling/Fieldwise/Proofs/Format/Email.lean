import Fieldwise.Proofs.BuiltIn.Single
import Fieldwise.Proofs.Text.Margin
import Fieldwise.Proofs.Text.Pattern

/-!
Contract: the texts that the e-mail rule accepts.

Owns: the grammar of an address by its parts, the pattern of an address as a language,
their agreement with the test, and the report of the rule.

Does **not** own: the languages of repetitions (`Fieldwise.Proofs.Text.Pattern`).

The last label of a domain also has the characters of the labels before it, so that a
matcher may try to go on repeating where it must stop. The dots decide: a label holds
none, and each turn of the repetition ends in one.
-/

set_option autoImplicit false

namespace Fieldwise.Format

open Text.Pattern

/-! ## The grammar -/

def IsLetter (char : Char) : Prop :=
  'a' ≤ char ∧ char ≤ 'z' ∨ 'A' ≤ char ∧ char ≤ 'Z'

def IsLetterOrDigit (char : Char) : Prop :=
  IsLetter char ∨ '0' ≤ char ∧ char ≤ '9'

def IsLocalCharacter (char : Char) : Prop :=
  IsLetterOrDigit char ∨ char ∈ ['.', '_', '%', '+', '-']

def IsLabelCharacter (char : Char) : Prop :=
  IsLetterOrDigit char ∨ char = '-'

instance (char : Char) : Decidable (IsLetter char) :=
  inferInstanceAs (Decidable (_ ∧ _ ∨ _ ∧ _))

instance (char : Char) : Decidable (IsLetterOrDigit char) :=
  inferInstanceAs (Decidable (_ ∨ _ ∧ _))

instance (char : Char) : Decidable (IsLocalCharacter char) :=
  inferInstanceAs (Decidable (_ ∨ _ ∈ _))

instance (char : Char) : Decidable (IsLabelCharacter char) :=
  inferInstanceAs (Decidable (_ ∨ _ = _))

/-- The labels of a domain, of which the top one is the last. -/
structure DomainLabels (domain : List Char) (labels : List (List Char)) (top : List Char) :
    Prop where
  labelled : domain.splitOn '.' = labels ++ [top]
  several : labels ≠ []
  labelCharacters : ∀ label ∈ labels, label ≠ [] ∧ ∀ char ∈ label, IsLabelCharacter char
  long : 2 ≤ top.length
  letters : ∀ char ∈ top, IsLetter char

/-- The parts of an address: the local part before the one at sign, and the domain behind
it with its labels. -/
structure EmailParts
    (chars localPart domain : List Char)
    (labels : List (List Char))
    (top : List Char) : Prop
    extends DomainLabels domain labels top where
  cut : chars = localPart ++ '@' :: domain
  once : chars.count '@' = 1
  named : localPart ≠ []
  localCharacters : ∀ char ∈ localPart, IsLocalCharacter char

def IsEmailAddress (chars : List Char) : Prop :=
  ∃ localPart domain labels top, EmailParts chars localPart domain labels top

/-! ## The pattern -/

/-- One or more labels with a dot behind each, and a top label. -/
def domainPattern : Language Char :=
  oneOrMore (oneOrMore (oneOf IsLabelCharacter) * oneOf (· = '.')) * atLeast 2 (oneOf IsLetter)

def emailPattern : Language Char :=
  oneOrMore (oneOf IsLocalCharacter) * oneOf (· = '@') * domainPattern

/-! ## Characters -/

theorem isUpper_eq_true_iff (char : Char) : char.isUpper = true ↔ 'A' ≤ char ∧ char ≤ 'Z' :=
  decide_eq_true_iff

theorem isLower_eq_true_iff (char : Char) : char.isLower = true ↔ 'a' ≤ char ∧ char ≤ 'z' := by
  show (decide (char.val ≥ 'a'.val) && decide (char.val ≤ 'z'.val)) = true ↔ _
  rw [Bool.and_eq_true, decide_eq_true_eq, decide_eq_true_eq]
  exact Iff.rfl

theorem isAlpha_eq_true_iff (char : Char) : char.isAlpha = true ↔ IsLetter char := by
  show (char.isUpper || char.isLower) = true ↔ IsLetter char
  rw [Bool.or_eq_true, isUpper_eq_true_iff, isLower_eq_true_iff]
  exact or_comm

theorem isAlphanum_eq_true_iff (char : Char) :
    char.isAlphanum = true ↔ IsLetterOrDigit char := by
  show (char.isAlpha || char.isDigit) = true ↔ IsLetterOrDigit char
  rw [Bool.or_eq_true, isAlpha_eq_true_iff, IsLetterOrDigit]
  simp [Char.isDigit, Char.le_def]

theorem isLocalChar_eq_true_iff (char : Char) :
    isLocalChar char = true ↔ IsLocalCharacter char := by
  rw [isLocalChar, Bool.or_eq_true, isAlphanum_eq_true_iff, List.contains_iff_mem,
    IsLocalCharacter]

theorem isLabelChar_eq_true_iff (char : Char) :
    isLabelChar char = true ↔ IsLabelCharacter char := by
  rw [isLabelChar, Bool.or_eq_true, isAlphanum_eq_true_iff, decide_eq_true_eq, IsLabelCharacter]

theorem IsLabelCharacter.isLocalCharacter {char : Char} (given : IsLabelCharacter char) :
    IsLocalCharacter char := by
  rcases given with plain | rfl
  · exact .inl plain
  · exact .inr (by decide)

theorem IsLetter.isLabelCharacter {char : Char} (given : IsLetter char) :
    IsLabelCharacter char :=
  .inl (.inl given)

/-- The characters of an address are visible characters of ASCII. -/
theorem IsLocalCharacter.visible {char : Char} (given : IsLocalCharacter char) :
    33 ≤ char.toNat ∧ char.toNat ≤ 126 := by
  rcases given with ((lower | upper) | digit) | mark
  · simp [Char.le_def, UInt32.le_iff_toNat_le] at lower
    omega
  · simp [Char.le_def, UInt32.le_iff_toNat_le] at upper
    omega
  · simp [Char.le_def, UInt32.le_iff_toNat_le] at digit
    omega
  · simp only [List.mem_cons, List.not_mem_nil, or_false] at mark
    rcases mark with rfl | rfl | rfl | rfl | rfl <;> decide

/-! ## Domains -/

theorem isLabel_eq_true_iff (chars : List Char) :
    isLabel chars = true ↔ chars ≠ [] ∧ ∀ char ∈ chars, IsLabelCharacter char := by
  simp only [isLabel, Bool.and_eq_true, decide_eq_true_eq, List.all_eq_true,
    isLabelChar_eq_true_iff]

theorem isTopLabel_eq_true_iff (chars : List Char) :
    isTopLabel chars = true ↔ 2 ≤ chars.length ∧ ∀ char ∈ chars, IsLetter char := by
  simp only [isTopLabel, Bool.and_eq_true, decide_eq_true_eq, List.all_eq_true,
    isAlpha_eq_true_iff]

theorem isDomain_eq_true_iff (domain : List Char) :
    isDomain domain = true ↔ ∃ labels top, DomainLabels domain labels top := by
  have each (labels : List (List Char)) (top : List Char)
      (cut : domain.splitOn '.' = labels ++ [top]) :
      isDomain domain = true ↔ DomainLabels domain labels top := by
    simp only [isDomain, cut, List.length_append, List.length_singleton, Bool.and_eq_true,
      decide_eq_true_eq, List.dropLast_concat, List.getLast?_concat, Option.any_some,
      List.all_eq_true, isLabel_eq_true_iff, isTopLabel_eq_true_iff]
    constructor
    · rintro ⟨⟨several, labelCharacters⟩, long, letters⟩
      exact ⟨cut, List.ne_nil_of_length_pos (by omega), labelCharacters, long, letters⟩
    · rintro ⟨-, several, labelCharacters, long, letters⟩
      have one := List.length_pos_iff.2 several
      exact ⟨⟨by omega, labelCharacters⟩, long, letters⟩
  constructor
  · intro accepted
    rcases List.eq_nil_or_concat' (domain.splitOn '.') with empty | ⟨labels, top, cut⟩
    · exact absurd empty (List.splitOn_ne_nil _ _)
    · exact ⟨labels, top, (each labels top cut).1 accepted⟩
  · rintro ⟨labels, top, given⟩
    exact (each labels top given.labelled).2 given

theorem mem_domainPattern_iff (domain : List Char) :
    domain ∈ domainPattern ↔ ∃ labels top, DomainLabels domain labels top := by
  have labelPlain : ∀ piece ∈ oneOrMore (oneOf IsLabelCharacter), '.' ∉ piece := by
    intro piece inBody dot
    exact absurd ((mem_atLeast_oneOf_iff.1 inBody).2 '.' dot) (by decide)
  have topPlain : ∀ piece ∈ atLeast 2 (oneOf IsLetter), '.' ∉ piece := by
    intro piece inBack dot
    exact absurd ((mem_atLeast_oneOf_iff.1 inBack).2 '.' dot) (by decide)
  rw [domainPattern, mem_atLeast_terminated_mul_iff labelPlain topPlain]
  refine exists_congr fun labels => exists_congr fun top => ?_
  simp only [mem_atLeast_oneOf_iff, Nat.one_le_iff_ne_zero, ne_eq, List.length_eq_zero_iff]
  constructor
  · rintro ⟨cut, several, labelCharacters, long, letters⟩
    exact ⟨cut, several, labelCharacters, long, letters⟩
  · rintro ⟨cut, several, labelCharacters, long, letters⟩
    exact ⟨cut, several, labelCharacters, long, letters⟩

/-- The characters of a domain are those of labels, and dots. -/
theorem DomainLabels.of_mem
    {domain : List Char} {labels : List (List Char)} {top : List Char} {char : Char}
    (given : DomainLabels domain labels top)
    (member : char ∈ domain) :
    IsLabelCharacter char ∨ char = '.' := by
  by_cases dot : char = '.'
  · exact .inr dot
  · obtain ⟨piece, inPieces, inPiece⟩ := Text.exists_piece_of_mem member dot
    rw [given.labelled, List.mem_append, List.mem_singleton] at inPieces
    rcases inPieces with early | rfl
    · exact .inl ((given.labelCharacters piece early).2 char inPiece)
    · exact .inl (given.letters char inPiece).isLabelCharacter

theorem DomainLabels.at_not_mem
    {domain : List Char} {labels : List (List Char)} {top : List Char}
    (given : DomainLabels domain labels top) :
    '@' ∉ domain := by
  intro member
  rcases given.of_mem member with label | dot
  · exact absurd label (by decide)
  · exact absurd dot (by decide)

/-! ## Addresses -/

theorem isLocalPart_eq_true_iff (chars : List Char) :
    isLocalPart chars = true ↔ chars ≠ [] ∧ ∀ char ∈ chars, IsLocalCharacter char := by
  simp only [isLocalPart, Bool.and_eq_true, decide_eq_true_eq, List.all_eq_true,
    isLocalChar_eq_true_iff]

theorem at_not_mem_of_localCharacters
    {localPart : List Char}
    (localCharacters : ∀ char ∈ localPart, IsLocalCharacter char) :
    '@' ∉ localPart :=
  fun member => absurd (localCharacters '@' member) (by decide)

/-- An address is a local part and a domain around an at sign: that there is no other at
sign follows from the characters of the two. -/
theorem isEmailAddress_iff (chars : List Char) :
    IsEmailAddress chars ↔
      ∃ localPart domain,
        chars = localPart ++ '@' :: domain ∧
        (localPart ≠ [] ∧ ∀ char ∈ localPart, IsLocalCharacter char) ∧
        ∃ labels top, DomainLabels domain labels top := by
  constructor
  · rintro ⟨localPart, domain, labels, top, parts⟩
    exact ⟨localPart, domain, parts.cut, ⟨parts.named, parts.localCharacters⟩, labels, top,
      parts.toDomainLabels⟩
  · rintro ⟨localPart, domain, rfl, ⟨named, localCharacters⟩, labels, top, given⟩
    have front : localPart.count '@' = 0 :=
      List.count_eq_zero.2 (at_not_mem_of_localCharacters localCharacters)
    have back : domain.count '@' = 0 := List.count_eq_zero.2 given.at_not_mem
    have once : (localPart ++ '@' :: domain).count '@' = 1 := by
      rw [List.count_append, List.count_cons_self, front, back]
    exact ⟨localPart, domain, labels, top, given, rfl, once, named, localCharacters⟩

theorem mem_emailPattern_iff (chars : List Char) :
    chars ∈ emailPattern ↔ IsEmailAddress chars := by
  rw [isEmailAddress_iff, emailPattern, mem_mul_oneOf_mul_iff]
  simp only [mem_atLeast_oneOf_iff, mem_domainPattern_iff, Nat.one_le_iff_ne_zero, ne_eq,
    List.length_eq_zero_iff]
  constructor
  · rintro ⟨localPart, named, domain, given, cut⟩
    exact ⟨localPart, domain, cut, named, given⟩
  · rintro ⟨localPart, domain, cut, named, given⟩
    exact ⟨localPart, named, domain, given, cut⟩

theorem isEmail_eq_true_iff (chars : List Char) :
    isEmail chars = true ↔ IsEmailAddress chars := by
  rw [isEmailAddress_iff]
  constructor
  · intro accepted
    unfold isEmail at accepted
    split at accepted
    · rename_i localPart domain cut
      rw [Bool.and_eq_true, isLocalPart_eq_true_iff, isDomain_eq_true_iff] at accepted
      have whole : ['@'].intercalate (chars.splitOn '@') = chars := List.intercalate_splitOn '@'
      rw [cut] at whole
      exact ⟨localPart, domain, by simpa using whole.symm, accepted.1, accepted.2⟩
    · cases accepted
  · rintro ⟨localPart, domain, rfl, named, labels, top, given⟩
    have front : '@' ∉ localPart := at_not_mem_of_localCharacters named.2
    have cut : (localPart ++ '@' :: domain).splitOn '@' = [localPart, domain] := by
      rw [List.splitOn_append_cons_self, List.splitOn_eq_singleton front,
        List.splitOn_eq_singleton given.at_not_mem]
      rfl
    rw [isEmail, cut, Bool.and_eq_true, isLocalPart_eq_true_iff, isDomain_eq_true_iff]
    exact ⟨named, labels, top, given⟩

instance (chars : List Char) : Decidable (IsEmailAddress chars) :=
  decidable_of_iff (isEmail chars = true) (isEmail_eq_true_iff chars)

theorem IsEmailAddress.of_mem
    {chars : List Char} {char : Char}
    (address : IsEmailAddress chars)
    (member : char ∈ chars) :
    IsLocalCharacter char ∨ char = '@' := by
  obtain ⟨localPart, domain, labels, top, parts⟩ := address
  rw [parts.cut, List.mem_append, List.mem_cons] at member
  rcases member with early | rfl | late
  · exact .inl (parts.localCharacters char early)
  · exact .inr rfl
  · rcases parts.toDomainLabels.of_mem late with label | rfl
    · exact .inl label.isLocalCharacter
    · exact .inl (.inr (by decide))

/-- No character of an address is blank or lies outside ASCII. -/
theorem IsEmailAddress.visible
    {chars : List Char} {char : Char}
    (address : IsEmailAddress chars)
    (member : char ∈ chars) :
    Text.isBlank char = false ∧ char ≠ '\n' ∧ char.toNat < 128 := by
  have bounds : 33 ≤ char.toNat ∧ char.toNat ≤ 126 := by
    rcases address.of_mem member with plain | rfl
    · exact plain.visible
    · decide
  refine ⟨?_, ?_, by omega⟩
  · simp [Text.isBlank, Text.inRanges, Text.blankRanges]
    omega
  · rintro rfl
    exact absurd bounds.1 (by decide)

end Fieldwise.Format

/-! ## The report -/

namespace Fieldwise.Validator

open Format

variable (config : Config) (reachability : Reachability) (book : RuleBook)

/-- **The e-mail rule accepts the addresses of the grammar and nothing else.** A text that
consists of a local part, one at sign and labels between dots has no error, every other
text has exactly the one error of the rule, and the texts of the pattern are the same ones.
No accepted text has a blank character, a line break or a character outside ASCII. -/
theorem email_rule_accepts_addresses
    [Libraries]
    (lookup : String → Option Value)
    (name content : String)
    (parameter : Option Parameter) :
    let validator := Builder.assemble { config, reachability, predicates := [], rules := book }
    let rule : Rule := ⟨.builtIn .email, parameter⟩
    let errors :=
      (validator.validate ⟨[⟨name, .text content, .registered [rule]⟩], lookup⟩).errors
    (errors = [] ↔ IsEmailAddress content.toList) ∧
    (errors =
        [.about name rule "email" ("Input field " ++ name ++ " must be a valid email format")] ↔
      ¬ IsEmailAddress content.toList) ∧
    (content.toList ∈ emailPattern ↔ IsEmailAddress content.toList) ∧
    (errors = [] →
      ∀ char ∈ content.toList,
        Text.isBlank char = false ∧ char ≠ '\n' ∧ char.toNat < 128) := by
  intro validator rule errors
  obtain ⟨accepts, refuses⟩ : (errors = [] ↔ IsEmailAddress content.toList) ∧
      (errors = [_] ↔ ¬ IsEmailAddress content.toList) := by
    refine errors_of_met config reachability book lookup name rfl (by simp) (.text content)
      (.nothing parameter) (by decide) fun companion => ?_
    simp only [Keyword.Passes, Value.text.injEq, exists_eq_left', isEmail_eq_true_iff]
  refine ⟨accepts, refuses, mem_emailPattern_iff content.toList, ?_⟩
  intro accepted char
  exact (accepts.1 accepted).visible

/-- A plus sign in the local part, a digit and a hyphen in the domain. -/
theorem tagged_address_is_accepted :
    (Validator.default.validate
      ⟨[⟨"Mail", .text "a.b+c@x-1.co", .registered [⟨.builtIn .email, none⟩]⟩],
        fun _ => none⟩).errors = [] ∧
    Text.isBlank '+' = false ∧ '+' ≠ '\n' ∧ '+'.toNat < 128 := by
  obtain ⟨accepts, -, -, visible⟩ := email_rule_accepts_addresses Config.default
    Reachability.offline Table.empty (fun _ => none) "Mail" "a.b+c@x-1.co" none
  have accepted := accepts.2 (by decide)
  exact ⟨accepted, visible accepted '+' (by decide)⟩

end Fieldwise.Validator
