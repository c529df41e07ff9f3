import Fieldwise.Proofs.BuiltIn.Single
import Fieldwise.Proofs.Text.Numeral
import Fieldwise.Proofs.Text.Pattern

/-!
Contract: the texts that the rule for hardware addresses accepts.

Owns: the spellings of bytes by pairs of digits, the pattern of an address as a language,
the bytes that a spelling is read as, the changes of characters that leave a reading as it
is, and the report of the rule.

Does **not** own: hexadecimal digits and their values (`Fieldwise.Proofs.Text.Numeral`).

A spelling has the shape of the recursion that reads it: a last byte, or a byte and a
separator in front of a shorter spelling. Its length follows from the number of its
separators alone, which is why nothing can stand before or behind an address.
-/

set_option autoImplicit false

namespace Fieldwise.Format

open Text (LetterCase)
open Text.Pattern

/-! ## Spellings -/

/-- A byte, and the case of each of the two digits that it is written by. -/
structure SpelledByte where
  byte : UInt8
  high : LetterCase
  low : LetterCase

inductive Separator where
  | colon
  | hyphen

def Separator.char : Separator → Char
  | colon => ':'
  | hyphen => '-'

/-- Bytes with a separator between each two of them. -/
inductive Spelling : (separators : Nat) → Type where
  | last (spelled : SpelledByte) : Spelling 0
  | more {separators : Nat}
      (spelled : SpelledByte)
      (separator : Separator)
      (rest : Spelling separators) :
      Spelling (separators + 1)

namespace SpelledByte

variable (spelled : SpelledByte)

def highDigit : Char :=
  spelled.high.hexDigit (spelled.byte.toNat / 16)

def lowDigit : Char :=
  spelled.low.hexDigit (spelled.byte.toNat % 16)

def chars : List Char :=
  [spelled.highDigit, spelled.lowDigit]

end SpelledByte

namespace Spelling

variable {separators : Nat}

def chars : {separators : Nat} → Spelling separators → List Char
  | _, last spelled => spelled.chars
  | _, more spelled separator rest => spelled.chars ++ separator.char :: rest.chars

def bytes : {separators : Nat} → Spelling separators → List UInt8
  | _, last spelled => [spelled.byte]
  | _, more spelled _ rest => spelled.byte :: rest.bytes

theorem length_chars (spelling : Spelling separators) :
    spelling.chars.length = 3 * separators + 2 := by
  induction spelling with
  | last spelled => rfl
  | more spelled separator rest inductionHypothesis =>
      rw [chars, List.length_append, List.length_cons, inductionHypothesis]
      show 2 + _ = _
      omega

theorem length_bytes (spelling : Spelling separators) :
    spelling.bytes.length = separators + 1 := by
  induction spelling with
  | last spelled => rfl
  | more spelled separator rest inductionHypothesis =>
      rw [bytes, List.length_cons, inductionHypothesis]

end Spelling

/-! ## Characters -/

/-- Hexadecimal digits, colons and hyphens. -/
def IsMacCharacter (char : Char) : Prop :=
  Text.IsHexDigit char ∨ char ∈ [':', '-']

instance (char : Char) : Decidable (IsMacCharacter char) :=
  inferInstanceAs (Decidable (_ ∨ _ ∈ _))

theorem isPairSeparator_eq_true_iff (char : Char) :
    isPairSeparator char = true ↔ char ∈ [':', '-'] := by
  simp [isPairSeparator]

namespace Separator

theorem mem_iff (char : Char) :
    char ∈ [':', '-'] ↔ ∃ separator : Separator, separator.char = char := by
  constructor
  · intro member
    rcases List.mem_pair.1 member with rfl | rfl
    · exact ⟨colon, rfl⟩
    · exact ⟨hyphen, rfl⟩
  · rintro ⟨separator, rfl⟩
    cases separator with
    | colon => exact List.mem_cons_self
    | hyphen => exact List.mem_cons_of_mem _ List.mem_cons_self

theorem char_mem (separator : Separator) : separator.char ∈ [':', '-'] :=
  (mem_iff _).2 ⟨separator, rfl⟩

theorem isPairSeparator_char (separator : Separator) :
    isPairSeparator separator.char = true :=
  (isPairSeparator_eq_true_iff _).2 separator.char_mem

end Separator

namespace SpelledByte

variable (spelled : SpelledByte)

theorem high_lt : spelled.byte.toNat / 16 < 16 := by
  have := spelled.byte.toNat_lt
  omega

theorem low_lt : spelled.byte.toNat % 16 < 16 :=
  Nat.mod_lt _ (by decide)

theorem isHexDigit_highDigit : Text.isHexDigit spelled.highDigit = true :=
  LetterCase.isHexDigit_hexDigit spelled.high_lt spelled.high

theorem isHexDigit_lowDigit : Text.isHexDigit spelled.lowDigit = true :=
  LetterCase.isHexDigit_hexDigit spelled.low_lt spelled.low

theorem hexNumber_digits :
    Text.hexNumber [spelled.highDigit, spelled.lowDigit] = spelled.byte.toNat := by
  have high : Text.hexValue spelled.highDigit = spelled.byte.toNat / 16 :=
    LetterCase.hexValue_hexDigit spelled.high_lt spelled.high
  have low : Text.hexValue spelled.lowDigit = spelled.byte.toNat % 16 :=
    LetterCase.hexValue_hexDigit spelled.low_lt spelled.low
  rw [Text.hexNumber_pair, high, low]
  omega

theorem isHexDigit_of_mem {char : Char} (member : char ∈ spelled.chars) :
    Text.IsHexDigit char := by
  rw [← Text.isHexDigit_eq_true_iff]
  rcases List.mem_pair.1 member with rfl | rfl
  · exact spelled.isHexDigit_highDigit
  · exact spelled.isHexDigit_lowDigit

/-- Any two digits spell a byte. -/
theorem exists_of_digits
    {high low : Char}
    (highHolds : Text.isHexDigit high = true)
    (lowHolds : Text.isHexDigit low = true) :
    ∃ spelled : SpelledByte, spelled.chars = [high, low] := by
  obtain ⟨highCase, highValue, highSmall, rfl⟩ :=
    ((Text.isHexDigit_eq_true_iff high).1 highHolds).exists_hexDigit
  obtain ⟨lowCase, lowValue, lowSmall, rfl⟩ :=
    ((Text.isHexDigit_eq_true_iff low).1 lowHolds).exists_hexDigit
  have number : (UInt8.ofNat (16 * highValue + lowValue)).toNat = 16 * highValue + lowValue :=
    UInt8.toNat_ofNat_of_lt' (by simp only [UInt8.size]; omega)
  have highPart : (16 * highValue + lowValue) / 16 = highValue := by omega
  have lowPart : (16 * highValue + lowValue) % 16 = lowValue := by omega
  refine ⟨⟨UInt8.ofNat (16 * highValue + lowValue), highCase, lowCase⟩, ?_⟩
  rw [chars, highDigit, lowDigit, number, highPart, lowPart]

end SpelledByte

/-! ## The pattern -/

def pairPattern : Language Char :=
  oneOf Text.IsHexDigit ^ 2

/-- Pairs of digits with a separator behind each, so many times, and a last pair. -/
def pairsPattern (separators : Nat) : Language Char :=
  (pairPattern * oneOf (· ∈ [':', '-'])) ^ separators * pairPattern

def macPattern : Language Char :=
  pairsPattern 5

theorem mem_pairPattern_iff (chars : List Char) :
    chars ∈ pairPattern ↔ ∃ spelled : SpelledByte, spelled.chars = chars := by
  rw [pairPattern, sq, Language.mem_mul]
  constructor
  · rintro ⟨_, ⟨high, highDigit, rfl⟩, _, ⟨low, lowDigit, rfl⟩, rfl⟩
    exact SpelledByte.exists_of_digits ((Text.isHexDigit_eq_true_iff high).2 highDigit)
      ((Text.isHexDigit_eq_true_iff low).2 lowDigit)
  · rintro ⟨spelled, rfl⟩
    have high := (Text.isHexDigit_eq_true_iff _).1 spelled.isHexDigit_highDigit
    have low := (Text.isHexDigit_eq_true_iff _).1 spelled.isHexDigit_lowDigit
    exact ⟨_, ⟨_, high, rfl⟩, _, ⟨_, low, rfl⟩, rfl⟩

theorem mem_separatorPattern_iff (chars : List Char) :
    chars ∈ oneOf (· ∈ [':', '-']) ↔ ∃ separator : Separator, [separator.char] = chars := by
  constructor
  · rintro ⟨char, member, rfl⟩
    obtain ⟨separator, rfl⟩ := (Separator.mem_iff char).1 member
    exact ⟨separator, rfl⟩
  · rintro ⟨separator, rfl⟩
    exact ⟨separator.char, separator.char_mem, rfl⟩

/-- The texts of the pattern are the spellings. -/
theorem mem_pairsPattern_iff (separators : Nat) (chars : List Char) :
    chars ∈ pairsPattern separators ↔
      ∃ spelling : Spelling separators, spelling.chars = chars := by
  induction separators generalizing chars with
  | zero =>
      rw [pairsPattern, pow_zero, one_mul, mem_pairPattern_iff]
      constructor
      · rintro ⟨spelled, rfl⟩
        exact ⟨.last spelled, rfl⟩
      · rintro ⟨spelling, rfl⟩
        cases spelling with
        | last spelled => exact ⟨spelled, rfl⟩
  | succ separators inductionHypothesis =>
      have unrolled : pairsPattern (separators + 1) =
          pairPattern * (oneOf (· ∈ [':', '-']) * pairsPattern separators) := by
        rw [pairsPattern, pow_succ', mul_assoc, mul_assoc, ← pairsPattern]
      simp only [unrolled, Language.mem_mul, mem_pairPattern_iff, mem_separatorPattern_iff,
        inductionHypothesis]
      constructor
      · rintro ⟨_, ⟨spelled, rfl⟩, _, ⟨_, ⟨separator, rfl⟩, _, ⟨rest, rfl⟩, rfl⟩, rfl⟩
        exact ⟨.more spelled separator rest, rfl⟩
      · rintro ⟨spelling, rfl⟩
        cases spelling with
        | more spelled separator rest =>
            exact ⟨_, ⟨spelled, rfl⟩, _, ⟨_, ⟨separator, rfl⟩, _, ⟨rest, rfl⟩, rfl⟩, rfl⟩

/-! ## Reading -/

namespace Spelling

variable {separators : Nat}

/-- A spelling is read as its bytes. -/
theorem pairs?_chars (spelling : Spelling separators) :
    pairs? separators spelling.chars = some (spelling.bytes.map UInt8.toNat) := by
  induction spelling with
  | last spelled =>
      rw [chars, SpelledByte.chars, pairs?, spelled.isHexDigit_highDigit,
        spelled.isHexDigit_lowDigit, spelled.hexNumber_digits]
      rfl
  | more spelled separator rest inductionHypothesis =>
      show pairs? _ (_ :: _ :: separator.char :: rest.chars) = _
      rw [pairs?, spelled.isHexDigit_highDigit, spelled.isHexDigit_lowDigit,
        separator.isPairSeparator_char, spelled.hexNumber_digits, inductionHypothesis]
      rfl

/-- Whatever is read is spelled. -/
theorem exists_of_pairs?
    {chars : List Char} {numbers : List Nat}
    (read : pairs? separators chars = some numbers) :
    ∃ spelling : Spelling separators, spelling.chars = chars := by
  fun_induction pairs? separators chars generalizing numbers with
  | case1 high low digits =>
      rw [Bool.and_eq_true] at digits
      obtain ⟨spelled, same⟩ := SpelledByte.exists_of_digits digits.1 digits.2
      exact ⟨.last spelled, same⟩
  | case3 separators high low separator rest given inductionHypothesis =>
      rw [Bool.and_eq_true, Bool.and_eq_true] at given
      obtain ⟨spelled, same⟩ := SpelledByte.exists_of_digits given.1.1 given.1.2
      obtain ⟨between, rfl⟩ :=
        (Separator.mem_iff separator).1 ((isPairSeparator_eq_true_iff separator).1 given.2)
      obtain ⟨others, readRest, -⟩ := Option.map_eq_some_iff.1 read
      obtain ⟨tail, rfl⟩ := inductionHypothesis readRest
      refine ⟨.more spelled between tail, ?_⟩
      rw [Spelling.chars, same]
      rfl
  | case2 | case4 | case5 => cases read

/-- The bytes are read off the characters, whatever the digits and the separators look
like. -/
theorem bytes_eq_of_chars_eq
    {left right : Spelling separators}
    (same : left.chars = right.chars) :
    left.bytes = right.bytes := by
  have read := left.pairs?_chars
  rw [same, right.pairs?_chars] at read
  exact (List.map_injective_iff.2 (fun _ _ => UInt8.toNat_inj.1) (Option.some.inj read)).symm

theorem isMacCharacter_of_mem
    (spelling : Spelling separators)
    {char : Char}
    (member : char ∈ spelling.chars) :
    IsMacCharacter char := by
  have digit : ∀ spelled : SpelledByte, char ∈ spelled.chars → IsMacCharacter char :=
    fun spelled member => .inl (spelled.isHexDigit_of_mem member)
  induction spelling with
  | last spelled => exact digit spelled member
  | more spelled separator rest inductionHypothesis =>
      rw [chars, List.mem_append, List.mem_cons] at member
      rcases member with early | rfl | late
      · exact digit spelled early
      · exact .inr separator.char_mem
      · exact inductionHypothesis late

end Spelling

/-- A text is accepted exactly if it spells six bytes. -/
theorem isMacAddress_eq_true_iff (chars : List Char) :
    isMacAddress chars = true ↔ ∃ spelling : Spelling 5, spelling.chars = chars := by
  constructor
  · intro accepted
    obtain ⟨numbers, read⟩ := Option.isSome_iff_exists.1 accepted
    exact Spelling.exists_of_pairs? read
  · rintro ⟨spelling, rfl⟩
    exact Option.isSome_of_eq_some spelling.pairs?_chars

/-! ## Changes of characters -/

/-- A character is put for another one: the same letter in another case, a separator for a
separator, or a character outside the addresses, such as a letter of another script, for
another one outside of them. -/
def Restyles (left right : Char) : Prop :=
  left.toLower = right.toLower ∨
    (left ∈ [':', '-'] ∧ right ∈ [':', '-']) ∨
    (¬ IsMacCharacter left ∧ ¬ IsMacCharacter right)

instance : DecidableRel Restyles :=
  fun _ _ => inferInstanceAs (Decidable (_ ∨ (_ ∧ _) ∨ (_ ∧ _)))

theorem isHexDigit_eq_false {char : Char} (foreign : ¬ IsMacCharacter char) :
    Text.isHexDigit char = false :=
  eq_false_of_ne_true fun digit => foreign (.inl ((Text.isHexDigit_eq_true_iff char).1 digit))

theorem isPairSeparator_eq_false {char : Char} (foreign : ¬ IsMacCharacter char) :
    isPairSeparator char = false :=
  eq_false_of_ne_true fun given => foreign (.inr ((isPairSeparator_eq_true_iff char).1 given))

theorem isPairSeparator_toLower (char : Char) :
    isPairSeparator char.toLower = isPairSeparator char :=
  Text.toLower_congr isPairSeparator (by decide) char

theorem isHexDigit_of_separator {char : Char} (separator : char ∈ [':', '-']) :
    Text.isHexDigit char = false := by
  rcases List.mem_pair.1 separator with rfl | rfl
  · decide
  · decide

namespace Restyles

variable {left right : Char} (restyles : Restyles left right)

include restyles

theorem isHexDigit_eq : Text.isHexDigit left = Text.isHexDigit right := by
  rcases restyles with same | ⟨old, new⟩ | ⟨old, new⟩
  · rw [← Text.isHexDigit_toLower left, same, Text.isHexDigit_toLower]
  · rw [isHexDigit_of_separator old, isHexDigit_of_separator new]
  · rw [isHexDigit_eq_false old, isHexDigit_eq_false new]

theorem isPairSeparator_eq : isPairSeparator left = isPairSeparator right := by
  rcases restyles with same | ⟨old, new⟩ | ⟨old, new⟩
  · rw [← isPairSeparator_toLower left, same, isPairSeparator_toLower]
  · rw [(isPairSeparator_eq_true_iff left).2 old, (isPairSeparator_eq_true_iff right).2 new]
  · rw [isPairSeparator_eq_false old, isPairSeparator_eq_false new]

theorem hexValue_eq (digit : Text.isHexDigit left = true) :
    Text.hexValue left = Text.hexValue right := by
  rcases restyles with same | ⟨old, -⟩ | ⟨old, -⟩
  · rw [← Text.hexValue_toLower left, same, Text.hexValue_toLower]
  · rw [isHexDigit_of_separator old] at digit
    cases digit
  · rw [isHexDigit_eq_false old] at digit
    cases digit

end Restyles

theorem hexNumber_congr
    {leftHigh leftLow rightHigh rightLow : Char}
    (high : Restyles leftHigh rightHigh)
    (low : Restyles leftLow rightLow)
    (highDigit : Text.isHexDigit leftHigh = true)
    (lowDigit : Text.isHexDigit leftLow = true) :
    Text.hexNumber [leftHigh, leftLow] = Text.hexNumber [rightHigh, rightLow] := by
  rw [Text.hexNumber_pair, Text.hexNumber_pair, high.hexValue_eq highDigit,
    low.hexValue_eq lowDigit]

/-- Restyled texts are read as the same bytes, or neither of them is read. -/
theorem pairs?_congr
    {separators : Nat} {left right : List Char}
    (restyled : List.Forall₂ Restyles left right) :
    pairs? separators left = pairs? separators right := by
  induction separators generalizing left right with
  | zero =>
      match restyled with
      | .nil | .cons _ .nil | .cons _ (.cons _ (.cons _ _)) => rfl
      | .cons high (.cons low .nil) =>
          rw [pairs?, pairs?, ← high.isHexDigit_eq, ← low.isHexDigit_eq]
          split
          · rename_i digits
            rw [Bool.and_eq_true] at digits
            rw [hexNumber_congr high low digits.1 digits.2]
          · rfl
  | succ separators inductionHypothesis =>
      match restyled with
      | .nil | .cons _ .nil | .cons _ (.cons _ .nil) => rfl
      | .cons high (.cons low (.cons separator rest)) =>
          rw [pairs?, pairs?, ← high.isHexDigit_eq, ← low.isHexDigit_eq,
            ← separator.isPairSeparator_eq, inductionHypothesis rest]
          split
          · rename_i given
            rw [Bool.and_eq_true, Bool.and_eq_true] at given
            rw [hexNumber_congr high low given.1.1 given.1.2]
          · rfl

end Fieldwise.Format

/-! ## The report -/

namespace Fieldwise.Validator

open Format

variable (config : Config) (reachability : Reachability) (book : RuleBook)

theorem errors_of_macAddress
    [Libraries]
    (lookup : String → Option Value)
    (name content : String)
    (parameter : Option Parameter) :
    let validator := Builder.assemble { config, reachability, predicates := [], rules := book }
    let rule : Rule := ⟨.builtIn .macAddress, parameter⟩
    let errors :=
      (validator.validate ⟨[⟨name, .text content, .registered [rule]⟩], lookup⟩).errors
    (errors = [] ↔ isMacAddress content.toList = true) ∧
    (errors =
        [.about name rule "macAddress"
          ("The " ++ name ++ " field must be a valid MAC address")] ↔
      ¬ isMacAddress content.toList = true) := by
  intro validator rule errors
  have message : Report.keywordMessage name .macAddress rule (.text content) =
      "The " ++ name ++ " field must be a valid MAC address" := by
    apply String.ext
    simp [Report.keywordMessage]
  rw [← message]
  refine errors_of_format config reachability book lookup name content parameter .macAddress
    isMacAddress rfl rfl fun companion => ?_
  simp only [Keyword.Passes, Value.text.injEq, exists_eq_left']

/-- **The rule for hardware addresses accepts the spellings of six bytes and nothing else.**
A text that spells six bytes, in digits of either case and with a colon or a hyphen between
each two of them, has no error, and every other text has exactly the one error of the rule.
The texts of the pattern are the same ones. The bytes of an accepted text are unique, and
they are the ones that are read. Letters in another case, and separators of the other sort,
change neither the acceptance of a text nor its bytes. Nothing can be added to an accepted
text in front of it or behind it, and a line break is nowhere in it. -/
theorem mac_rule_accepts_spelled_bytes
    [Libraries]
    (lookup : String → Option Value)
    (name : String)
    (parameter : Option Parameter) :
    let validator := Builder.assemble { config, reachability, predicates := [], rules := book }
    let rule : Rule := ⟨.builtIn .macAddress, parameter⟩
    let errors := fun content : String =>
      (validator.validate ⟨[⟨name, .text content, .registered [rule]⟩], lookup⟩).errors
    ∀ content : String,
      (errors content = [] ↔ ∃ spelling : Spelling 5, spelling.chars = content.toList) ∧
      (errors content =
          [.about name rule "macAddress"
            ("The " ++ name ++ " field must be a valid MAC address")] ↔
        ¬ ∃ spelling : Spelling 5, spelling.chars = content.toList) ∧
      (content.toList ∈ macPattern ↔
        ∃ spelling : Spelling 5, spelling.chars = content.toList) ∧
      (∀ spelling : Spelling 5,
        spelling.chars = content.toList →
        spelling.bytes.length = 6 ∧
        macBytes? content.toList = some (spelling.bytes.map UInt8.toNat) ∧
        ∀ other : Spelling 5, other.chars = content.toList → other.bytes = spelling.bytes) ∧
      (∀ changed : String,
        List.Forall₂ Restyles content.toList changed.toList →
        macBytes? changed.toList = macBytes? content.toList ∧
        (errors changed = [] ↔ errors content = [])) ∧
      (errors content = [] →
        content.toList.length = 17 ∧
        (∀ char ∈ content.toList, IsMacCharacter char ∧ char ≠ '\n') ∧
        ∀ before after : String,
          errors (before ++ content ++ after) = [] → before = "" ∧ after = "") := by
  intro validator rule errors content
  have decides : ∀ text : String, errors text = [] ↔ isMacAddress text.toList = true :=
    fun text => (errors_of_macAddress config reachability book lookup name text parameter).1
  have accepts : ∀ text : String,
      errors text = [] ↔ ∃ spelling : Spelling 5, spelling.chars = text.toList :=
    fun text => (decides text).trans (isMacAddress_eq_true_iff text.toList)
  have length : ∀ text : String, errors text = [] → text.toList.length = 17 := by
    intro text accepted
    obtain ⟨spelling, same⟩ := (accepts text).1 accepted
    rw [← same, spelling.length_chars]
  refine ⟨accepts content, ?_, mem_pairsPattern_iff 5 content.toList, ?_, ?_, ?_⟩
  · rw [← isMacAddress_eq_true_iff]
    exact (errors_of_macAddress config reachability book lookup name content parameter).2
  · intro spelling same
    refine ⟨spelling.length_bytes, ?_, ?_⟩
    · rw [← same]
      exact spelling.pairs?_chars
    · exact fun other also => Spelling.bytes_eq_of_chars_eq (also.trans same.symm)
  · intro changed restyled
    have read : macBytes? changed.toList = macBytes? content.toList :=
      (pairs?_congr restyled).symm
    refine ⟨read, ?_⟩
    rw [decides, decides, isMacAddress, isMacAddress, read]
  · intro accepted
    refine ⟨length content accepted, ?_, ?_⟩
    · intro char member
      obtain ⟨spelling, same⟩ := (accepts content).1 accepted
      rw [← same] at member
      have inside := spelling.isMacCharacter_of_mem member
      refine ⟨inside, ?_⟩
      rintro rfl
      exact absurd inside (by decide)
    · intro before after extended
      have whole := length _ extended
      rw [String.toList_append, String.toList_append, List.length_append, List.length_append,
        length content accepted] at whole
      have front : before.toList = [] := List.length_eq_zero_iff.1 (by omega)
      have back : after.toList = [] := List.length_eq_zero_iff.1 (by omega)
      exact ⟨String.toList_eq_nil_iff.1 front, String.toList_eq_nil_iff.1 back⟩

/-- Letters in both cases and separators of both sorts, and the same bytes in another
style. -/
theorem mixed_spelling_is_accepted :
    let errors := fun content : String =>
      (Validator.default.validate
        ⟨[⟨"Card", .text content, .registered [⟨.builtIn .macAddress, none⟩]⟩],
          fun _ => none⟩).errors
    errors "00:A0-cc:23:39:3F" = [] ∧
    (∃ spelling : Spelling 5,
      spelling.chars = "00:A0-cc:23:39:3F".toList ∧
      spelling.bytes.map UInt8.toNat = [0, 160, 204, 35, 57, 63]) ∧
    errors "00-a0-CC:23:39:3f" = [] ∧
    errors "00:A0-cc:23:39:3F\n" ≠ [] := by
  intro errors
  have spelled : isMacAddress "00:A0-cc:23:39:3F".toList = true := by decide
  have restyled :
      List.Forall₂ Restyles "00:A0-cc:23:39:3F".toList "00-a0-CC:23:39:3f".toList := by
    decide
  obtain ⟨spelling, same⟩ := (isMacAddress_eq_true_iff _).1 spelled
  obtain ⟨accepts, -, -, reads, styles, alone⟩ := mac_rule_accepts_spelled_bytes Config.default
    Reachability.offline Table.empty (fun _ => none) "Card" none "00:A0-cc:23:39:3F"
  have accepted := accepts.2 ⟨spelling, same⟩
  have bytes : some (spelling.bytes.map UInt8.toNat) = some [0, 160, 204, 35, 57, 63] :=
    (reads spelling same).2.1.symm.trans (by decide)
  refine ⟨accepted, ⟨spelling, same, Option.some.inj bytes⟩,
    (styles _ restyled).2.2 accepted, ?_⟩
  intro extended
  obtain ⟨-, broken⟩ := (alone accepted).2.2 "" "\n" extended
  exact absurd broken (by decide)

end Fieldwise.Validator
