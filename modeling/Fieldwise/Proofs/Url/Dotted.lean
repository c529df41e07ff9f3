import Fieldwise.Proofs.Format.IpAddress
import Fieldwise.Url.Host

/-!
Contract: dotted literals in the hosts of web addresses.

Owns: what reading one number of a dotted tail does and what reading all of them accepts,
and dotted literals as hosts that are numbers.

Does **not** own: the grammar of literals (`Fieldwise.Proofs.Format.IpAddress`), and the
pieces that a dotted tail stands behind (`Fieldwise.Proofs.Url.Bracketed`).

A tail is read digit by digit, each number from its first digit on, while the grammar says
what a number is as a whole. A number that was begun is therefore followed by its value so
far and the digits that may go on with it.
-/

set_option autoImplicit false

namespace Fieldwise.Url

open Format

/-! ## Dotted tails -/

/-- Digits go on with a number: none of them follows a leading zero, and the number with
them is at most 255. -/
structure ContinuesByte (value : Nat) (digits : List Char) : Prop where
  run : ∀ char ∈ digits, char.isDigit = true
  plain : value = 0 → digits = []
  bounded : Nat.ofDigitChars 10 digits value ≤ 255

theorem le_ofDigitChars (digits : List Char) (value : Nat) :
    value ≤ Nat.ofDigitChars 10 digits value := by
  rw [Nat.ofDigitChars_eq_ofDigitChars_zero]
  have power : 0 < 10 ^ digits.length := Nat.pow_pos (by decide)
  exact Nat.le_add_right_of_le (Nat.le_mul_of_pos_left value power)

theorem continuesByte_nil_iff (value : Nat) : ContinuesByte value [] ↔ value ≤ 255 := by
  constructor
  · intro goesOn
    simpa using goesOn.bounded
  · intro bounded
    exact ⟨by simp, fun _ => rfl, by simpa using bounded⟩

/-- One digit more: the number is not zero before it, and not too great with it. -/
theorem continuesByte_cons_iff
    {char : Char}
    (digit : char.isDigit = true)
    (value : Nat)
    (digits : List Char) :
    ContinuesByte value (char :: digits) ↔
      value ≠ 0 ∧ ContinuesByte (10 * value + (char.toNat - '0'.toNat)) digits := by
  constructor
  · intro goesOn
    have written : value ≠ 0 := fun zero => absurd (goesOn.plain zero) (by simp)
    refine ⟨written, (List.forall_mem_cons.1 goesOn.run).2, ?_, ?_⟩
    · intro zero
      omega
    · rw [← Nat.ofDigitChars_cons]
      exact goesOn.bounded
  · rintro ⟨written, goesOn⟩
    refine ⟨List.forall_mem_cons.2 ⟨digit, goesOn.run⟩, fun zero => absurd zero written, ?_⟩
    rw [Nat.ofDigitChars_cons]
    exact goesOn.bounded

theorem value_eq_zero_iff {char : Char} (digit : char.isDigit = true) :
    char.toNat - '0'.toNat = 0 ↔ char = '0' := by
  have least := (Text.toNat_of_isDigit digit).1
  have zero : '0'.toNat = 48 := rfl
  rw [zero, Nat.sub_eq_zero_iff_le, ← Char.toNat_inj, zero]
  omega

/-- The numbers of dotted literals are a digit and the digits that go on with it. -/
theorem isOctet_cons_iff {char : Char} (digit : char.isDigit = true) (digits : List Char) :
    IsOctet (char :: digits) ↔ ContinuesByte (char.toNat - '0'.toNat) digits := by
  have value : Nat.ofDigitChars 10 (char :: digits) 0 =
      Nat.ofDigitChars 10 digits (char.toNat - '0'.toNat) := by
    rw [Nat.ofDigitChars_cons, Nat.mul_zero, Nat.zero_add]
  constructor
  · intro octet
    refine ⟨(List.forall_mem_cons.1 octet.digits.2).2, ?_, ?_⟩
    · intro zero
      have alone := octet.plain (congrArg some ((value_eq_zero_iff digit).1 zero))
      exact (List.cons.inj alone).2
    · rw [← value]
      exact octet.bounded
  · intro goesOn
    have plain : digits = [] ∨ char ≠ '0' := by
      by_cases zero : char = '0'
      · exact .inl (goesOn.plain ((value_eq_zero_iff digit).2 zero))
      · exact .inr zero
    have run : ∀ other ∈ char :: digits, other.isDigit = true :=
      List.forall_mem_cons.2 ⟨digit, goesOn.run⟩
    have bounded := goesOn.bounded
    rw [← value] at bounded
    rw [← isOctet_eq_true_iff]
    simp only [isOctet, Bool.and_eq_true, Bool.or_eq_true, decide_eq_true_eq, List.all_eq_true]
    exact ⟨⟨⟨by simp, run⟩, by simpa using plain⟩, bounded⟩

theorem readByte?_cons_of_digit
    {char : Char}
    (digit : char.isDigit = true)
    (value : Nat)
    (rest : List Char) :
    readByte? (some value) (char :: rest) =
      if value ≠ 0 ∧ 10 * value + (char.toNat - '0'.toNat) ≤ 255 then
        readByte? (some (10 * value + (char.toNat - '0'.toNat))) rest
      else none := by
  rw [readByte?, if_pos digit]
  cases value with
  | zero => rfl
  | succ value => simp

theorem readByte?_cons_of_not_digit
    {char : Char}
    (other : ¬ char.isDigit = true)
    (number : Option Nat)
    (rest : List Char) :
    readByte? number (char :: rest) = number.map fun _ => char :: rest := by
  rw [readByte?, if_neg other]

/-- The rest of a number is read up to the first character that is no digit. -/
theorem readByte?_some_iff
    {value : Nat}
    (bounded : value ≤ 255)
    (chars after : List Char) :
    readByte? (some value) chars = some after ↔
      ∃ digits, ContinuesByte value digits ∧ chars = digits ++ after ∧
        ∀ char ∈ after.head?, ¬ char.isDigit = true := by
  have nothing : ContinuesByte value [] := (continuesByte_nil_iff value).2 bounded
  induction chars generalizing value with
  | nil =>
      rw [readByte?, Option.map_some, Option.some.injEq]
      constructor
      · rintro rfl
        exact ⟨[], nothing, rfl, by simp⟩
      · rintro ⟨digits, -, whole, -⟩
        exact (List.append_eq_nil_iff.1 whole.symm).2.symm
  | cons char rest inductionHypothesis =>
      by_cases digit : char.isDigit = true
      · rw [readByte?_cons_of_digit digit]
        constructor
        · intro read
          split at read
          · rename_i within
            obtain ⟨digits, goesOn, rfl, stops⟩ :=
              (inductionHypothesis within.2 ((continuesByte_nil_iff _).2 within.2)).1 read
            exact ⟨char :: digits, (continuesByte_cons_iff digit value digits).2 ⟨within.1, goesOn⟩,
              rfl, stops⟩
          · cases read
        · rintro ⟨digits, goesOn, whole, stops⟩
          -- The digit at the start is none that stops the number, so it belongs to it.
          cases digits with
          | nil =>
              obtain rfl : char :: rest = after := whole
              exact absurd digit (stops char rfl)
          | cons first digits =>
              obtain ⟨rfl, rfl⟩ := List.cons.inj whole
              obtain ⟨written, goesOn⟩ := (continuesByte_cons_iff digit value digits).1 goesOn
              have within := (le_ofDigitChars digits _).trans goesOn.bounded
              rw [if_pos ⟨written, within⟩]
              exact (inductionHypothesis within ((continuesByte_nil_iff _).2 within)).2
                ⟨digits, goesOn, rfl, stops⟩
      · rw [readByte?_cons_of_not_digit digit, Option.map_some, Option.some.injEq]
        constructor
        · rintro rfl
          exact ⟨[], nothing, rfl, by simpa using digit⟩
        · rintro ⟨digits, goesOn, whole, -⟩
          cases digits with
          | nil => exact whole
          | cons first digits =>
              obtain ⟨rfl, -⟩ := List.cons.inj whole
              exact absurd (goesOn.run char (by simp)) digit

/-- A number at the start of a text is one of a dotted literal, up to the first character
that is no digit. -/
theorem readByte?_none_iff (chars after : List Char) :
    readByte? none chars = some after ↔
      ∃ octet, IsOctet octet ∧ chars = octet ++ after ∧
        ∀ char ∈ after.head?, ¬ char.isDigit = true := by
  cases chars with
  | nil =>
      refine iff_of_false nofun ?_
      rintro ⟨octet, isOctet, whole, -⟩
      exact isOctet.digits.1 (List.append_eq_nil_iff.1 whole.symm).1
  | cons char rest =>
      by_cases digit : char.isDigit = true
      · have small : char.toNat - '0'.toNat ≤ 255 := by
          have bounds := Text.toNat_of_isDigit digit
          omega
        have read : readByte? none (char :: rest) =
            readByte? (some (char.toNat - '0'.toNat)) rest := by
          rw [readByte?, if_pos digit]
        rw [read, readByte?_some_iff small]
        constructor
        · rintro ⟨digits, goesOn, rfl, stops⟩
          exact ⟨char :: digits, (isOctet_cons_iff digit digits).2 goesOn, rfl, stops⟩
        · rintro ⟨octet, isOctet, whole, stops⟩
          obtain ⟨first, digits, rfl⟩ := List.exists_cons_of_ne_nil isOctet.digits.1
          obtain ⟨rfl, rfl⟩ := List.cons.inj whole
          exact ⟨digits, (isOctet_cons_iff digit digits).1 isOctet, rfl, stops⟩
      · rw [readByte?_cons_of_not_digit digit]
        refine iff_of_false nofun ?_
        rintro ⟨octet, isOctet, whole, -⟩
        obtain ⟨first, digits, rfl⟩ := List.exists_cons_of_ne_nil isOctet.digits.1
        obtain ⟨rfl, -⟩ := List.cons.inj whole
        exact digit (isOctet.digits.2 char (by simp))

theorem readNumbers_succ_iff (more : Nat) (chars : List Char) :
    readNumbers (more + 1) chars = true ↔
      ∃ octet rest, IsOctet octet ∧ chars = octet ++ '.' :: rest ∧
        readNumbers more rest = true := by
  have dot : ∀ rest : List Char, ∀ char ∈ ('.' :: rest).head?, ¬ char.isDigit = true := by
    rintro rest char isFirst
    obtain rfl : '.' = char := by simpa using isFirst
    decide
  rw [readNumbers]
  constructor
  · intro read
    split at read
    · rename_i rest found
      obtain ⟨octet, isOctet, whole, -⟩ := (readByte?_none_iff chars _).1 found
      exact ⟨octet, rest, isOctet, whole, read⟩
    · cases read
  · rintro ⟨octet, rest, isOctet, whole, read⟩
    rw [(readByte?_none_iff chars ('.' :: rest)).2 ⟨octet, isOctet, whole, dot rest⟩]
    exact read

/-- A dotted tail is so many numbers and one more, with a dot between each two. -/
theorem readNumbers_eq_true_iff (more : Nat) (chars : List Char) :
    readNumbers more chars = true ↔
      ∃ octets : List (List Char),
        octets.length = more + 1 ∧ (∀ octet ∈ octets, IsOctet octet) ∧
          chars = ['.'].intercalate octets := by
  induction more generalizing chars with
  | zero =>
      rw [readNumbers, decide_eq_true_iff, readByte?_none_iff]
      constructor
      · rintro ⟨octet, isOctet, whole, -⟩
        exact ⟨[octet], rfl, by simpa using isOctet, by simpa [List.intercalate] using whole⟩
      · rintro ⟨octets, single, each, rfl⟩
        obtain ⟨octet, rfl⟩ := List.length_eq_one_iff.1 single
        exact ⟨octet, each octet (by simp), by simp [List.intercalate], by simp⟩
  | succ more inductionHypothesis =>
      rw [readNumbers_succ_iff]
      simp only [inductionHypothesis]
      constructor
      · rintro ⟨octet, _, isOctet, rfl, octets, long, each, rfl⟩
        refine ⟨octet :: octets, by simp [long], by simpa using ⟨isOctet, each⟩, ?_⟩
        obtain ⟨next, others, rfl⟩ := List.exists_cons_of_length_eq_add_one long
        rw [List.intercalate_cons_cons, List.append_assoc, List.singleton_append]
      · rintro ⟨octets, long, each, rfl⟩
        match octets, long with
        | octet :: next :: others, long =>
            refine ⟨octet, ['.'].intercalate (next :: others), each octet (by simp), ?_,
              next :: others, by simpa using long, fun other member => each other (by simp [member]),
              rfl⟩
            rw [List.intercalate_cons_cons, List.append_assoc, List.singleton_append]

/-! ## Hosts that are numbers -/

theorem foldl_hexValue_of_digits
    {digits : List Char}
    (run : ∀ char ∈ digits, char.isDigit = true)
    (start : Nat) :
    digits.foldl (fun number char => 10 * number + Text.hexValue char) start =
      Nat.ofDigitChars 10 digits start := by
  induction digits generalizing start with
  | nil => simp
  | cons char rest inductionHypothesis =>
      have value : Text.hexValue char = char.toNat - '0'.toNat := if_pos (run char (by simp))
      rw [List.foldl_cons, inductionHypothesis fun other member => run other (by simp [member]),
        Nat.ofDigitChars_cons, value]

/-- A number of a dotted literal is read as a decimal number, since only zero itself starts
with a zero. -/
theorem hostNumber?_of_isOctet {chars : List Char} (octet : IsOctet chars) :
    hostNumber? chars = some (.value (Nat.ofDigitChars 10 chars 0)) := by
  obtain ⟨⟨written, digits⟩, -, plain, bounded⟩ := octet
  unfold hostNumber?
  split
  · exact absurd rfl written
  · exact absurd (plain rfl) (by simp)
  · exact absurd (plain rfl) (by simp)
  · exact absurd (plain rfl) (by simp)
  · have small : Nat.ofDigitChars 10 chars 0 < UInt32.size := by
      have size : UInt32.size = 4294967296 := rfl
      omega
    rw [digitsNumber?, if_pos (List.all_eq_true.2 digits), foldl_hexValue_of_digits digits]
    exact congrArg some (if_pos small)

theorem isNumericHost_of_isDottedLiteral
    {chars : List Char}
    (literal : IsDottedLiteral chars) :
    isNumericHost chars = true := by
  obtain ⟨octets, four, each, rfl⟩ := literal
  have parts : hostParts (['.'].intercalate octets) = octets := by
    have last : octets.getLast? ≠ some [] := by
      intro empty
      exact (each [] (List.mem_of_getLast? empty)).digits.1 rfl
    rw [hostParts, splitOn_dotted four each]
    exact if_neg last
  match octets, four with
  | [first, second, third, fourth], _ =>
      have number (octet : List Char) (member : octet ∈ [first, second, third, fourth]) :=
        hostNumber?_of_isOctet (each octet member)
      have bound (octet : List Char) (member : octet ∈ [first, second, third, fourth]) :=
        (each octet member).bounded
      -- The last number may take up the bytes that are not written, here one.
      have last : Nat.ofDigitChars 10 fourth 0 < 256 := Nat.lt_succ_of_le (bound fourth (by simp))
      rw [isNumericHost, parts]
      simp [number, fitFourBytes, bound, last]

theorem isForbiddenDomainChar_of_isDigit {char : Char} (digit : char.isDigit = true) :
    isForbiddenDomainChar char = false := by
  have each : "0123456789".toList.all (fun char => !isForbiddenDomainChar char) = true := by
    decide
  have passes := Text.passes_of_isDigit each digit
  rwa [Bool.not_eq_true'] at passes

/-- A mapping of the names of hosts to ASCII leaves digits and dots as they are. -/
def LeavesDigits (domain? : List Char → Option (List Char)) : Prop :=
  ∀ chars, (∀ char ∈ chars, char.isDigit = true ∨ char = '.') → domain? chars = some chars

/-- A dotted literal is a host of special addresses. -/
theorem isHost_of_isDottedLiteral
    {domain? : List Char → Option (List Char)} {chars : List Char}
    (leaves : LeavesDigits domain?)
    (literal : IsDottedLiteral chars) :
    isHost domain? chars = true := by
  have unbracketed : chars.head? ≠ some '[' := by
    intro bracket
    rcases literal.of_mem (List.mem_of_head? bracket) with digit | dot
    · exact absurd digit (by decide)
    · exact absurd dot (by decide)
  have allowed : chars.any isForbiddenDomainChar = false := by
    rw [List.any_eq_false]
    intro char member
    rcases literal.of_mem member with digit | rfl
    · simp [isForbiddenDomainChar_of_isDigit digit]
    · decide
  rw [isHost, if_neg unbracketed, leaves chars fun char member => literal.of_mem member]
  simp [literal.isPart.1, allowed, isNumericHost_of_isDottedLiteral literal]
end Fieldwise.Url
