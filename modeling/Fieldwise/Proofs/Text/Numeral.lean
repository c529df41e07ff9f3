import Mathlib.Algebra.Ring.Nat
import Mathlib.Data.List.Induction
import Mathlib.Tactic.IntervalCases
import Fieldwise.Proofs.BuiltIn.Demand
import Fieldwise.Proofs.Text.Margin

/-!
Contract: numerals as a relation between texts and integers.

Owns: which texts write which integer, with a sign or without one, the proof that reading a
numeral decides it, which characters a numeral holds, hexadecimal digits, numerals of a
fixed width with zeros in front, and numerals without leading zeros.

Does **not** own: that a canonical numeral reads back (`Fieldwise.Text.Numeral`).
-/

set_option autoImplicit false

namespace Fieldwise.Text

/-- One decimal digit or more, and nothing else. -/
def IsDigits (chars : List Char) : Prop :=
  chars ≠ [] ∧ ∀ char ∈ chars, char.isDigit = true

/-- A text writes an integer by decimal digits after at most one sign. Zeros may stand
in front of the other digits. -/
inductive Writes : List Char → Int → Prop where
  | unsigned {digits : List Char} (run : IsDigits digits) :
      Writes digits (Nat.ofDigitChars 10 digits 0)
  | plus {digits : List Char} (run : IsDigits digits) :
      Writes ('+' :: digits) (Nat.ofDigitChars 10 digits 0)
  | minus {digits : List Char} (run : IsDigits digits) :
      Writes ('-' :: digits) (-(Nat.ofDigitChars 10 digits 0 : Int))

/-- A text that writes an integer of 64 bits with a sign. -/
def IsInt64Numeral (chars : List Char) : Prop :=
  ∃ number, Writes chars number ∧ IsInt64 number

theorem natural?_eq_some_iff (chars : List Char) (value : Nat) :
    natural? chars = some value ↔ IsDigits chars ∧ Nat.ofDigitChars 10 chars 0 = value := by
  have runs : (chars ≠ [] ∧ chars.all Char.isDigit = true) ↔ IsDigits chars := by
    rw [IsDigits, List.all_eq_true]
  unfold natural?
  by_cases run : IsDigits chars
  · rw [if_pos (runs.2 run)]
    simp [run]
  · rw [if_neg (fun all => run (runs.1 all))]
    simp [run]

/-- The reading of digits under a sign. -/
theorem signed_eq_some_iff (sign : Int → Int) (digits : List Char) (number : Int) :
    ((natural? digits).map fun value => sign value) = some number ↔
      IsDigits digits ∧ sign (Nat.ofDigitChars 10 digits 0) = number := by
  rw [Option.map_eq_some_iff]
  constructor
  · intro read
    obtain ⟨_, lifted, rfl⟩ := read
    obtain ⟨value, unsigned, same⟩ := Option.bind_eq_some_iff.1 lifted
    obtain rfl := Option.some.inj same
    obtain ⟨run, rfl⟩ := (natural?_eq_some_iff digits value).1 unsigned
    exact ⟨run, rfl⟩
  · intro both
    obtain ⟨run, rfl⟩ := both
    refine ⟨_, ?_, rfl⟩
    rw [(natural?_eq_some_iff digits _).2 ⟨run, rfl⟩]
    rfl

theorem integer?_eq_some_iff (chars : List Char) (number : Int) :
    integer? chars = some number ↔ Writes chars number := by
  constructor
  · intro read
    unfold integer? at read
    split at read
    · obtain ⟨run, rfl⟩ := (signed_eq_some_iff (fun value => -value) _ number).1 read
      exact .minus run
    · obtain ⟨run, rfl⟩ := (signed_eq_some_iff (fun value => value) _ number).1 read
      exact .plus run
    · obtain ⟨run, rfl⟩ := (signed_eq_some_iff (fun value => value) _ number).1 read
      exact .unsigned run
  · intro writes
    cases writes with
    | minus run => exact (signed_eq_some_iff (fun value => -value) _ _).2 ⟨run, rfl⟩
    | plus run => exact (signed_eq_some_iff (fun value => value) _ _).2 ⟨run, rfl⟩
    | unsigned run =>
        rw [integer?_of_digits _ (List.all_eq_true.2 run.2)]
        exact (signed_eq_some_iff (fun value => value) _ _).2 ⟨run, rfl⟩

theorem isInt64_toInt (word : Int64) : IsInt64 word.toInt :=
  ((toInt64?_eq_some_iff word.toInt word).1 (toInt64?_toInt word)).1

/-- Reading succeeds exactly on the numerals of 64-bit integers, and gives the integer
that is written. -/
theorem int64?_eq_some_iff (chars : List Char) (word : Int64) :
    int64? chars = some word ↔ Writes chars word.toInt := by
  rw [int64?, Option.bind_eq_some_iff]
  constructor
  · intro read
    obtain ⟨number, written, inRange⟩ := read
    obtain ⟨-, rfl⟩ := (toInt64?_eq_some_iff number word).1 inRange
    exact (integer?_eq_some_iff chars _).1 written
  · intro writes
    exact ⟨word.toInt, (integer?_eq_some_iff chars _).2 writes, toInt64?_toInt word⟩

theorem int64?_eq_none_iff (chars : List Char) :
    int64? chars = none ↔ ¬ IsInt64Numeral chars := by
  rw [← Option.not_isSome_iff_eq_none, not_iff_not, Option.isSome_iff_exists]
  constructor
  · intro read
    obtain ⟨word, read⟩ := read
    exact ⟨word.toInt, (int64?_eq_some_iff chars word).1 read, isInt64_toInt word⟩
  · intro numeral
    obtain ⟨number, writes, fits⟩ := numeral
    obtain ⟨word, rfl⟩ := fits.exists_word
    exact ⟨word, (int64?_eq_some_iff chars word).2 writes⟩

/-! ## Unsigned numerals of 64 bits -/

/-- A text writes a natural number by decimal digits after at most one plus sign. -/
inductive WritesNatural : List Char → Nat → Prop where
  | bare {digits : List Char} (run : IsDigits digits) :
      WritesNatural digits (Nat.ofDigitChars 10 digits 0)
  | plus {digits : List Char} (run : IsDigits digits) :
      WritesNatural ('+' :: digits) (Nat.ofDigitChars 10 digits 0)

/-- A text that writes an unsigned integer of 64 bits. -/
def IsUInt64Numeral (chars : List Char) : Prop :=
  ∃ value, WritesNatural chars value ∧ value < 2 ^ 64

/-- There is no plus sign among digits. -/
theorem dropPlus_of_isDigits {digits : List Char} (run : IsDigits digits) :
    dropPlus digits = digits := by
  unfold dropPlus
  split
  · exact absurd (run.2 '+' List.mem_cons_self) (by decide)
  · rfl

theorem natural?_dropPlus_eq_some_iff (chars : List Char) (value : Nat) :
    natural? (dropPlus chars) = some value ↔ WritesNatural chars value := by
  constructor
  · intro read
    obtain ⟨run, rfl⟩ := (natural?_eq_some_iff _ value).1 read
    unfold dropPlus at run ⊢
    split at run
    · exact .plus run
    · exact .bare run
  · intro writes
    cases writes with
    | bare run =>
        rw [dropPlus_of_isDigits run]
        exact (natural?_eq_some_iff _ _).2 ⟨run, rfl⟩
    | plus run => exact (natural?_eq_some_iff _ _).2 ⟨run, rfl⟩

/-- Reading succeeds exactly on the numerals of unsigned 64-bit integers, and gives the
number that is written. -/
theorem uint64?_eq_some_iff (chars : List Char) (word : UInt64) :
    uint64? chars = some word ↔ WritesNatural chars word.toNat := by
  rw [uint64?, Option.bind_eq_some_iff]
  constructor
  · intro read
    obtain ⟨value, written, inRange⟩ := read
    obtain ⟨below, same⟩ := Option.ite_none_right_eq_some.1 inRange
    rw [← Option.some.inj same, UInt64.toNat_ofNat_of_lt' below]
    exact (natural?_dropPlus_eq_some_iff chars value).1 written
  · intro writes
    refine ⟨word.toNat, (natural?_dropPlus_eq_some_iff chars _).2 writes, ?_⟩
    rw [if_pos word.toNat_lt_size, UInt64.ofNat_toNat]

theorem uint64?_eq_none_iff (chars : List Char) :
    uint64? chars = none ↔ ¬ IsUInt64Numeral chars := by
  rw [← Option.not_isSome_iff_eq_none, not_iff_not, Option.isSome_iff_exists]
  constructor
  · intro read
    obtain ⟨word, read⟩ := read
    exact ⟨word.toNat, (uint64?_eq_some_iff chars word).1 read, word.toNat_lt⟩
  · intro numeral
    obtain ⟨value, writes, below⟩ := numeral
    refine ⟨UInt64.ofNat value, (uint64?_eq_some_iff chars _).2 ?_⟩
    rw [UInt64.toNat_ofNat_of_lt' below]
    exact writes

/-! ## Characters of numerals -/

theorem toNat_of_isDigit {char : Char} (digit : char.isDigit = true) :
    48 ≤ char.toNat ∧ char.toNat ≤ 57 := by
  simpa [Char.isDigit, UInt32.le_iff_toNat_le] using digit

/-- There are ten digits, and what each of them passes every digit passes. -/
theorem passes_of_isDigit
    {test : Char → Bool}
    (each : "0123456789".toList.all test = true)
    {char : Char}
    (digit : char.isDigit = true) :
    test char = true := by
  apply List.all_eq_true.1 each
  have bounds := toNat_of_isDigit digit
  rw [← Char.ofNat_toNat char]
  generalize char.toNat = code at bounds
  obtain ⟨least, most⟩ := bounds
  interval_cases code <;> decide

theorem isBlank_of_isDigit {char : Char} (digit : char.isDigit = true) :
    isBlank char = false := by
  have bounds := toNat_of_isDigit digit
  simp [isBlank, inRanges, blankRanges]
  omega

theorem Writes.of_mem
    {chars : List Char} {number : Int} {char : Char}
    (writes : Writes chars number)
    (member : char ∈ chars) :
    char = '+' ∨ char = '-' ∨ char.isDigit = true := by
  cases writes with
  | unsigned run => exact .inr (.inr (run.2 char member))
  | plus run =>
      rcases List.mem_cons.1 member with sign | digit
      · exact .inl sign
      · exact .inr (.inr (run.2 char digit))
  | minus run =>
      rcases List.mem_cons.1 member with sign | digit
      · exact .inr (.inl sign)
      · exact .inr (.inr (run.2 char digit))

/-- A text writes one integer at most. -/
theorem Writes.unique
    {chars : List Char} {number other : Int}
    (writes : Writes chars number)
    (also : Writes chars other) :
    number = other := by
  have read := (integer?_eq_some_iff chars number).2 writes
  rw [(integer?_eq_some_iff chars other).2 also] at read
  exact (Option.some.inj read).symm

theorem Writes.isBlank_of_mem
    {chars : List Char} {number : Int} {char : Char}
    (writes : Writes chars number)
    (member : char ∈ chars) :
    isBlank char = false := by
  rcases writes.of_mem member with rfl | rfl | digit
  · decide
  · decide
  · exact isBlank_of_isDigit digit

theorem Writes.not_endsBlank
    {chars : List Char} {number : Int}
    (writes : Writes chars number) :
    ¬ EndsBlank chars := by
  intro ends
  obtain ⟨char, last, blank⟩ := ends
  rw [writes.isBlank_of_mem (List.mem_of_getLast? last)] at blank
  cases blank

/-- There is nothing to trim of a numeral. -/
theorem Writes.trim_eq_self
    {chars : List Char} {number : Int}
    (writes : Writes chars number) :
    trim chars = chars := by
  refine Text.trim_eq_self ?_ writes.not_endsBlank
  intro starts
  obtain ⟨char, first, blank⟩ := starts
  rw [writes.isBlank_of_mem (List.mem_of_head? first)] at blank
  cases blank

/-- The canonical numeral of an integer holds a minus sign and digits only. -/
theorem mem_signedDecimal
    {char : Char} {number : Int}
    (member : char ∈ signedDecimal number) :
    char = '-' ∨ char.isDigit = true := by
  have digits : ∀ value : Nat, ∀ digit ∈ decimal value, digit.isDigit = true :=
    fun value => List.all_eq_true.1 (all_isDigit_decimal value)
  unfold signedDecimal at member
  split at member
  · rcases List.mem_cons.1 member with sign | digit
    · exact .inl sign
    · exact .inr (digits _ char digit)
  · exact .inr (digits _ char member)

/-! ## Hexadecimal digits -/

def IsHexDigit (char : Char) : Prop :=
  '0' ≤ char ∧ char ≤ '9' ∨ 'a' ≤ char ∧ char ≤ 'f' ∨ 'A' ≤ char ∧ char ≤ 'F'

instance (char : Char) : Decidable (IsHexDigit char) :=
  inferInstanceAs (Decidable (_ ∧ _ ∨ _ ∧ _ ∨ _ ∧ _))

theorem isDigit_eq_true_iff (char : Char) : char.isDigit = true ↔ '0' ≤ char ∧ char ≤ '9' := by
  simp [Char.isDigit, Char.le_def]

theorem isHexDigit_eq_true_iff (char : Char) : isHexDigit char = true ↔ IsHexDigit char := by
  simp only [isHexDigit, Bool.or_eq_true, Bool.and_eq_true, decide_eq_true_eq,
    isDigit_eq_true_iff, IsHexDigit, or_assoc]

theorem IsHexDigit.of_isDigit {char : Char} (digit : char.isDigit = true) : IsHexDigit char :=
  .inl ((isDigit_eq_true_iff char).1 digit)

/-- The case of the letters among hexadecimal digits. -/
inductive LetterCase where
  | lower
  | upper

namespace LetterCase

/-- The hexadecimal digit of a value below sixteen. -/
def hexDigit : LetterCase → Nat → Char
  | lower, value => Nat.digitChar value
  | upper, value => (Nat.digitChar value).toUpper

variable {value : Nat} (small : value < 16)

include small

theorem isHexDigit_hexDigit (form : LetterCase) : isHexDigit (form.hexDigit value) = true := by
  revert value
  cases form <;> decide

theorem hexValue_hexDigit (form : LetterCase) : hexValue (form.hexDigit value) = value := by
  revert value
  cases form <;> decide

end LetterCase

/-- The characters of a range are counted from its first one. -/
theorem exists_offset_of_range
    {first last char : Char}
    (count : Nat)
    (within : first ≤ char ∧ char ≤ last)
    (wide : last.toNat < first.toNat + count) :
    ∃ offset < count, Char.ofNat (first.toNat + offset) = char := by
  obtain ⟨above, below⟩ : first.toNat ≤ char.toNat ∧ char.toNat ≤ last.toNat := within
  refine ⟨char.toNat - first.toNat, by omega, ?_⟩
  rw [Nat.add_sub_cancel' above, Char.ofNat_toNat]

/-- Every hexadecimal digit is the one of its value, in one of the two cases. -/
theorem IsHexDigit.exists_hexDigit {char : Char} (digit : IsHexDigit char) :
    ∃ (form : LetterCase) (value : Nat), value < 16 ∧ form.hexDigit value = char := by
  have decimal : ∀ offset < 10,
      LetterCase.lower.hexDigit offset = Char.ofNat ('0'.toNat + offset) := by
    decide
  have lower : ∀ offset < 6,
      LetterCase.lower.hexDigit (10 + offset) = Char.ofNat ('a'.toNat + offset) := by
    decide
  have upper : ∀ offset < 6,
      LetterCase.upper.hexDigit (10 + offset) = Char.ofNat ('A'.toNat + offset) := by
    decide
  rcases digit with range | range | range
  · obtain ⟨offset, small, rfl⟩ := exists_offset_of_range 10 range (by decide)
    exact ⟨.lower, offset, by omega, decimal offset small⟩
  · obtain ⟨offset, small, rfl⟩ := exists_offset_of_range 6 range (by decide)
    exact ⟨.lower, 10 + offset, by omega, lower offset small⟩
  · obtain ⟨offset, small, rfl⟩ := exists_offset_of_range 6 range (by decide)
    exact ⟨.upper, 10 + offset, by omega, upper offset small⟩

/-- Only the letters from A to Z have another character in lower case. What is the same for
them in both cases is so for every character. -/
theorem toLower_congr
    {Result : Type}
    (see : Char → Result)
    (letters : ∀ offset < 26,
      see (Char.ofNat ('A'.toNat + offset)).toLower = see (Char.ofNat ('A'.toNat + offset)))
    (char : Char) :
    see char.toLower = see char := by
  by_cases range : 'A' ≤ char ∧ char ≤ 'Z'
  · obtain ⟨offset, small, rfl⟩ := exists_offset_of_range 26 range (by decide)
    exact letters offset small
  · have same : char.toLower = char := dif_neg range
    rw [same]

theorem isHexDigit_toLower (char : Char) : isHexDigit char.toLower = isHexDigit char :=
  toLower_congr isHexDigit (by decide) char

theorem hexValue_toLower (char : Char) : hexValue char.toLower = hexValue char :=
  toLower_congr hexValue (by decide) char

theorem hexNumber_pair (high low : Char) :
    hexNumber [high, low] = 16 * hexValue high + hexValue low := by
  rw [hexNumber, List.foldl_cons, List.foldl_cons, List.foldl_nil, Nat.mul_zero, Nat.zero_add]

/-! ## Numerals of a fixed width -/

theorem ofDigitChars_concat (digits : List Char) (last : Char) :
    Nat.ofDigitChars 10 (digits ++ [last]) 0 =
      10 * Nat.ofDigitChars 10 digits 0 + (last.toNat - 48) := by
  rw [Nat.ofDigitChars_append, Nat.ofDigitChars_cons, Nat.ofDigitChars_nil]
  rfl

/-- A text of digits is determined by its length and its value. -/
theorem eq_of_ofDigitChars_eq
    {left right : List Char}
    (leftRun : ∀ char ∈ left, char.isDigit = true)
    (rightRun : ∀ char ∈ right, char.isDigit = true)
    (width : left.length = right.length)
    (value : Nat.ofDigitChars 10 left 0 = Nat.ofDigitChars 10 right 0) :
    left = right := by
  induction left using List.reverseRecOn generalizing right with
  | nil => exact (List.length_eq_zero_iff.1 width.symm).symm
  | append_singleton digits last inductionHypothesis =>
      rcases List.eq_nil_or_concat' right with rfl | ⟨others, other, rfl⟩
      · simp at width
      · have lastDigit := toNat_of_isDigit (leftRun last (by simp))
        have otherDigit := toNat_of_isDigit (rightRun other (by simp))
        rw [ofDigitChars_concat, ofDigitChars_concat] at value
        have sameRest : digits = others := by
          apply inductionHypothesis
          · exact fun char member => leftRun char (by simp [member])
          · exact fun char member => rightRun char (by simp [member])
          · simpa using width
          · omega
        have sameLast : last = other := Char.toNat_inj.1 (by omega)
        rw [sameRest, sameLast]

theorem ofDigitChars_lt {digits : List Char} (run : ∀ char ∈ digits, char.isDigit = true) :
    Nat.ofDigitChars 10 digits 0 < 10 ^ digits.length := by
  induction digits using List.reverseRecOn with
  | nil => simp
  | append_singleton digits last inductionHypothesis =>
      have lastDigit := toNat_of_isDigit (run last (by simp))
      have shorter := inductionHypothesis fun char member => run char (by simp [member])
      rw [ofDigitChars_concat, List.length_append, List.length_singleton, pow_succ]
      omega

section Padded

variable {width value : Nat}

theorem isDigit_of_mem_padded {char : Char} (member : char ∈ padded width value) :
    char.isDigit = true := by
  rcases List.mem_append.1 member with zero | digit
  · rw [List.eq_of_mem_replicate zero]
    rfl
  · exact List.all_eq_true.1 (all_isDigit_decimal value) char digit

theorem ofDigitChars_padded (width value : Nat) :
    Nat.ofDigitChars 10 (padded width value) 0 = value := by
  rw [padded, Nat.ofDigitChars_append, Nat.ofDigitChars_replicate_zero, decimal]
  simp [Nat.ofDigitChars_ten_toDigits]

theorem length_padded (positive : 0 < width) (below : value < 10 ^ width) :
    (padded width value).length = width := by
  have short : (decimal value).length ≤ width :=
    (Nat.length_toDigits_le_iff (by decide) positive).2 below
  rw [padded, List.length_append, List.length_replicate]
  omega

/-- The texts of so many digits are the padded numerals of the numbers below the power of
ten. -/
theorem eq_padded_iff (positive : 0 < width) (chars : List Char) :
    value < 10 ^ width ∧ chars = padded width value ↔
      chars.length = width ∧ IsDigits chars ∧ Nat.ofDigitChars 10 chars 0 = value := by
  constructor
  · rintro ⟨below, rfl⟩
    have long := length_padded positive below
    refine ⟨long, ⟨?_, fun char => isDigit_of_mem_padded⟩, ofDigitChars_padded width value⟩
    rintro empty
    rw [empty] at long
    simp at long
    omega
  · rintro ⟨rfl, ⟨-, run⟩, rfl⟩
    have below := ofDigitChars_lt run
    refine ⟨below, eq_of_ofDigitChars_eq run (fun char => isDigit_of_mem_padded) ?_ ?_⟩
    · exact (length_padded positive below).symm
    · exact (ofDigitChars_padded _ _).symm

end Padded

/-! ## Numerals without leading zeros -/

/-- A number whose digits do not start with a zero is as large as so many digits ask for. -/
theorem pow_le_ofDigitChars_cons
    {first : Char}
    (digit : first.isDigit = true)
    (other : first ≠ '0')
    (rest : List Char) :
    10 ^ rest.length ≤ Nat.ofDigitChars 10 (first :: rest) 0 := by
  have bounds := toNat_of_isDigit digit
  have apart : first.toNat ≠ 48 := fun same => other (Char.toNat_inj.1 same)
  have leading : 1 ≤ 10 * 0 + (first.toNat - '0'.toNat) := by
    show 1 ≤ 10 * 0 + (first.toNat - 48)
    omega
  rw [Nat.ofDigitChars_cons, Nat.ofDigitChars_eq_ofDigitChars_zero]
  calc
    10 ^ rest.length ≤ 10 ^ rest.length * (10 * 0 + (first.toNat - '0'.toNat)) :=
      Nat.le_mul_of_pos_right _ leading
    _ ≤ _ := Nat.le_add_right _ _

/-- A text of digits is the canonical numeral of its value if it does not start with a zero,
or is just a zero. -/
theorem eq_decimal_iff (chars : List Char) :
    chars = decimal (Nat.ofDigitChars 10 chars 0) ↔
      IsDigits chars ∧ (chars.head? = some '0' → chars = ['0']) := by
  constructor
  · intro canonical
    have digits : ∀ char ∈ chars, char.isDigit = true := by
      rw [canonical]
      exact List.all_eq_true.1 (all_isDigit_decimal _)
    have written : chars ≠ [] := by
      rw [canonical]
      exact Nat.toDigits_ne_nil
    refine ⟨⟨written, digits⟩, ?_⟩
    intro zero
    obtain ⟨rest, rfl⟩ := List.head?_eq_some_iff.1 zero
    cases rest with
    | nil => rfl
    | cons next more =>
        -- The value of the other digits needs fewer digits than are there.
        have value : Nat.ofDigitChars 10 ('0' :: next :: more) 0 =
            Nat.ofDigitChars 10 (next :: more) 0 := Nat.ofDigitChars_cons
        have below : Nat.ofDigitChars 10 (next :: more) 0 < 10 ^ (next :: more).length :=
          ofDigitChars_lt fun char member => digits char (List.mem_cons_of_mem _ member)
        have short := (Nat.length_toDigits_le_iff (by decide) (by simp)).2 below
        have long := congrArg List.length canonical
        rw [value, decimal] at long
        simp only [List.length_cons] at long short
        omega
  · rintro ⟨⟨written, digits⟩, plain⟩
    refine eq_of_ofDigitChars_eq digits (List.all_eq_true.1 (all_isDigit_decimal _)) ?_
      Nat.ofDigitChars_ten_toDigits.symm
    obtain ⟨first, rest, rfl⟩ := List.exists_cons_of_ne_nil written
    have upper := (Nat.length_toDigits_le_iff (by decide) (by simp)).2 (ofDigitChars_lt digits)
    rw [decimal]
    cases rest with
    | nil =>
        have some := List.length_pos_iff.2
          (Nat.toDigits_ne_nil (b := 10) (n := Nat.ofDigitChars 10 [first] 0))
        simp only [List.length_cons, List.length_nil] at upper ⊢
        omega
    | cons next more =>
        have other : first ≠ '0' := by
          rintro rfl
          cases plain rfl
        have large := pow_le_ofDigitChars_cons (digits first (by simp)) other (next :: more)
        have lower := mt (Nat.length_toDigits_le_iff (by decide) (by simp)).1 (not_lt.2 large)
        simp only [List.length_cons] at upper lower ⊢
        omega

end Fieldwise.Text
