import Mathlib.Computability.Language
import Fieldwise.Proofs.Lists

/-!
Contract: texts that match a pattern.

Owns: the language of one character of a class, repetition from a least number of turns
on, and the repetition of pieces that each end in a separator, as the pieces of a text.

Does **not** own: the matching of a pattern by a program; a text matches if it is in the
language.

Where the pieces do not hold the separator, a text has one division into turns, so that
how a matcher divides it makes no difference.
-/

set_option autoImplicit false

namespace Fieldwise.Text.Pattern

open scoped Computability

/-- One character of a class. -/
def oneOf (inClass : Char → Prop) : Language Char :=
  {chars | ∃ char, inClass char ∧ chars = [char]}

/-- At least so many turns of a pattern, one after the other. -/
def atLeast (count : Nat) (turn : Language Char) : Language Char :=
  turn ^ count * turn∗

/-- One or more turns, as a pattern with a plus sign has them. -/
abbrev oneOrMore (turn : Language Char) : Language Char :=
  atLeast 1 turn

theorem mem_atLeast_iff {count : Nat} {turn : Language Char} {chars : List Char} :
    chars ∈ atLeast count turn ↔
      ∃ turns : List (List Char),
        count ≤ turns.length ∧ (∀ part ∈ turns, part ∈ turn) ∧ chars = turns.flatten := by
  rw [atLeast, Language.mem_mul]
  constructor
  · rintro ⟨first, inPower, rest, inStar, rfl⟩
    obtain ⟨turns, rfl, long, each⟩ := Language.mem_pow.1 inPower
    obtain ⟨more, rfl, eachMore⟩ := Language.mem_kstar.1 inStar
    refine ⟨turns ++ more, ?_, ?_, List.flatten_append.symm⟩
    · rw [List.length_append]
      omega
    · intro part member
      rcases List.mem_append.1 member with early | late
      · exact each part early
      · exact eachMore part late
  · rintro ⟨turns, long, each, rfl⟩
    refine ⟨(turns.take count).flatten, ?_, (turns.drop count).flatten, ?_, ?_⟩
    · apply Language.mem_pow.2
      exact ⟨turns.take count, rfl, List.length_take_of_le long,
        fun part member => each part (List.mem_of_mem_take member)⟩
    · exact Language.join_mem_kstar fun part member => each part (List.mem_of_mem_drop member)
    · rw [← List.flatten_append, List.take_append_drop]

/-- A run of characters of a class. -/
theorem mem_atLeast_oneOf_iff {count : Nat} {inClass : Char → Prop} {chars : List Char} :
    chars ∈ atLeast count (oneOf inClass) ↔
      count ≤ chars.length ∧ ∀ char ∈ chars, inClass char := by
  rw [mem_atLeast_iff]
  constructor
  · rintro ⟨turns, long, each, rfl⟩
    obtain ⟨run, allIn, rfl⟩ := exists_map_of_forall_mem each
    rw [List.length_map] at long
    rw [← List.flatMap_def, List.flatMap_singleton']
    exact ⟨long, allIn⟩
  · rintro ⟨long, allIn⟩
    refine ⟨chars.map fun char => [char], by rwa [List.length_map], ?_, ?_⟩
    · intro part member
      obtain ⟨char, inChars, rfl⟩ := List.mem_map.1 member
      exact ⟨char, allIn char inChars, rfl⟩
    · rw [← List.flatMap_def, List.flatMap_singleton']

/-- So many characters of a class. -/
theorem mem_oneOf_pow_iff {count : Nat} {inClass : Char → Prop} {chars : List Char} :
    chars ∈ oneOf inClass ^ count ↔ chars.length = count ∧ ∀ char ∈ chars, inClass char := by
  rw [Language.mem_pow]
  constructor
  · rintro ⟨turns, rfl, rfl, each⟩
    obtain ⟨run, allIn, rfl⟩ := exists_map_of_forall_mem each
    rw [List.length_map, ← List.flatMap_def, List.flatMap_singleton']
    exact ⟨rfl, allIn⟩
  · rintro ⟨rfl, allIn⟩
    refine ⟨chars.map fun char => [char], ?_, by rw [List.length_map], ?_⟩
    · rw [← List.flatMap_def, List.flatMap_singleton']
    · intro part member
      obtain ⟨char, inChars, rfl⟩ := List.mem_map.1 member
      exact ⟨char, allIn char inChars, rfl⟩

/-! ## Separators -/

section Separator

variable {separator : Char} {chars : List Char} {body front back : Language Char}

/-- A text of two parts around a separator. -/
theorem mem_mul_oneOf_mul_iff :
    chars ∈ front * oneOf (· = separator) * back ↔
      ∃ first ∈ front, ∃ rest ∈ back, chars = first ++ separator :: rest := by
  simp only [Language.mem_mul]
  constructor
  · rintro ⟨_, ⟨first, inFront, _, ⟨_, rfl, rfl⟩, rfl⟩, rest, inBack, rfl⟩
    exact ⟨first, inFront, rest, inBack, by simp⟩
  · rintro ⟨first, inFront, rest, inBack, rfl⟩
    exact ⟨_, ⟨first, inFront, [separator], ⟨separator, rfl, rfl⟩, rfl⟩, rest, inBack, by simp⟩

/-- Pieces with a separator behind each, and a last one without. -/
theorem flatten_map_append_separator (pieces : List (List Char)) (last : List Char) :
    (pieces.map (· ++ [separator])).flatten ++ last =
      [separator].intercalate (pieces ++ [last]) := by
  induction pieces with
  | nil => simp
  | cons piece rest inductionHypothesis =>
      obtain ⟨next, more, cut⟩ := List.exists_cons_of_ne_nil (List.concat_ne_nil last rest)
      rw [List.map_cons, List.flatten_cons, List.append_assoc, inductionHypothesis,
        List.cons_append, cut, List.intercalate_cons_cons]

/-- Where neither the terminated pieces nor the last one hold the separator, the turns of
the repetition are the pieces of the text between separators. -/
theorem mem_atLeast_terminated_mul_iff
    (bodyPlain : ∀ piece ∈ body, separator ∉ piece)
    (backPlain : ∀ piece ∈ back, separator ∉ piece)
    {count : Nat} :
    chars ∈ atLeast count (body * oneOf (· = separator)) * back ↔
      ∃ pieces last,
        chars.splitOn separator = pieces ++ [last] ∧ count ≤ pieces.length ∧
        (∀ piece ∈ pieces, piece ∈ body) ∧ last ∈ back := by
  simp only [Language.mem_mul, mem_atLeast_iff]
  constructor
  · rintro ⟨_, ⟨turns, long, each, rfl⟩, last, inBack, rfl⟩
    have terminated : ∀ part ∈ turns, ∃ piece, piece ∈ body ∧ part = piece ++ [separator] := by
      intro part member
      obtain ⟨piece, inBody, _, ⟨_, rfl, rfl⟩, rfl⟩ := Language.mem_mul.1 (each part member)
      exact ⟨piece, inBody, rfl⟩
    obtain ⟨pieces, allIn, rfl⟩ := exists_map_of_forall_mem terminated
    refine ⟨pieces, last, ?_, by simpa using long, allIn, inBack⟩
    rw [flatten_map_append_separator]
    apply List.splitOn_intercalate
    · intro piece member
      rcases List.mem_append.1 member with early | final
      · exact bodyPlain piece (allIn piece early)
      · rw [List.mem_singleton.1 final]
        exact backPlain last inBack
    · simp
  · rintro ⟨pieces, last, cut, long, allIn, inBack⟩
    refine ⟨_, ⟨pieces.map (· ++ [separator]), by simpa using long, ?_, rfl⟩, last, inBack, ?_⟩
    · intro part member
      obtain ⟨piece, inPieces, rfl⟩ := List.mem_map.1 member
      exact Language.append_mem_mul (allIn piece inPieces) ⟨separator, rfl, rfl⟩
    · rw [flatten_map_append_separator, ← cut, List.intercalate_splitOn]

end Separator

end Fieldwise.Text.Pattern
