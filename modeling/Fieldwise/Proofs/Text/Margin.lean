import Mathlib.Data.List.TakeWhile
import Fieldwise.Proofs.Lists
import Fieldwise.Text.Blank

/-!
Contract: the margins of texts, and the pieces of texts between separators.

Owns: texts that start or end with a blank, what trimming does to both ends and to blanks
put around a text, the margins of a text that is put together around separators, the
inductions over the places where a text is cut, which texts are the pieces of a text, and
the facts on pieces that the library does not have.

Does **not** own: the reading of a piece as a rule (`Fieldwise.Proofs.Rule.Canonical`).
-/

set_option autoImplicit false

namespace Fieldwise.Text

/-- The first character is a blank. -/
def StartsBlank (chars : List Char) : Prop :=
  ∃ char ∈ chars.head?, isBlank char = true

/-- The last character is a blank. -/
def EndsBlank (chars : List Char) : Prop :=
  ∃ char ∈ chars.getLast?, isBlank char = true

@[simp]
theorem not_startsBlank_nil : ¬ StartsBlank [] := by
  simp [StartsBlank]

@[simp]
theorem startsBlank_cons (char : Char) (rest : List Char) :
    StartsBlank (char :: rest) ↔ isBlank char = true := by
  simp [StartsBlank]

theorem endsBlank_iff_startsBlank_reverse (chars : List Char) :
    EndsBlank chars ↔ StartsBlank chars.reverse := by
  rw [EndsBlank, StartsBlank, List.head?_reverse]

/-- A separator that is no blank leaves the start to what stands before it. -/
theorem startsBlank_append_cons
    (front back : List Char)
    {separator : Char}
    (bare : isBlank separator = false) :
    StartsBlank (front ++ separator :: back) ↔ StartsBlank front := by
  cases front with
  | nil => simp [bare]
  | cons char rest => simp

/-- A separator that is no blank leaves the end to what follows it. -/
theorem endsBlank_append_cons
    (front back : List Char)
    {separator : Char}
    (bare : isBlank separator = false) :
    EndsBlank (front ++ separator :: back) ↔ EndsBlank back := by
  rw [endsBlank_iff_startsBlank_reverse, List.reverse_append, List.reverse_cons,
    List.append_assoc, List.singleton_append, startsBlank_append_cons _ _ bare,
    ← endsBlank_iff_startsBlank_reverse]

/-! ## Trimming -/

theorem not_startsBlank_trimStart (chars : List Char) : ¬ StartsBlank (trimStart chars) := by
  intro starts
  obtain ⟨char, first, blank⟩ := starts
  have kept := List.head?_dropWhile_not isBlank chars
  rw [show (chars.dropWhile isBlank).head? = some char from first] at kept
  simp [blank] at kept

theorem trimStart_eq_self {chars : List Char} (flush : ¬ StartsBlank chars) :
    trimStart chars = chars := by
  cases chars with
  | nil => rfl
  | cons char rest =>
      rw [startsBlank_cons] at flush
      rw [trimStart, List.dropWhile_cons_of_neg flush]

theorem trimEnd_eq_reverse (chars : List Char) :
    trimEnd chars = (trimStart chars.reverse).reverse := rfl

theorem not_endsBlank_trimEnd (chars : List Char) : ¬ EndsBlank (trimEnd chars) := by
  rw [trimEnd_eq_reverse, endsBlank_iff_startsBlank_reverse, List.reverse_reverse]
  exact not_startsBlank_trimStart _

theorem trimEnd_eq_self {chars : List Char} (flush : ¬ EndsBlank chars) :
    trimEnd chars = chars := by
  rw [endsBlank_iff_startsBlank_reverse] at flush
  rw [trimEnd_eq_reverse, trimStart_eq_self flush, List.reverse_reverse]

theorem trimEnd_begins (chars : List Char) : trimEnd chars <+: chars :=
  List.rdropWhile_prefix isBlank chars

/-- Trimming the end stops at a character that is no blank. -/
theorem trimEnd_append_cons
    (front back : List Char)
    {separator : Char}
    (bare : isBlank separator = false) :
    trimEnd (front ++ separator :: back) = front ++ separator :: trimEnd back :=
  rdropWhile_append_cons bare front back

/-- Trimming the end takes blanks away and nothing else. -/
theorem exists_blanks_after_trimEnd (chars : List Char) :
    ∃ blanks, chars = trimEnd chars ++ blanks ∧ ∀ char ∈ blanks, isBlank char = true :=
  ⟨chars.rtakeWhile isBlank, List.rdropWhile_append_rtakeWhile.symm,
    fun _ => List.mem_rtakeWhile_imp⟩

/-- What stands before a text's end is not touched by trimming it. -/
theorem StartsBlank.of_begins
    {start chars : List Char}
    (starts : StartsBlank start)
    (cut : start <+: chars) :
    StartsBlank chars := by
  obtain ⟨rest, rfl⟩ := cut
  cases start with
  | nil => exact absurd starts not_startsBlank_nil
  | cons char more => simpa using starts

theorem not_startsBlank_trim (chars : List Char) : ¬ StartsBlank (trim chars) := by
  intro starts
  exact not_startsBlank_trimStart chars (starts.of_begins (trimEnd_begins _))

theorem not_endsBlank_trim (chars : List Char) : ¬ EndsBlank (trim chars) :=
  not_endsBlank_trimEnd _

theorem trim_eq_self
    {chars : List Char}
    (front : ¬ StartsBlank chars)
    (back : ¬ EndsBlank chars) :
    trim chars = chars := by
  rw [trim, trimStart_eq_self front, trimEnd_eq_self back]

theorem mem_of_mem_trim {char : Char} {chars : List Char} (member : char ∈ trim chars) :
    char ∈ chars :=
  (List.dropWhile_suffix isBlank).subset ((trimEnd_begins _).subset member)

/-! ## Blanks around a text -/

/-- Blank characters, perhaps none. -/
structure Blanks where
  chars : List Char
  blank : allBlank chars = true

def Blanks.none : Blanks := ⟨[], rfl⟩

theorem Blanks.isBlank_of_mem {blanks : Blanks} {char : Char} (member : char ∈ blanks.chars) :
    isBlank char = true :=
  List.all_eq_true.1 blanks.blank char member

theorem Blanks.not_mem_of_bare (blanks : Blanks) {char : Char} (bare : isBlank char = false) :
    char ∉ blanks.chars := by
  intro member
  rw [Blanks.isBlank_of_mem member] at bare
  cases bare

theorem allBlank_append (front back : List Char) :
    allBlank (front ++ back) = (allBlank front && allBlank back) :=
  List.all_append

theorem allBlank_eq_false_iff (chars : List Char) :
    allBlank chars = false ↔ ∃ char ∈ chars, isBlank char = false := by
  rw [allBlank, List.all_eq_false]
  simp only [Bool.not_eq_true]

theorem trimStart_append (before : Blanks) (chars : List Char) :
    trimStart (before.chars ++ chars) = trimStart chars :=
  List.dropWhile_append_of_pos fun _ => Blanks.isBlank_of_mem

theorem trimEnd_append (chars : List Char) (after : Blanks) :
    trimEnd (chars ++ after.chars) = trimEnd chars := by
  have blank : ∀ char ∈ after.chars.reverse, isBlank char = true := by
    intro char member
    exact Blanks.isBlank_of_mem (List.mem_reverse.1 member)
  rw [trimEnd, List.reverse_append, List.dropWhile_append_of_pos blank, trimEnd]

theorem trimStart_eq_nil_iff (chars : List Char) :
    trimStart chars = [] ↔ allBlank chars = true := by
  rw [trimStart, List.dropWhile_eq_nil_iff, allBlank, List.all_eq_true]

/-- Trimming leaves nothing exactly of the blank texts. -/
theorem trim_eq_nil_iff (chars : List Char) : trim chars = [] ↔ allBlank chars = true := by
  rw [← trimStart_eq_nil_iff, trim, trimEnd, List.reverse_eq_nil_iff, List.dropWhile_eq_nil_iff]
  constructor
  · intro bare
    cases shape : trimStart chars with
    | nil => rfl
    | cons char rest =>
        have kept := List.head?_dropWhile_not isBlank chars
        rw [show chars.dropWhile isBlank = char :: rest from shape] at kept
        have blank : isBlank char = true := bare char (by simp [shape])
        simp [blank] at kept
  · intro empty char member
    simp [empty] at member

/-- Blanks around a text are trimmed away with its own. -/
theorem trim_pad (before : Blanks) (chars : List Char) (after : Blanks) :
    trim (before.chars ++ chars ++ after.chars) = trim chars := by
  by_cases blank : allBlank chars = true
  · rw [(trim_eq_nil_iff chars).2 blank, trim_eq_nil_iff, allBlank_append, allBlank_append,
      before.blank, blank, after.blank]
    rfl
  · have kept : (trimStart chars).isEmpty = false := by
      rw [← Bool.not_eq_true, List.isEmpty_iff, trimStart_eq_nil_iff]
      exact blank
    have front : trimStart (chars ++ after.chars) = trimStart chars ++ after.chars := by
      rw [trimStart, List.dropWhile_append, ← trimStart, if_neg (by simp [kept])]
    rw [List.append_assoc, trim, trimStart_append, front, trimEnd_append, trim]

/-! ## Pieces -/

/-- What holds of the texts without a separator, and of a text cut at its first separator
where it holds of what follows, holds of every text. -/
theorem induction_on_first_cut
    (separator : Char)
    {holds : List Char → Prop}
    (whole : ∀ chars, separator ∉ chars → holds chars)
    (cut : ∀ before after, separator ∉ before → holds after → holds (before ++ separator :: after))
    (chars : List Char) :
    holds chars := by
  by_cases held : separator ∈ chars
  · obtain ⟨before, after, parts, absent⟩ := List.eq_append_cons_of_mem held
    have shorter : after.length < chars.length := by
      rw [parts, List.length_append, List.length_cons]
      omega
    rw [parts]
    exact cut before after absent (induction_on_first_cut separator whole cut after)
  · exact whole chars held
termination_by chars.length

/-- What holds of the texts without a separator and is kept by joining two texts at one
holds of every text. -/
theorem induction_on_cuts
    (separator : Char)
    {holds : List Char → Prop}
    (whole : ∀ chars, separator ∉ chars → holds chars)
    (cut : ∀ before after, holds before → holds after → holds (before ++ separator :: after))
    (chars : List Char) :
    holds chars :=
  induction_on_first_cut separator whole
    (fun before after absent => cut before after (whole before absent)) chars

/-- A text has one first cut. -/
theorem first_cut_unique
    {separator : Char} {before after otherBefore otherAfter : List Char}
    (plain : separator ∉ before)
    (otherPlain : separator ∉ otherBefore)
    (same : before ++ separator :: after = otherBefore ++ separator :: otherAfter) :
    before = otherBefore ∧ after = otherAfter := by
  induction before generalizing otherBefore with
  | nil =>
      cases otherBefore with
      | nil => exact ⟨rfl, (List.cons.inj same).2⟩
      | cons char more => exact absurd (by simp [(List.cons.inj same).1]) otherPlain
  | cons first rest inductionHypothesis =>
      cases otherBefore with
      | nil => exact absurd (by simp [(List.cons.inj same).1]) plain
      | cons char more =>
          obtain ⟨rfl, sameRest⟩ := List.cons.inj same
          obtain ⟨rfl, rfl⟩ := inductionHypothesis
            (fun member => plain (List.mem_cons_of_mem _ member))
            (fun member => otherPlain (List.mem_cons_of_mem _ member)) sameRest
          exact ⟨rfl, rfl⟩

/-- A piece is a stretch of the text in which no separator stands. -/
theorem of_mem_splitOn
    {separator : Char} {chars piece : List Char}
    (member : piece ∈ chars.splitOn separator) :
    separator ∉ piece ∧ piece <:+: chars := by
  induction chars using induction_on_cuts separator with
  | whole chars absent =>
      rw [List.splitOn_eq_singleton absent, List.mem_singleton] at member
      subst member
      exact ⟨absent, List.infix_refl piece⟩
  | cut before after beforeHypothesis afterHypothesis =>
      rw [List.splitOn_append_cons_self, List.mem_append] at member
      rcases member with front | back
      · obtain ⟨absent, within⟩ := beforeHypothesis front
        exact ⟨absent, within.trans (List.prefix_append before _).isInfix⟩
      · obtain ⟨absent, within⟩ := afterHypothesis back
        have tail : after <:+ before ++ separator :: after :=
          (List.suffix_cons separator after).trans (List.suffix_append before _)
        exact ⟨absent, within.trans tail.isInfix⟩

/-- Two separators with no other between them stand at the start of a text that starts with
one exactly if the first cut of the rest leaves what is between them. -/
theorem framed_begins_iff
    {separator : Char} {piece before : List Char}
    (plain : separator ∉ piece)
    (absent : separator ∉ before)
    (rest : List Char) :
    separator :: (piece ++ [separator]) <+: separator :: (before ++ separator :: rest) ↔
      piece = before := by
  rw [List.cons_prefix_cons]
  constructor
  · rintro ⟨-, after, same⟩
    rw [List.append_assoc, List.singleton_append] at same
    exact (first_cut_unique plain absent same).1
  · rintro rfl
    exact ⟨rfl, rest, by simp⟩

/-- What starts with a separator does not start in a text without one. -/
theorem cons_infix_append_iff
    {separator : Char} {before : List Char}
    (absent : separator ∉ before)
    (tail rest : List Char) :
    separator :: tail <:+: before ++ rest ↔ separator :: tail <:+: rest := by
  induction before with
  | nil => rfl
  | cons char more inductionHypothesis =>
      have other : separator ≠ char := fun same => absent (by simp [same])
      have later : separator ∉ more := fun member => absent (List.mem_cons_of_mem _ member)
      rw [List.cons_append, List.infix_cons_iff, inductionHypothesis later,
        List.cons_prefix_cons]
      simp [other]

/-- **The pieces of a text are what stands between two separators, and no separator inside,
where the text is put between separators itself.** -/
theorem mem_splitOn_iff (separator : Char) (chars piece : List Char) :
    piece ∈ chars.splitOn separator ↔
      separator ∉ piece ∧
        separator :: (piece ++ [separator]) <:+: separator :: (chars ++ [separator]) := by
  induction chars using induction_on_first_cut separator with
  | whole chars absent =>
      rw [List.splitOn_eq_singleton absent, List.mem_singleton]
      constructor
      · rintro rfl
        exact ⟨absent, List.infix_refl _⟩
      · rintro ⟨plain, framed⟩
        rw [List.infix_cons_iff, framed_begins_iff plain absent [],
          cons_infix_append_iff absent] at framed
        refine framed.resolve_right fun short => ?_
        have length := short.length_le
        simp at length
  | cut before after absent inductionHypothesis =>
      rw [List.splitOn_append_cons_self, List.splitOn_eq_singleton absent, List.singleton_append,
        List.mem_cons, inductionHypothesis, List.append_assoc, List.cons_append]
      constructor
      · rintro (rfl | ⟨plain, framed⟩)
        · refine ⟨absent, List.infix_cons_iff.2 (.inl ?_)⟩
          exact (framed_begins_iff absent absent _).2 rfl
        · refine ⟨plain, List.infix_cons_iff.2 (.inr ?_)⟩
          exact (cons_infix_append_iff absent _ _).2 framed
      · rintro ⟨plain, framed⟩
        rw [List.infix_cons_iff, framed_begins_iff plain absent,
          cons_infix_append_iff absent] at framed
        exact framed.imp_right fun later => ⟨plain, later⟩

/-- A character that is not the separator stands in a piece. -/
theorem exists_piece_of_mem
    {separator char : Char} {chars : List Char}
    (member : char ∈ chars)
    (other : char ≠ separator) :
    ∃ piece ∈ chars.splitOn separator, char ∈ piece := by
  induction chars using induction_on_cuts separator with
  | whole chars absent =>
      rw [List.splitOn_eq_singleton absent]
      exact ⟨chars, by simp, member⟩
  | cut before after beforeHypothesis afterHypothesis =>
      rw [List.splitOn_append_cons_self]
      rcases List.mem_append.1 member with early | late
      · obtain ⟨piece, inPieces, inPiece⟩ := beforeHypothesis early
        exact ⟨piece, List.mem_append_left _ inPieces, inPiece⟩
      · have later : char ∈ after := (List.mem_cons.1 late).resolve_left other
        obtain ⟨piece, inPieces, inPiece⟩ := afterHypothesis later
        exact ⟨piece, List.mem_append_right _ inPieces, inPiece⟩

/-- Pieces with a separator behind each are pieces with a separator between them and one at
the end. -/
theorem flatten_map_append_eq
    (separator : Char)
    {pieces : List (List Char)}
    (some : pieces ≠ []) :
    (pieces.map (· ++ [separator])).flatten = [separator].intercalate pieces ++ [separator] := by
  induction pieces with
  | nil => exact absurd rfl some
  | cons piece rest inductionHypothesis =>
      cases rest with
      | nil => simp [List.intercalate]
      | cons next more =>
          rw [List.map_cons, List.flatten_cons, inductionHypothesis (by simp),
            List.intercalate_cons_cons]
          simp

theorem mem_intercalate
    {separator char : Char} {pieces : List (List Char)}
    (member : char ∈ [separator].intercalate pieces) :
    char = separator ∨ ∃ piece ∈ pieces, char ∈ piece := by
  induction pieces with
  | nil => simp [List.intercalate] at member
  | cons piece rest inductionHypothesis =>
      cases rest with
      | nil => exact .inr ⟨piece, by simp, by simpa [List.intercalate] using member⟩
      | cons next more =>
          rw [List.intercalate_cons_cons, List.mem_append, List.mem_append,
            List.mem_singleton] at member
          rcases member with (early | between) | late
          · exact .inr ⟨piece, by simp, early⟩
          · exact .inl between
          · refine (inductionHypothesis late).imp_right ?_
            rintro ⟨other, inRest, inOther⟩
            exact ⟨other, List.mem_cons_of_mem _ inRest, inOther⟩

theorem endsBlank_intercalate
    {separator : Char}
    (bare : isBlank separator = false)
    (pieces : List (List Char)) :
    EndsBlank ([separator].intercalate pieces) ↔
      ∃ last ∈ pieces.getLast?, EndsBlank last := by
  induction pieces with
  | nil => simp [EndsBlank, List.intercalate]
  | cons piece rest inductionHypothesis =>
      cases rest with
      | nil => simp [List.intercalate]
      | cons next more =>
          rw [List.intercalate_cons_cons, List.append_assoc, List.singleton_append,
            endsBlank_append_cons _ _ bare, inductionHypothesis, List.getLast?_cons_cons]

end Fieldwise.Text
