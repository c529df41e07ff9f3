import Fieldwise.Proofs.Url.Dotted

/-!
Contract: the hosts of web addresses that are literals in brackets.

Owns: what reading one piece of a bracketed host does, what reading all of them accepts, and
the agreement of bracketed hosts with the grammar of literals.

Does **not** own: dotted tails (`Fieldwise.Proofs.Url.Dotted`), and how a host is found in an
address (`Fieldwise.Proofs.Url.Authority`).

Reading goes from left to right and knows only how many pieces are there and whether a
double colon was among them. The double colon counts as one piece, the least that it can
stand for, so that at most seven written ones are left on its two sides together.
-/

set_option autoImplicit false

namespace Fieldwise.Url

open Format

/-! ## The digits of a piece -/

theorem pieceDigits_append_drop (chars : List Char) :
    pieceDigits chars ++ chars.drop (pieceDigits chars).length = chars := by
  have starts : pieceDigits chars <+: chars :=
    (List.takeWhile_prefix _).trans (List.take_prefix 4 chars)
  exact List.prefix_iff_eq_append.1 starts

theorem pieceDigits_isGroup {chars : List Char} (written : pieceDigits chars ≠ []) :
    IsGroup (pieceDigits chars) where
  written := written
  short := ((List.takeWhile_prefix _).length_le).trans (List.length_take_le 4 chars)
  digits := fun char member =>
    (Text.isHexDigit_eq_true_iff char).1 (List.mem_takeWhile_imp member)

theorem colon_not_mem_pieceDigits (chars : List Char) : ':' ∉ pieceDigits chars := by
  intro member
  exact (pieceDigits_isGroup (List.ne_nil_of_mem member)).isPart.2 member

/-- The digits of a piece are the whole group where no further digit follows it. -/
theorem pieceDigits_append
    {group rest : List Char}
    (isGroup : IsGroup group)
    (ends : ∀ char ∈ rest.head?, ¬ Text.IsHexDigit char) :
    pieceDigits (group ++ rest) = group := by
  have digits : ∀ char ∈ group, Text.isHexDigit char = true :=
    fun char member => (Text.isHexDigit_eq_true_iff char).2 (isGroup.digits char member)
  have stops : (rest.take (4 - group.length)).takeWhile Text.isHexDigit = [] := by
    cases rest with
    | nil => simp
    | cons char more =>
        have other : ¬ Text.isHexDigit char = true :=
          fun digit => ends char rfl ((Text.isHexDigit_eq_true_iff char).1 digit)
        cases 4 - group.length <;> simp [other]
  rw [pieceDigits, List.take_append, List.take_of_length_le isGroup.short,
    List.takeWhile_append_of_pos digits, stops, List.append_nil]

theorem drop_pieceDigits_append
    {group rest : List Char}
    (isGroup : IsGroup group)
    (ends : ∀ char ∈ rest.head?, ¬ Text.IsHexDigit char) :
    (group ++ rest).drop (pieceDigits (group ++ rest)).length = rest := by
  rw [pieceDigits_append isGroup ends]
  exact List.drop_left

/-- The digits at the start of a text do not go on behind a part that is no group. -/
theorem pieceDigits_ne_append
    {chars part : List Char}
    (written : part ≠ [])
    (other : ¬ IsGroup part)
    (after : List Char) :
    pieceDigits chars ≠ part ++ after := by
  intro same
  have group : IsGroup (pieceDigits chars) := pieceDigits_isGroup (by simp [same, written])
  rw [same] at group
  exact other
    { written
      short := (List.prefix_append part after).length_le.trans group.short
      digits := fun char member => group.digits char (List.mem_append_left _ member) }

/-- The digits at the start of a dotted literal are its first number. -/
theorem pieceDigits_of_isDottedLiteral
    {chars : List Char}
    (literal : IsDottedLiteral chars) :
    pieceDigits chars ≠ [] ∧ ∃ tail, chars.drop (pieceDigits chars).length = '.' :: tail := by
  obtain ⟨octet, tail, isOctet, rfl⟩ := literal.exists_cut
  have dot : ¬ Text.IsHexDigit '.' := by decide
  have stops : ∀ char ∈ ('.' :: tail).head?, ¬ Text.IsHexDigit char := by simp [dot]
  rw [drop_pieceDigits_append isOctet.isGroup stops, pieceDigits_append isOctet.isGroup stops]
  exact ⟨isOctet.isGroup.written, tail, rfl⟩

/-! ## One piece -/

section Step

variable {count : Nat} {part : List Char}

theorem readPieces_nil (count : Nat) (compressed : Bool) :
    readPieces count compressed [] = (compressed || count = 8) := by
  rw [readPieces]

theorem readPieces_full {chars : List Char} (written : chars ≠ []) (compressed : Bool) :
    readPieces 8 compressed chars = false := by
  obtain ⟨first, rest, rfl⟩ := List.exists_cons_of_ne_nil written
  rw [readPieces, if_pos rfl]

theorem readPieces_colon (room : count ≠ 8) (rest : List Char) (compressed : Bool) :
    readPieces count compressed (':' :: rest) =
      (!compressed && readPieces (count + 1) true rest) := by
  rw [readPieces, if_neg room, if_pos rfl]

/-- What is read of a text that does not start with a colon is decided by what follows the
digits at its start. -/
theorem readPieces_eq
    {chars : List Char}
    (room : count ≠ 8)
    (written : chars ≠ [])
    (start : chars.head? ≠ some ':')
    (compressed : Bool) :
    readPieces count compressed chars =
      match chars.drop (pieceDigits chars).length with
      | [] => compressed || count + 1 = 8
      | ':' :: after => after ≠ [] && readPieces (count + 1) compressed after
      | '.' :: _ =>
          pieceDigits chars ≠ [] && count ≤ 6 && readNumbers 3 chars
            && (compressed || count + 2 = 8)
      | _ => false := by
  obtain ⟨first, rest, rfl⟩ := List.exists_cons_of_ne_nil written
  have other : first ≠ ':' := by simpa using start
  rw [readPieces, if_neg room, if_neg other]
  -- The recursion names what follows, so that the two sides differ in form only.
  split
  · rename_i following
    rw [following]
  · rename_i following
    rw [following]
    rfl
  · rename_i following
    rw [following]
    rfl
  · rename_i notEmpty noColon noDot
    split
    · rename_i following
      exact absurd following notEmpty
    · rename_i following
      exact absurd following (noColon _)
    · rename_i following
      exact absurd following (noDot _)
    · rfl

/-- A part that is no group is read only as a dotted literal, which ends the text. -/
theorem readPieces_of_not_isGroup
    {rest : List Char}
    (room : count ≠ 8)
    (isPart : IsPart part)
    (other : ¬ IsGroup part)
    (ends : ∀ char ∈ rest.head?, char = ':')
    (compressed : Bool) :
    readPieces count compressed (part ++ rest) = true ↔
      IsDottedLiteral (part ++ rest) ∧ count ≤ 6 ∧ (compressed = true ∨ count + 2 = 8) := by
  have written : part ++ rest ≠ [] := by simp [isPart.1]
  have whole := pieceDigits_append_drop (part ++ rest)
  rw [readPieces_eq room written (isPart.head?_append_ne rest)]
  split
  · rename_i following
    rw [following, List.append_nil] at whole
    exact absurd whole (pieceDigits_ne_append isPart.1 other rest)
  · rename_i after following
    rw [following] at whole
    cases rest with
    | nil =>
        rw [List.append_nil] at whole
        exact absurd (whole ▸ by simp) isPart.2
    | cons char more =>
        obtain rfl := ends char rfl
        obtain ⟨same, -⟩ :=
          Text.first_cut_unique (colon_not_mem_pieceDigits _) isPart.2 whole
        exact absurd (by rw [same, List.append_nil])
          (pieceDigits_ne_append isPart.1 other [])
  · rename_i following
    have tail : readNumbers 3 (part ++ rest) = true ↔ IsDottedLiteral (part ++ rest) :=
      readNumbers_eq_true_iff 3 _
    simp only [Bool.and_eq_true, Bool.or_eq_true, decide_eq_true_eq, tail]
    constructor
    · rintro ⟨⟨⟨-, few⟩, literal⟩, total⟩
      exact ⟨literal, few, total⟩
    · rintro ⟨literal, few, total⟩
      exact ⟨⟨⟨(pieceDigits_of_isDottedLiteral literal).1, few⟩, literal⟩, total⟩
  · rename_i noDot
    refine iff_of_false Bool.false_ne_true ?_
    rintro ⟨literal, -⟩
    obtain ⟨-, tail, following⟩ := pieceDigits_of_isDottedLiteral literal
    exact noDot tail following

/-- A part before a colon is a group, and something follows the colon. -/
theorem readPieces_cut_iff
    (room : count ≠ 8)
    (isPart : IsPart part)
    (rest : List Char)
    (compressed : Bool) :
    readPieces count compressed (part ++ ':' :: rest) = true ↔
      IsGroup part ∧ rest ≠ [] ∧ readPieces (count + 1) compressed rest = true := by
  by_cases group : IsGroup part
  · rw [readPieces_eq room (by simp) (isPart.head?_append_ne _),
      drop_pieceDigits_append group (by simp; decide)]
    simp [group]
  · have held : ¬ IsDottedLiteral (part ++ ':' :: rest) :=
      fun literal => literal.isPart.2 (by simp)
    rw [readPieces_of_not_isGroup room isPart group (by simp)]
    simp [group, held]

theorem readPieces_part_iff
    (room : count ≠ 8)
    (isPart : IsPart part)
    (compressed : Bool) :
    readPieces count compressed part = true ↔
      IsGroup part ∧ (compressed = true ∨ count + 1 = 8) ∨
        IsDottedLiteral part ∧ count ≤ 6 ∧ (compressed = true ∨ count + 2 = 8) := by
  by_cases group : IsGroup part
  · have undotted : ¬ IsDottedLiteral part := fun literal => literal.not_isGroup group
    have start : part.head? ≠ some ':' := by simpa using isPart.head?_append_ne []
    have following : part.drop (pieceDigits part).length = [] := by
      have dropped := @drop_pieceDigits_append part [] group (by simp)
      rwa [List.append_nil] at dropped
    rw [readPieces_eq room isPart.1 start, following]
    simp [group, undotted]
  · have ended : ∀ char ∈ ([] : List Char).head?, char = ':' := by simp
    have read := readPieces_of_not_isGroup room isPart group ended compressed
    rw [List.append_nil] at read
    rw [read]
    simp [group]

/-- So many pieces are all: eight, or less where a double colon stands for the others. -/
def Completes (compressed : Bool) (count : Nat) : Prop :=
  count = 8 ∨ (compressed = true ∧ count ≤ 8)

theorem completes_false_iff : Completes false count ↔ count = 8 := by
  simp [Completes]

theorem completes_true_iff : Completes true count ↔ count ≤ 8 := by
  simp only [Completes, true_and]
  omega

/-- The last part is a group or a dotted literal, and completes the pieces. -/
theorem readPieces_last_iff
    (few : count ≤ 8)
    (isPart : IsPart part)
    (compressed : Bool) :
    readPieces count compressed part = true ↔
      ∃ others, IsEnding others part ∧ Completes compressed (count + others) := by
  simp only [isEnding_part_iff isPart]
  by_cases full : count = 8
  · rw [full, readPieces_full isPart.1]
    refine iff_of_false Bool.false_ne_true ?_
    rintro ⟨others, ⟨-, rfl⟩ | ⟨-, rfl⟩, total | ⟨-, total⟩⟩ <;> omega
  · rw [readPieces_part_iff full isPart]
    constructor
    · rintro (⟨group, total⟩ | ⟨literal, room, total⟩)
      · exact ⟨1, .inl ⟨group, rfl⟩, total.symm.imp_right fun gap => ⟨gap, by omega⟩⟩
      · exact ⟨2, .inr ⟨literal, rfl⟩, total.symm.imp_right fun gap => ⟨gap, by omega⟩⟩
    · rintro ⟨others, ⟨group, rfl⟩ | ⟨literal, rfl⟩, total⟩
      · exact .inl ⟨group, total.symm.imp_left And.left⟩
      · have room : count + 2 ≤ 8 := by
          rcases total with total | ⟨-, total⟩ <;> omega
        exact .inr ⟨literal, by omega, total.symm.imp_left And.left⟩

end Step

/-! ## All pieces -/

/-- A text before whose double colon whole groups stand, with as many pieces as it has at
least. The double colon is a single one here where another colon stands before the text. -/
inductive GapAhead : Nat → List Char → Prop where
  | gap {count : Nat} {back : List Char}
      (ending : IsEnding count back) :
      GapAhead (count + 1) (':' :: back)
  | group {count : Nat} {part rest : List Char}
      (first : IsGroup part)
      (ahead : GapAhead count rest) :
      GapAhead (count + 1) (part ++ ':' :: rest)

namespace GapAhead

theorem colon_mem {count : Nat} {chars : List Char} (ahead : GapAhead count chars) :
    ':' ∈ chars := by
  cases ahead <;> simp

theorem pos {count : Nat} {chars : List Char} (ahead : GapAhead count chars) : 0 < count := by
  cases ahead <;> exact Nat.succ_pos _

theorem cut_iff
    {part : List Char}
    (plain : ':' ∉ part)
    (rest : List Char)
    (count : Nat) :
    GapAhead count (part ++ ':' :: rest) ↔
      part = [] ∧ (∃ others, IsEnding others rest ∧ count = others + 1) ∨
        IsGroup part ∧ ∃ others, GapAhead others rest ∧ count = others + 1 := by
  constructor
  · intro ahead
    generalize cut : part ++ ':' :: rest = chars at ahead
    cases ahead with
    | @gap others back ending =>
        obtain ⟨rfl, rfl⟩ := Text.first_cut_unique plain List.not_mem_nil
          (cut : part ++ ':' :: rest = [] ++ ':' :: back)
        exact .inl ⟨rfl, others, ending, rfl⟩
    | @group others first tail isGroup ahead =>
        obtain ⟨rfl, rfl⟩ := Text.first_cut_unique plain isGroup.isPart.2 cut
        exact .inr ⟨isGroup, others, ahead, rfl⟩
  · rintro (⟨rfl, others, ending, rfl⟩ | ⟨isGroup, others, ahead, rfl⟩)
    · exact .gap ending
    · exact .group isGroup ahead

end GapAhead

/-- Behind eight pieces, one of which is a double colon, nothing can follow. -/
theorem readPieces_full_true_iff {chars : List Char} (written : chars ≠ []) :
    readPieces 8 true chars = true ↔ ∃ others, IsEnding others chars ∧ 8 + others ≤ 8 := by
  rw [readPieces_full written]
  refine iff_of_false Bool.false_ne_true ?_
  intro read
  obtain ⟨others, ending, most⟩ := read
  have some := ending.pos written
  omega

theorem readPieces_full_false_iff {chars : List Char} (written : chars ≠ []) :
    readPieces 8 false chars = true ↔
      (∃ others, IsEnding others chars ∧ 8 + others = 8) ∨
        ∃ others, GapAhead others chars ∧ 8 + others ≤ 8 := by
  rw [readPieces_full written]
  refine iff_of_false Bool.false_ne_true ?_
  intro read
  rcases read with ⟨others, ending, total⟩ | ⟨others, ahead, most⟩
  · have some := ending.pos written
    omega
  · have some := ahead.pos
    omega

/-- What is read behind a double colon: an ending that leaves the pieces in number. -/
theorem readPieces_true_iff
    {count : Nat}
    (few : count ≤ 8)
    (chars : List Char) :
    readPieces count true chars = true ↔ ∃ others, IsEnding others chars ∧ count + others ≤ 8 := by
  induction chars using Text.induction_on_first_cut ':' generalizing count with
  | whole chars plain =>
      by_cases empty : chars = []
      · subst empty
        simp [readPieces_nil, isEnding_nil_iff, few]
      · simp only [readPieces_last_iff few ⟨empty, plain⟩, completes_true_iff]
  | cut part rest plain inductionHypothesis =>
      by_cases full : count = 8
      · subst full
        exact readPieces_full_true_iff (by simp)
      · simp only [isEnding_cut_iff plain]
        by_cases empty : part = []
        · subst empty
          rw [List.nil_append, readPieces_colon full]
          refine iff_of_false (by simp) ?_
          rintro ⟨others, ⟨group, -⟩, -⟩
          exact group.written rfl
        · rw [readPieces_cut_iff full ⟨empty, plain⟩, inductionHypothesis (by omega)]
          constructor
          · rintro ⟨group, written, others, ending, most⟩
            exact ⟨others + 1, ⟨group, written, others, ending, rfl⟩, by omega⟩
          · rintro ⟨_, ⟨group, written, others, ending, rfl⟩, most⟩
            exact ⟨group, written, others, ending, by omega⟩

/-- What is read before a double colon: an ending that completes the pieces, or groups up to
a double colon that leave the pieces in number. -/
theorem readPieces_false_iff
    {count : Nat}
    (few : count ≤ 8)
    (chars : List Char) :
    readPieces count false chars = true ↔
      (∃ others, IsEnding others chars ∧ count + others = 8) ∨
        ∃ others, GapAhead others chars ∧ count + others ≤ 8 := by
  induction chars using Text.induction_on_first_cut ':' generalizing count with
  | whole chars plain =>
      have ungapped : ¬ ∃ others, GapAhead others chars ∧ count + others ≤ 8 := by
        rintro ⟨others, ahead, -⟩
        exact plain ahead.colon_mem
      by_cases empty : chars = []
      · subst empty
        simp [readPieces_nil, isEnding_nil_iff, ungapped]
      · simp only [readPieces_last_iff few ⟨empty, plain⟩, completes_false_iff, ungapped, or_false]
  | cut part rest plain inductionHypothesis =>
      by_cases full : count = 8
      · subst full
        exact readPieces_full_false_iff (by simp)
      · simp only [isEnding_cut_iff plain, GapAhead.cut_iff plain]
        by_cases empty : part = []
        · subst empty
          have none : ¬ IsGroup [] := fun group => group.written rfl
          rw [List.nil_append, readPieces_colon full, Bool.not_false, Bool.true_and,
            readPieces_true_iff (by omega)]
          constructor
          · rintro ⟨others, ending, most⟩
            exact .inr ⟨others + 1, .inl ⟨rfl, others, ending, rfl⟩, by omega⟩
          · rintro (⟨_, ⟨group, -⟩, -⟩ | ⟨_, ⟨-, others, ending, rfl⟩ | ⟨group, -⟩, most⟩)
            · exact absurd group none
            · exact ⟨others, ending, by omega⟩
            · exact absurd group none
        · rw [readPieces_cut_iff full ⟨empty, plain⟩, inductionHypothesis (by omega)]
          constructor
          · rintro ⟨group, written, ⟨others, ending, total⟩ | ⟨others, ahead, most⟩⟩
            · exact .inl ⟨others + 1, ⟨group, written, others, ending, rfl⟩, by omega⟩
            · exact .inr ⟨others + 1, .inr ⟨group, others, ahead, rfl⟩, by omega⟩
          · rintro (⟨_, ⟨group, written, others, ending, rfl⟩, total⟩ |
              ⟨_, ⟨bare, -⟩ | ⟨group, others, ahead, rfl⟩, most⟩)
            · exact ⟨group, written, .inl ⟨others, ending, by omega⟩⟩
            · exact absurd bare empty
            · exact ⟨group, List.ne_nil_of_mem ahead.colon_mem, .inr ⟨others, ahead, by omega⟩⟩

/-! ## Bracketed hosts -/

/-- Groups with a colon behind each, and one more colon, which completes the double one. -/
theorem gapAhead_iff (count : Nat) (chars : List Char) :
    GapAhead count chars ↔
      ∃ before after parts back,
        GroupParts before parts ∧ IsEnding after back ∧ count = before + 1 + after ∧
        chars = (parts.map (· ++ [':'])).flatten ++ ':' :: back := by
  constructor
  · intro ahead
    induction ahead with
    | @gap count back ending =>
        exact ⟨0, count, [], back, ⟨rfl, by simp⟩, ending, by omega, rfl⟩
    | @group count part rest first ahead inductionHypothesis =>
        obtain ⟨before, after, parts, back, groups, ending, rfl, rfl⟩ := inductionHypothesis
        refine ⟨before + 1, after, part :: parts, back, ?_, ending, by omega, by simp⟩
        exact ⟨by simp [groups.length], by simpa using ⟨first, groups.each⟩⟩
  · rintro ⟨before, after, parts, back, ⟨rfl, each⟩, ending, rfl, rfl⟩
    induction parts with
    | nil =>
        rw [List.length_nil, Nat.zero_add, Nat.add_comm]
        exact .gap ending
    | cons part rest inductionHypothesis =>
        have ahead := inductionHypothesis fun other member => each other (by simp [member])
        have pieces : (part :: rest).length + 1 + after = rest.length + 1 + after + 1 := by
          rw [List.length_cons]
          omega
        rw [pieces, List.map_cons, List.flatten_cons, List.append_assoc, List.append_assoc,
          List.singleton_append]
        exact .group (each part (by simp)) ahead

theorem isGroupedLiteral_colon_iff (rest : List Char) :
    IsGroupedLiteral (':' :: rest) ↔
      ∃ after back, rest = ':' :: back ∧ IsEnding after back ∧ after ≤ 7 := by
  constructor
  · intro literal
    generalize cut : ':' :: rest = chars at literal
    cases literal with
    | full ending => exact absurd (by simp [← cut]) ending.head?_ne
    | @gapped before after front back groups ending missing =>
        obtain ⟨parts, given, rfl⟩ := groups
        cases parts with
        | nil => exact ⟨after, back, (List.cons.inj cut).2, ending, by omega⟩
        | cons part more =>
            have start := head?_intercalate_append_ne given.isPart (by simp) (':' :: ':' :: back)
            exact absurd (by simp [← cut]) start
  · rintro ⟨after, back, rfl, ending, missing⟩
    exact .gapped ⟨[], ⟨rfl, by simp⟩, rfl⟩ ending (by simpa using missing)

theorem isGroupedLiteral_iff_of_head?
    {chars : List Char}
    (start : chars.head? ≠ some ':') :
    IsGroupedLiteral chars ↔
      IsEnding 8 chars ∨ ∃ others, GapAhead others chars ∧ others ≤ 8 := by
  constructor
  · rintro (ending | @⟨before, after, front, back, groups, ending, missing⟩)
    · exact .inl ending
    · obtain ⟨parts, given, rfl⟩ := groups
      have written : parts ≠ [] := by
        rintro rfl
        exact start rfl
      refine .inr ⟨before + 1 + after, ?_, by omega⟩
      refine (gapAhead_iff _ _).2 ⟨before, after, parts, back, given, ending, rfl, ?_⟩
      rw [Text.flatten_map_append_eq ':' written, List.append_assoc, List.singleton_append]
  · rintro (ending | ⟨others, ahead, most⟩)
    · exact .full ending
    · obtain ⟨before, after, parts, back, given, ending, rfl, rfl⟩ := (gapAhead_iff _ _).1 ahead
      have written : parts ≠ [] := by
        rintro rfl
        exact start rfl
      rw [Text.flatten_map_append_eq ':' written, List.append_assoc, List.singleton_append]
      exact .gapped ⟨parts, given, rfl⟩ ending (by omega)

/-- A text that does not start with a colon is read from its first piece on. -/
theorem isBracketedAddress_of_head?
    {chars : List Char}
    (start : chars.head? ≠ some ':') :
    isBracketedAddress chars = readPieces 0 false chars := by
  match chars with
  | [] => rw [isBracketedAddress, readPieces_nil]; rfl
  | [char] =>
      have isPart : IsPart [char] := ⟨by simp, by simpa [eq_comm] using start⟩
      have single : readPieces 0 false [char] = false := by
        rw [← Bool.not_eq_true, readPieces_part_iff (by decide) isPart]
        simp
      rw [single]
      unfold isBracketedAddress
      split <;> simp_all
  | first :: second :: more =>
      unfold isBracketedAddress
      split <;> simp_all

/-- A host in brackets is a literal of groups: the two ways to read it agree. -/
theorem isBracketedAddress_eq_true_iff (chars : List Char) :
    isBracketedAddress chars = true ↔ IsGroupedLiteral chars := by
  by_cases start : chars.head? = some ':'
  · obtain ⟨rest, rfl⟩ := List.head?_eq_some_iff.1 start
    rw [isGroupedLiteral_colon_iff]
    unfold isBracketedAddress
    split
    · rename_i back same
      obtain rfl := (List.cons.inj same).2
      rw [readPieces_true_iff (by decide)]
      constructor
      · rintro ⟨after, ending, most⟩
        exact ⟨after, back, rfl, ending, by omega⟩
      · rintro ⟨after, _, same, ending, most⟩
        obtain rfl := (List.cons.inj same).2
        exact ⟨after, ending, by omega⟩
    · rename_i single same
      refine iff_of_false Bool.false_ne_true ?_
      rintro ⟨after, back, rfl, -⟩
      exact single back (List.cons.inj same).2.symm
    all_goals simp_all
  · rw [isBracketedAddress_of_head? start, isGroupedLiteral_iff_of_head? start,
      readPieces_false_iff (by decide)]
    simp
end Fieldwise.Url
