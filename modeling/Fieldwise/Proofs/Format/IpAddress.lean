import Fieldwise.Proofs.BuiltIn.Single
import Fieldwise.Proofs.Text.Margin
import Fieldwise.Proofs.Text.Numeral

/-!
Contract: the texts that the address rule accepts.

Owns: the grammar of address literals, groups between colons as a relation with one step
for each cut, the agreement of the tests with the grammar, and the report of the rule.

Does **not** own: addresses as hosts (`Fieldwise.Proofs.Url.Authority`).

A text has one division into parts between colons, since neither a group nor a dotted
literal holds a colon. No part is empty, so that the text before a double colon holds no
other one: the first double colon of a literal is the one of the grammar.
-/

set_option autoImplicit false

namespace Fieldwise.Format

/-! ## The grammar -/

/-- A number up to 255 in one to three decimal digits. Only zero itself starts with a
zero. -/
structure IsOctet (chars : List Char) : Prop where
  digits : Text.IsDigits chars
  short : chars.length ≤ 3
  plain : chars.head? = some '0' → chars = ['0']
  bounded : Nat.ofDigitChars 10 chars 0 ≤ 255

/-- Four numbers between dots. -/
def IsDottedLiteral (chars : List Char) : Prop :=
  ∃ octets : List (List Char),
    octets.length = 4 ∧ (∀ octet ∈ octets, IsOctet octet) ∧ chars = ['.'].intercalate octets

/-- One to four hexadecimal digits. -/
structure IsGroup (chars : List Char) : Prop where
  written : chars ≠ []
  short : chars.length ≤ 4
  digits : ∀ char ∈ chars, Text.IsHexDigit char

/-- Parts that are so many groups. -/
structure GroupParts (count : Nat) (parts : List (List Char)) : Prop where
  length : parts.length = count
  each : ∀ part ∈ parts, IsGroup part

/-- Parts that stand for so many groups where they end a text: the last two of the groups
may be written as one dotted literal. -/
inductive EndingParts : Nat → List (List Char) → Prop where
  | none : EndingParts 0 []
  | dotted {part : List Char} (literal : IsDottedLiteral part) : EndingParts 2 [part]
  | group {count : Nat} {part : List Char} {rest : List (List Char)}
      (first : IsGroup part)
      (ending : EndingParts count rest) :
      EndingParts (count + 1) (part :: rest)

/-- A text of so many groups between colons. -/
def IsGroups (count : Nat) (chars : List Char) : Prop :=
  ∃ parts, GroupParts count parts ∧ chars = [':'].intercalate parts

/-- A text that stands for so many groups where it ends a text. -/
def IsEnding (count : Nat) (chars : List Char) : Prop :=
  ∃ parts, EndingParts count parts ∧ chars = [':'].intercalate parts

/-- Eight groups, or up to seven around a double colon. -/
inductive IsGroupedLiteral : List Char → Prop where
  | full {chars : List Char} (ending : IsEnding 8 chars) : IsGroupedLiteral chars
  | gapped {before after : Nat} {front back : List Char}
      (groups : IsGroups before front)
      (ending : IsEnding after back)
      (missing : before + after ≤ 7) :
      IsGroupedLiteral (front ++ ':' :: ':' :: back)

def IsAddressLiteral (chars : List Char) : Prop :=
  IsDottedLiteral chars ∨ IsGroupedLiteral chars

/-! ## Dotted literals -/

theorem isOctet_eq_true_iff (chars : List Char) : isOctet chars = true ↔ IsOctet chars := by
  simp only [isOctet, Bool.and_eq_true, Bool.or_eq_true, decide_eq_true_eq, List.all_eq_true]
  constructor
  · rintro ⟨⟨⟨written, digits⟩, plain⟩, bounded⟩
    refine ⟨⟨written, digits⟩, ?_, ?_, bounded⟩
    · obtain ⟨first, rest, rfl⟩ := List.exists_cons_of_ne_nil written
      by_contra long
      simp only [List.length_cons, not_le] at long
      have other : first ≠ '0' := by
        rintro rfl
        rcases plain with one | other
        · simp only [List.length_cons] at one
          omega
        · exact other rfl
      -- Four digits or more without a leading zero are a number from 1000 on.
      have large := Text.pow_le_ofDigitChars_cons (digits first (by simp)) other rest
      have power : 10 ^ 3 ≤ 10 ^ rest.length := Nat.pow_le_pow_right (by decide) (by omega)
      omega
    · intro zero
      obtain ⟨rest, rfl⟩ := List.head?_eq_some_iff.1 zero
      rcases plain with one | other
      · simpa using one
      · exact absurd rfl other
  · rintro ⟨⟨written, digits⟩, short, plain, bounded⟩
    refine ⟨⟨⟨written, digits⟩, ?_⟩, bounded⟩
    by_cases zero : chars.head? = some '0'
    · rw [plain zero]
      exact .inl rfl
    · exact .inr zero

/-- The numbers of a dotted literal are the canonical numerals of bytes. -/
theorem isOctet_iff_byte (chars : List Char) :
    IsOctet chars ↔ ∃ byte : UInt8, chars = Text.decimal byte.toNat := by
  constructor
  · intro octet
    refine ⟨UInt8.ofNat (Nat.ofDigitChars 10 chars 0), ?_⟩
    have below : Nat.ofDigitChars 10 chars 0 < 2 ^ 8 := Nat.lt_succ_of_le octet.bounded
    rw [UInt8.toNat_ofNat_of_lt' below]
    exact (Text.eq_decimal_iff chars).2 ⟨octet.digits, octet.plain⟩
  · rintro ⟨byte, rfl⟩
    have below : byte.toNat < 256 := byte.toNat_lt
    have value : Nat.ofDigitChars 10 (Text.decimal byte.toNat) 0 = byte.toNat :=
      Nat.ofDigitChars_ten_toDigits
    obtain ⟨digits, plain⟩ := (Text.eq_decimal_iff (Text.decimal byte.toNat)).1
      (congrArg Text.decimal value.symm)
    refine ⟨digits, ?_, plain, by omega⟩
    exact (Nat.length_toDigits_le_iff (by decide) (by decide)).2 (by omega)

theorem IsOctet.dot_not_mem {chars : List Char} (octet : IsOctet chars) : '.' ∉ chars := by
  intro member
  exact absurd (octet.digits.2 '.' member) (by decide)

theorem splitOn_dotted
    {octets : List (List Char)}
    (four : octets.length = 4)
    (each : ∀ octet ∈ octets, IsOctet octet) :
    (['.'].intercalate octets).splitOn '.' = octets := by
  apply List.splitOn_intercalate
  · exact fun octet member => (each octet member).dot_not_mem
  · rintro rfl
    cases four

theorem isDotted_eq_true_iff (chars : List Char) :
    isDotted chars = true ↔ IsDottedLiteral chars := by
  simp only [isDotted, Bool.and_eq_true, decide_eq_true_eq, List.all_eq_true,
    isOctet_eq_true_iff]
  constructor
  · rintro ⟨four, each⟩
    exact ⟨chars.splitOn '.', four, each, (List.intercalate_splitOn '.').symm⟩
  · rintro ⟨octets, four, each, rfl⟩
    rw [splitOn_dotted four each]
    exact ⟨four, each⟩

/-- A dotted literal writes four bytes, each by its canonical numeral. -/
theorem isDottedLiteral_iff_bytes (chars : List Char) :
    IsDottedLiteral chars ↔
      ∃ bytes : List UInt8,
        bytes.length = 4 ∧
        chars = ['.'].intercalate (bytes.map fun byte => Text.decimal byte.toNat) := by
  constructor
  · rintro ⟨octets, four, each, rfl⟩
    have written : ∀ octet ∈ octets,
        ∃ byte : UInt8, True ∧ octet = Text.decimal byte.toNat := by
      intro octet member
      obtain ⟨byte, canonical⟩ := (isOctet_iff_byte octet).1 (each octet member)
      exact ⟨byte, trivial, canonical⟩
    obtain ⟨bytes, -, rfl⟩ := exists_map_of_forall_mem written
    exact ⟨bytes, by simpa using four, rfl⟩
  · rintro ⟨bytes, four, rfl⟩
    refine ⟨_, by simpa using four, ?_, rfl⟩
    intro octet member
    obtain ⟨byte, -, rfl⟩ := List.mem_map.1 member
    exact (isOctet_iff_byte _).2 ⟨byte, rfl⟩

theorem IsDottedLiteral.of_mem
    {chars : List Char} {char : Char}
    (literal : IsDottedLiteral chars)
    (member : char ∈ chars) :
    char.isDigit = true ∨ char = '.' := by
  obtain ⟨octets, four, each, rfl⟩ := literal
  rcases Text.mem_intercalate member with dot | ⟨octet, inOctets, inOctet⟩
  · exact .inr dot
  · exact .inl ((each octet inOctets).digits.2 char inOctet)

/-- A dotted literal starts with a number and a dot. -/
theorem IsDottedLiteral.exists_cut {chars : List Char} (literal : IsDottedLiteral chars) :
    ∃ octet rest, IsOctet octet ∧ chars = octet ++ '.' :: rest := by
  obtain ⟨octets, four, each, rfl⟩ := literal
  match octets, four with
  | first :: second :: more, _ =>
      refine ⟨first, ['.'].intercalate (second :: more), each first (by simp), ?_⟩
      rw [List.intercalate_cons_cons, List.append_assoc, List.singleton_append]

/-! ## Parts between colons -/

theorem isGroup_eq_true_iff (chars : List Char) : isGroup chars = true ↔ IsGroup chars := by
  simp only [isGroup, Bool.and_eq_true, decide_eq_true_eq, List.all_eq_true,
    Text.isHexDigit_eq_true_iff]
  constructor
  · rintro ⟨⟨one, short⟩, digits⟩
    exact ⟨List.ne_nil_of_length_pos one, short, digits⟩
  · rintro ⟨written, short, digits⟩
    exact ⟨⟨List.length_pos_iff.2 written, short⟩, digits⟩

/-- What stands between colons: a text without colons that is not empty. -/
def IsPart (chars : List Char) : Prop :=
  chars ≠ [] ∧ ':' ∉ chars

theorem IsGroup.isPart {chars : List Char} (group : IsGroup chars) : IsPart chars :=
  ⟨group.written, fun member => absurd (group.digits ':' member) (by decide)⟩

theorem IsOctet.isGroup {chars : List Char} (octet : IsOctet chars) : IsGroup chars where
  written := octet.digits.1
  short := Nat.le_succ_of_le octet.short
  digits := fun char member => .of_isDigit (octet.digits.2 char member)

theorem IsGroup.dot_not_mem {chars : List Char} (group : IsGroup chars) : '.' ∉ chars :=
  fun member => absurd (group.digits '.' member) (by decide)

theorem IsDottedLiteral.isPart {chars : List Char} (literal : IsDottedLiteral chars) :
    IsPart chars := by
  constructor
  · obtain ⟨octet, rest, -, rfl⟩ := literal.exists_cut
    simp
  · intro member
    rcases literal.of_mem member with digit | dot
    · exact absurd digit (by decide)
    · exact absurd dot (by decide)

/-- No group is a dotted literal. -/
theorem IsDottedLiteral.not_isGroup {chars : List Char} (literal : IsDottedLiteral chars) :
    ¬ IsGroup chars := by
  intro group
  obtain ⟨octet, rest, -, rfl⟩ := literal.exists_cut
  exact group.dot_not_mem (by simp)

theorem GroupParts.isPart
    {count : Nat} {parts : List (List Char)}
    (groups : GroupParts count parts) :
    ∀ part ∈ parts, IsPart part :=
  fun part member => (groups.each part member).isPart

theorem EndingParts.isPart
    {count : Nat} {parts : List (List Char)}
    (ending : EndingParts count parts) :
    ∀ part ∈ parts, IsPart part := by
  induction ending with
  | none => simp
  | dotted literal => simpa using literal.isPart
  | group first _ inductionHypothesis => simpa using ⟨first.isPart, inductionHypothesis⟩

theorem intercalate_colonParts (chars : List Char) : [':'].intercalate (colonParts chars) = chars := by
  unfold colonParts
  split
  · rename_i empty
    rw [empty]
    rfl
  · exact List.intercalate_splitOn ':'

theorem colonParts_intercalate
    {parts : List (List Char)}
    (each : ∀ part ∈ parts, IsPart part) :
    colonParts ([':'].intercalate parts) = parts := by
  cases parts with
  | nil => rfl
  | cons part rest =>
      have written : [':'].intercalate (part :: rest) ≠ [] := by
        obtain ⟨char, more, cut⟩ := List.exists_cons_of_ne_nil (each part (by simp)).1
        cases rest <;> simp [List.intercalate_cons_cons, cut]
      rw [colonParts, if_neg written]
      exact List.splitOn_intercalate ':' (fun piece member => (each piece member).2) (by simp)

/-- Parts that are put together are found again, where they are parts at all. -/
theorem exists_intercalate_iff
    {holds : List (List Char) → Prop}
    (isPart : ∀ parts, holds parts → ∀ part ∈ parts, IsPart part)
    (chars : List Char) :
    (∃ parts, holds parts ∧ chars = [':'].intercalate parts) ↔ holds (colonParts chars) := by
  constructor
  · rintro ⟨parts, held, rfl⟩
    rwa [colonParts_intercalate (isPart parts held)]
  · intro held
    exact ⟨colonParts chars, held, (intercalate_colonParts chars).symm⟩

theorem isGroups_iff (count : Nat) (chars : List Char) :
    IsGroups count chars ↔ GroupParts count (colonParts chars) :=
  exists_intercalate_iff (fun _ => GroupParts.isPart) chars

theorem isEnding_iff (count : Nat) (chars : List Char) :
    IsEnding count chars ↔ EndingParts count (colonParts chars) :=
  exists_intercalate_iff (fun _ => EndingParts.isPart) chars

theorem IsPart.head?_append_ne {part : List Char} (isPart : IsPart part) (rest : List Char) :
    (part ++ rest).head? ≠ some ':' := by
  obtain ⟨char, more, rfl⟩ := List.exists_cons_of_ne_nil isPart.1
  intro colon
  obtain rfl : char = ':' := by simpa using colon
  exact isPart.2 (by simp)

/-- Parts between colons do not start with a colon. -/
theorem head?_intercalate_append_ne
    {parts : List (List Char)}
    (each : ∀ part ∈ parts, IsPart part)
    (written : parts ≠ [])
    (rest : List Char) :
    ([':'].intercalate parts ++ rest).head? ≠ some ':' := by
  obtain ⟨part, others, rfl⟩ := List.exists_cons_of_ne_nil written
  have first := each part (by simp)
  cases others with
  | nil => simpa [List.intercalate] using first.head?_append_ne rest
  | cons next more =>
      rw [List.intercalate_cons_cons, List.append_assoc, List.append_assoc]
      exact first.head?_append_ne _

theorem IsEnding.head?_ne
    {count : Nat} {chars : List Char}
    (ending : IsEnding count chars) :
    chars.head? ≠ some ':' := by
  obtain ⟨parts, given, rfl⟩ := ending
  cases parts with
  | nil => simp [List.intercalate]
  | cons part rest => simpa using head?_intercalate_append_ne given.isPart (by simp) []

/-! ## Counting groups -/

theorem groupCount?_eq_some_iff (parts : List (List Char)) (count : Nat) :
    groupCount? parts = some count ↔ GroupParts count parts := by
  have each : parts.all isGroup = true ↔ ∀ part ∈ parts, IsGroup part := by
    simp only [List.all_eq_true, isGroup_eq_true_iff]
  unfold groupCount?
  by_cases groups : ∀ part ∈ parts, IsGroup part
  · rw [if_pos (each.2 groups), Option.some.injEq]
    exact ⟨fun length => ⟨length, groups⟩, GroupParts.length⟩
  · rw [if_neg (mt each.1 groups)]
    exact ⟨nofun, fun given => absurd given.each groups⟩

theorem endingParts_nil_iff (count : Nat) : EndingParts count [] ↔ count = 0 := by
  constructor
  · intro ending
    cases ending
    rfl
  · rintro rfl
    exact .none

theorem endingParts_singleton_iff (count : Nat) (part : List Char) :
    EndingParts count [part] ↔
      IsGroup part ∧ count = 1 ∨ IsDottedLiteral part ∧ count = 2 := by
  constructor
  · intro ending
    cases ending with
    | dotted literal => exact .inr ⟨literal, rfl⟩
    | group first ending =>
        rw [endingParts_nil_iff] at ending
        exact .inl ⟨first, by omega⟩
  · rintro (⟨first, rfl⟩ | ⟨literal, rfl⟩)
    · exact .group first .none
    · exact .dotted literal

theorem endingParts_cons_cons_iff
    (count : Nat)
    (part next : List Char)
    (more : List (List Char)) :
    EndingParts count (part :: next :: more) ↔
      IsGroup part ∧ ∃ rest, EndingParts rest (next :: more) ∧ count = rest + 1 := by
  constructor
  · intro ending
    cases ending with
    | group first ending => exact ⟨first, _, ending, rfl⟩
  · rintro ⟨first, rest, ending, rfl⟩
    exact .group first ending

theorem mixedCount?_eq_some_iff (parts : List (List Char)) (count : Nat) :
    mixedCount? parts = some count ↔ EndingParts count parts := by
  induction parts generalizing count with
  | nil => simp [mixedCount?, endingParts_nil_iff, eq_comm]
  | cons part rest inductionHypothesis =>
      cases rest with
      | nil =>
          rw [mixedCount?, endingParts_singleton_iff]
          by_cases group : IsGroup part
          · have undotted : ¬ IsDottedLiteral part := fun literal => literal.not_isGroup group
            rw [if_pos ((isGroup_eq_true_iff part).2 group)]
            simp [group, undotted, eq_comm]
          · rw [if_neg (mt (isGroup_eq_true_iff part).1 group)]
            by_cases literal : IsDottedLiteral part
            · rw [if_pos ((isDotted_eq_true_iff part).2 literal)]
              simp [group, literal, eq_comm]
            · rw [if_neg (mt (isDotted_eq_true_iff part).1 literal)]
              simp [group, literal]
      | cons next more =>
          rw [mixedCount?, endingParts_cons_cons_iff]
          by_cases group : IsGroup part
          · rw [if_pos ((isGroup_eq_true_iff part).2 group), Option.map_eq_some_iff]
            simp only [group, true_and, inductionHypothesis]
            exact exists_congr fun rest => and_congr_right fun _ => eq_comm
          · rw [if_neg (mt (isGroup_eq_true_iff part).1 group)]
            simp [group]

/-! ## Endings by their cuts -/

theorem isEnding_nil_iff (count : Nat) : IsEnding count [] ↔ count = 0 := by
  rw [isEnding_iff]
  exact endingParts_nil_iff count

theorem IsEnding.pos
    {count : Nat} {chars : List Char}
    (ending : IsEnding count chars)
    (written : chars ≠ []) :
    0 < count := by
  obtain ⟨parts, given, rfl⟩ := ending
  cases given with
  | none => exact absurd rfl written
  | dotted literal => decide
  | group first rest => exact Nat.succ_pos _

theorem isEnding_part_iff
    {part : List Char}
    (isPart : IsPart part)
    (count : Nat) :
    IsEnding count part ↔ IsGroup part ∧ count = 1 ∨ IsDottedLiteral part ∧ count = 2 := by
  have single : colonParts part = [part] := by
    rw [colonParts, if_neg isPart.1, List.splitOn_eq_singleton isPart.2]
  rw [isEnding_iff, single, endingParts_singleton_iff]

/-- What a part and a colon stand in front of is an ending of its own, and not empty. -/
theorem isEnding_cut_iff
    {part : List Char}
    (plain : ':' ∉ part)
    (rest : List Char)
    (count : Nat) :
    IsEnding count (part ++ ':' :: rest) ↔
      IsGroup part ∧ rest ≠ [] ∧ ∃ others, IsEnding others rest ∧ count = others + 1 := by
  have cut : colonParts (part ++ ':' :: rest) = part :: rest.splitOn ':' := by
    rw [colonParts, if_neg (by simp), List.splitOn_append_cons_self,
      List.splitOn_eq_singleton plain]
    rfl
  obtain ⟨next, more, pieces⟩ := List.exists_cons_of_ne_nil (List.splitOn_ne_nil ':' rest)
  rw [isEnding_iff, cut, pieces, endingParts_cons_cons_iff, ← pieces]
  refine and_congr_right fun _ => ?_
  by_cases empty : rest = []
  · have none : ∀ others, ¬ EndingParts others [[]] :=
      fun others ending => (ending.isPart [] (by simp)).1 rfl
    simp [empty, none]
  · have parts : colonParts rest = rest.splitOn ':' := if_neg empty
    simp only [isEnding_iff, parts, ne_eq, empty, not_false_eq_true, true_and]

/-! ## The double colon -/

theorem eq_of_splitGap?
    {chars front back : List Char}
    (found : splitGap? chars = some (front, back)) :
    chars = front ++ ':' :: ':' :: back := by
  fun_induction splitGap? chars generalizing front with
  | case1 rest =>
      obtain ⟨rfl, rfl⟩ := Prod.mk.inj (Option.some.inj found)
      rfl
  | case2 char rest _ inductionHypothesis =>
      obtain ⟨⟨early, late⟩, inRest, same⟩ := Option.map_eq_some_iff.1 found
      obtain ⟨rfl, rfl⟩ := Prod.mk.inj same
      rw [inductionHypothesis inRest, List.cons_append]
  | case3 => cases found

/-- A character that does not start a double colon is passed over. -/
theorem splitGap?_cons
    {char : Char} {rest : List Char}
    (single : char = ':' → rest.head? ≠ some ':') :
    splitGap? (char :: rest) =
      (splitGap? rest).map fun sides => (char :: sides.1, sides.2) := by
  rw [splitGap?]
  rintro other rfl rfl
  exact single rfl rfl

theorem splitGap?_append
    {part : List Char}
    (plain : ':' ∉ part)
    (rest : List Char) :
    splitGap? (part ++ rest) =
      (splitGap? rest).map fun sides => (part ++ sides.1, sides.2) := by
  induction part with
  | nil => simp
  | cons char more inductionHypothesis =>
      rw [List.mem_cons, not_or] at plain
      rw [List.cons_append, splitGap?_cons fun colon => absurd colon.symm plain.1,
        inductionHypothesis plain.2, Option.map_map]
      rfl

/-- There is no double colon in parts between colons, nor where they end. -/
theorem splitGap?_intercalate_append
    {parts : List (List Char)}
    (each : ∀ part ∈ parts, IsPart part)
    (rest : List Char) :
    splitGap? ([':'].intercalate parts ++ rest) =
      (splitGap? rest).map fun sides => ([':'].intercalate parts ++ sides.1, sides.2) := by
  induction parts with
  | nil => simp [List.intercalate]
  | cons part others inductionHypothesis =>
      obtain ⟨written, plain⟩ := each part (by simp)
      have hypothesis := inductionHypothesis fun other member => each other (by simp [member])
      cases others with
      | nil => simpa [List.intercalate] using splitGap?_append plain rest
      | cons next more =>
          have single : ':' = ':' →
              ([':'].intercalate (next :: more) ++ rest).head? ≠ some ':' :=
            fun _ => head?_intercalate_append_ne
              (fun other member => each other (by simp [member])) (by simp) rest
          rw [List.intercalate_cons_cons, List.append_assoc, List.append_assoc,
            splitGap?_append plain, List.singleton_append, splitGap?_cons single, hypothesis,
            Option.map_map, Option.map_map]
          simp [Function.comp_def]

theorem isGrouped_eq_true_iff (chars : List Char) :
    isGrouped chars = true ↔ IsGroupedLiteral chars := by
  constructor
  · intro accepted
    unfold isGrouped at accepted
    split at accepted
    · rw [decide_eq_true_eq, mixedCount?_eq_some_iff, ← isEnding_iff] at accepted
      exact .full accepted
    · rename_i front back found
      split at accepted
      · rename_i before after groups ending
        rw [groupCount?_eq_some_iff, ← isGroups_iff] at groups
        rw [mixedCount?_eq_some_iff, ← isEnding_iff] at ending
        rw [eq_of_splitGap? found]
        exact .gapped groups ending (of_decide_eq_true accepted)
      · cases accepted
  · intro literal
    cases literal with
    | full ending =>
        have counted := (mixedCount?_eq_some_iff _ _).2 ((isEnding_iff 8 chars).1 ending)
        obtain ⟨parts, given, rfl⟩ := ending
        have ungapped : splitGap? ([':'].intercalate parts) = none := by
          simpa [splitGap?] using splitGap?_intercalate_append given.isPart []
        rw [isGrouped, ungapped]
        exact decide_eq_true counted
    | @gapped before after front back groups ending missing =>
        have frontCounted := (groupCount?_eq_some_iff _ _).2 ((isGroups_iff _ _).1 groups)
        have backCounted := (mixedCount?_eq_some_iff _ _).2 ((isEnding_iff _ _).1 ending)
        obtain ⟨parts, given, rfl⟩ := groups
        have found : splitGap? ([':'].intercalate parts ++ ':' :: ':' :: back) =
            some ([':'].intercalate parts, back) := by
          simpa [splitGap?] using splitGap?_intercalate_append given.isPart (':' :: ':' :: back)
        rw [isGrouped, found]
        simp only [frontCounted, backCounted]
        exact decide_eq_true missing

/-! ## Literals -/

theorem isIpAddress_eq_true_iff (chars : List Char) :
    isIpAddress chars = true ↔ IsAddressLiteral chars := by
  rw [isIpAddress, Bool.or_eq_true, isDotted_eq_true_iff, isGrouped_eq_true_iff, IsAddressLiteral]

instance (chars : List Char) : Decidable (IsAddressLiteral chars) :=
  decidable_of_iff (isIpAddress chars = true) (isIpAddress_eq_true_iff chars)

theorem IsEnding.colon_mem
    {count : Nat} {chars : List Char}
    (ending : IsEnding count chars)
    (several : 2 < count) :
    ':' ∈ chars := by
  by_contra plain
  by_cases empty : chars = []
  · rw [empty, isEnding_nil_iff] at ending
    omega
  · rcases (isEnding_part_iff ⟨empty, plain⟩ count).1 ending with ⟨-, one⟩ | ⟨-, two⟩ <;> omega

/-- The literals of groups are the ones with a colon. -/
theorem isGroupedLiteral_iff (chars : List Char) :
    IsGroupedLiteral chars ↔ IsAddressLiteral chars ∧ ':' ∈ chars := by
  constructor
  · intro literal
    refine ⟨.inr literal, ?_⟩
    cases literal with
    | full ending => exact ending.colon_mem (by decide)
    | gapped _ _ _ => simp
  · rintro ⟨dotted | grouped, colon⟩
    · exact absurd colon dotted.isPart.2
    · exact grouped

/-- A character of an address literal. -/
def IsAddressCharacter (char : Char) : Prop :=
  Text.IsHexDigit char ∨ char = ':' ∨ char = '.'

instance (char : Char) : Decidable (IsAddressCharacter char) :=
  inferInstanceAs (Decidable (_ ∨ _ ∨ _))

theorem IsDottedLiteral.isAddressCharacter
    {chars : List Char} {char : Char}
    (literal : IsDottedLiteral chars)
    (member : char ∈ chars) :
    IsAddressCharacter char := by
  rcases literal.of_mem member with digit | dot
  · exact .inl (.of_isDigit digit)
  · exact .inr (.inr dot)

theorem IsGroups.isAddressCharacter
    {count : Nat} {chars : List Char} {char : Char}
    (groups : IsGroups count chars)
    (member : char ∈ chars) :
    IsAddressCharacter char := by
  obtain ⟨parts, given, rfl⟩ := groups
  rcases Text.mem_intercalate member with colon | ⟨part, inParts, inPart⟩
  · exact .inr (.inl colon)
  · exact .inl ((given.each part inParts).digits char inPart)

theorem EndingParts.isAddressCharacter
    {count : Nat} {parts : List (List Char)} {part : List Char} {char : Char}
    (ending : EndingParts count parts)
    (isPart : part ∈ parts)
    (member : char ∈ part) :
    IsAddressCharacter char := by
  induction ending with
  | none => cases isPart
  | dotted literal =>
      rw [List.mem_singleton.1 isPart] at member
      exact literal.isAddressCharacter member
  | group first _ inductionHypothesis =>
      rcases List.mem_cons.1 isPart with rfl | later
      · exact .inl (first.digits char member)
      · exact inductionHypothesis later

theorem IsEnding.isAddressCharacter
    {count : Nat} {chars : List Char} {char : Char}
    (ending : IsEnding count chars)
    (member : char ∈ chars) :
    IsAddressCharacter char := by
  obtain ⟨parts, given, rfl⟩ := ending
  rcases Text.mem_intercalate member with colon | ⟨part, inParts, inPart⟩
  · exact .inr (.inl colon)
  · exact given.isAddressCharacter inParts inPart

theorem IsAddressLiteral.isAddressCharacter
    {chars : List Char} {char : Char}
    (literal : IsAddressLiteral chars)
    (member : char ∈ chars) :
    IsAddressCharacter char := by
  rcases literal with dotted | ending | ⟨groups, ending, -⟩
  · exact dotted.isAddressCharacter member
  · exact ending.isAddressCharacter member
  · simp only [List.mem_append, List.mem_cons] at member
    rcases member with early | rfl | rfl | late
    · exact groups.isAddressCharacter early
    · exact .inr (.inl rfl)
    · exact .inr (.inl rfl)
    · exact ending.isAddressCharacter late

end Fieldwise.Format

/-! ## The report -/

namespace Fieldwise.Validator

open Format

variable (config : Config) (reachability : Reachability) (book : RuleBook)

theorem errors_of_ipFormat
    [Libraries]
    (lookup : String → Option Value)
    (name content : String)
    (parameter : Option Parameter) :
    let validator := Builder.assemble { config, reachability, predicates := [], rules := book }
    let rule : Rule := ⟨.builtIn .ipFormat, parameter⟩
    let errors :=
      (validator.validate ⟨[⟨name, .text content, .registered [rule]⟩], lookup⟩).errors
    (errors = [] ↔ IsAddressLiteral content.toList) ∧
    (errors =
        [.about name rule "ipformat" ("The " ++ name ++ " field must be a valid IP address")] ↔
      ¬ IsAddressLiteral content.toList) := by
  intro validator rule errors
  have message : Report.keywordMessage name .ipFormat rule (.text content) =
      "The " ++ name ++ " field must be a valid IP address" := by
    apply String.ext
    simp [Report.keywordMessage]
  rw [← isIpAddress_eq_true_iff, ← message]
  refine errors_of_format config reachability book lookup name content parameter .ipFormat
    isIpAddress rfl rfl fun companion => ?_
  simp only [Keyword.Passes, Value.text.injEq, exists_eq_left']

/-- **The address rule accepts the address literals of the grammar and nothing else.** A
text that is four numbers between dots, or groups between colons, has no error, and every
other text has exactly the one error of the rule. The texts with dots are those that write
four bytes by their canonical numerals. No accepted text has a character that is no
hexadecimal digit, colon or dot. -/
theorem address_rule_accepts_literals
    [Libraries]
    (lookup : String → Option Value)
    (name content : String)
    (parameter : Option Parameter) :
    let validator := Builder.assemble { config, reachability, predicates := [], rules := book }
    let rule : Rule := ⟨.builtIn .ipFormat, parameter⟩
    let errors :=
      (validator.validate ⟨[⟨name, .text content, .registered [rule]⟩], lookup⟩).errors
    (errors = [] ↔ IsDottedLiteral content.toList ∨ IsGroupedLiteral content.toList) ∧
    (errors =
        [.about name rule "ipformat" ("The " ++ name ++ " field must be a valid IP address")] ↔
      ¬ (IsDottedLiteral content.toList ∨ IsGroupedLiteral content.toList)) ∧
    (IsDottedLiteral content.toList ↔
      ∃ bytes : List UInt8,
        bytes.length = 4 ∧
        content.toList = ['.'].intercalate (bytes.map fun byte => Text.decimal byte.toNat)) ∧
    (errors = [] → ∀ char ∈ content.toList, IsAddressCharacter char) := by
  intro validator rule errors
  obtain ⟨accepts, refuses⟩ :=
    errors_of_ipFormat config reachability book lookup name content parameter
  refine ⟨accepts, refuses, isDottedLiteral_iff_bytes content.toList, ?_⟩
  intro accepted char
  exact (accepts.1 accepted).isAddressCharacter

/-- A dotted literal behind a double colon, which stands for five groups. -/
theorem embedded_literal_is_accepted :
    (Validator.default.validate
      ⟨[⟨"Host", .text "::ffff:1.2.3.40", .registered [⟨.builtIn .ipFormat, none⟩]⟩],
        fun _ => none⟩).errors = [] ∧
    IsAddressCharacter 'f' := by
  obtain ⟨accepts, -, -, characters⟩ := address_rule_accepts_literals Config.default
    Reachability.offline Table.empty (fun _ => none) "Host" "::ffff:1.2.3.40" none
  have literal : IsAddressLiteral "::ffff:1.2.3.40".toList := by decide
  have accepted := accepts.2 literal
  exact ⟨accepted, characters accepted 'f' (by decide)⟩

end Fieldwise.Validator
