/-!
Contract: blank characters, and text without its blank margins.

Owns: the table of the White_Space property, the test `isBlank`, and `trim`.

Does **not** own: cutting text at a separator. Separators of rules are never
blank, so the two never interact here.
-/

set_option autoImplicit false

namespace Fieldwise.Text

/-- Membership of a character in a list of inclusive code point ranges. -/
def inRanges (ranges : List (Nat × Nat)) (char : Char) : Bool :=
  ranges.any fun range => range.1 ≤ char.toNat && char.toNat ≤ range.2

/-- The White_Space property as inclusive code point ranges, in ascending order. -/
def blankRanges : List (Nat × Nat) :=
  [(0x09, 0x0D), (0x20, 0x20), (0x85, 0x85), (0xA0, 0xA0), (0x1680, 0x1680),
    (0x2000, 0x200A), (0x2028, 0x2029), (0x202F, 0x202F), (0x205F, 0x205F),
    (0x3000, 0x3000)]

/-- A character is blank when it has the White_Space property. The zero-width
characters do not have it. -/
def isBlank (char : Char) : Bool :=
  inRanges blankRanges char

/-- The text from its first character that is not blank. -/
def trimStart (chars : List Char) : List Char :=
  chars.dropWhile isBlank

/-- The text up to its last character that is not blank. -/
def trimEnd (chars : List Char) : List Char :=
  (chars.reverse.dropWhile isBlank).reverse

/-- The text without blank characters at either end. -/
def trim (chars : List Char) : List Char :=
  trimEnd (trimStart chars)

/-- A text is blank when nothing of it is left after trimming. -/
def allBlank (chars : List Char) : Bool :=
  chars.all isBlank

example : isBlank '\u3000' = true ∧ isBlank '\u200b' = false := by decide

end Fieldwise.Text
