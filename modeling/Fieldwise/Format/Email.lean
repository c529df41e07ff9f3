/-!
Contract: e-mail addresses.

Owns: which texts are e-mail addresses: a local part, an at sign, and a domain of
labels between dots that ends in letters.

Does **not** own: whether an address is in use.
-/

set_option autoImplicit false

namespace Fieldwise.Format

/-- ASCII letters, digits, and `. _ % + -`. -/
def isLocalChar (char : Char) : Bool :=
  char.isAlphanum || ['.', '_', '%', '+', '-'].contains char

/-- ASCII letters, digits and hyphens. -/
def isLabelChar (char : Char) : Bool :=
  char.isAlphanum || char = '-'

/-- One or more characters before the at sign. -/
def isLocalPart (chars : List Char) : Bool :=
  chars ≠ [] && chars.all isLocalChar

/-- A label of a domain, other than the last. -/
def isLabel (chars : List Char) : Bool :=
  chars ≠ [] && chars.all isLabelChar

/-- The last label of a domain: two or more letters. -/
def isTopLabel (chars : List Char) : Bool :=
  2 ≤ chars.length && chars.all Char.isAlpha

/-- Two or more labels between dots, of which the last is a top label. -/
def isDomain (chars : List Char) : Bool :=
  let labels := chars.splitOn '.'
  2 ≤ labels.length && labels.dropLast.all isLabel && labels.getLast?.any isTopLabel

/-- Is a text an e-mail address? It has exactly one at sign; nothing but the
address may be in the text. -/
def isEmail (chars : List Char) : Bool :=
  match chars.splitOn '@' with
  | [localPart, domain] => isLocalPart localPart && isDomain domain
  | _ => false

example : isEmail "a.b+c@x-1.co".toList = true ∧ isEmail "a@b.c".toList = false
    ∧ isEmail "a@b..co".toList = false ∧ isEmail "a@b.co\n".toList = false := by decide

end Fieldwise.Format
