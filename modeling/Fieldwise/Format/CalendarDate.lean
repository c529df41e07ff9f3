import Fieldwise.Format.Calendar

/-!
Contract: calendar dates of fixed width.

Owns: the layouts of a date, the tokens that name layouts, the layouts of a date
of no named layout, and the shape of the texts in a layout.

Does **not** own: which days there are. A text of the right shape is left to a
library that reads dates, which alone would also take numbers that are signed or
not of full width.
-/

set_option autoImplicit false

namespace Fieldwise.Format

/-! ## Layouts -/

/-- A layout, by its pattern: a percent code for each number. -/
structure DateLayout where
  pattern : String
deriving DecidableEq

namespace DateLayout

/-- The layout that a token names. -/
def ofToken? : (token : String) → Option DateLayout
  | "YYYY/MM/DD" => some ⟨"%Y/%m/%d"⟩
  | "YYYY/DD/MM" => some ⟨"%Y/%d/%m"⟩
  | "YYYY-MM-DD" => some ⟨"%Y-%m-%d"⟩
  | "YYYY-DD-MM" => some ⟨"%Y-%d-%m"⟩
  | _ => none

/-- The layouts of a date where no layout is asked for. -/
def accepted : List DateLayout :=
  [⟨"%Y-%m-%d"⟩, ⟨"%d-%m-%Y"⟩, ⟨"%d/%m/%Y"⟩, ⟨"%Y/%d/%m"⟩]

end DateLayout

/-! ## Shapes -/

/-- A part of a shape. -/
inductive ShapePart where
  /-- So many decimal digits. -/
  | digits (count : Nat)
  /-- One given character. -/
  | mark (char : Char)
deriving DecidableEq

/-- The shape of a text: its parts, from the start to the end. -/
abbrev DateShape := List ShapePart

namespace DateShape

def isMatch : DateShape → List Char → Bool
  | [], chars => chars = []
  | .digits count :: parts, chars =>
      (chars.take count).length = count && (chars.take count).all Char.isDigit
        && isMatch parts (chars.drop count)
  | .mark _ :: _, [] => false
  | .mark char :: parts, first :: rest => first = char && isMatch parts rest

def yearFirstDash : DateShape :=
  [.digits 4, .mark '-', .digits 2, .mark '-', .digits 2]

def yearFirstSlash : DateShape :=
  [.digits 4, .mark '/', .digits 2, .mark '/', .digits 2]

def dayFirstDash : DateShape :=
  [.digits 2, .mark '-', .digits 2, .mark '-', .digits 4]

def dayFirstSlash : DateShape :=
  [.digits 2, .mark '/', .digits 2, .mark '/', .digits 4]

end DateShape

namespace DateLayout

/-- The shape of the texts in a layout: a year of four digits, a month and a day of
two. -/
def shape? (layout : DateLayout) : Option DateShape :=
  match layout.pattern with
  | "%Y-%m-%d" | "%Y-%d-%m" => some .yearFirstDash
  | "%Y/%m/%d" | "%Y/%d/%m" => some .yearFirstSlash
  | "%d-%m-%Y" => some .dayFirstDash
  | "%d/%m/%Y" => some .dayFirstSlash
  | _ => none

end DateLayout

/-! ## Tests -/

/-- Is a text a date in a layout? It must have the shape of the layout, and the
library must read it. -/
def parsesAs (reader : DateReader) (layout : DateLayout) (chars : List Char) : Bool :=
  layout.shape?.any (·.isMatch chars) && (reader.read? layout.pattern chars).isSome

/-- Is a text a date in one of the accepted layouts? -/
def isDate (reader : DateReader) (chars : List Char) : Bool :=
  DateLayout.accepted.any fun layout => parsesAs reader layout chars

/-- Is a text a date in the layout that a token names? No text is where the
token names none. -/
def isDateOf (reader : DateReader) (token : String) (chars : List Char) : Bool :=
  (DateLayout.ofToken? token).any fun layout => parsesAs reader layout chars

example : isDate .lenient "0000-02-29".toList = true
    ∧ isDate .lenient "1900-02-29".toList = false
    ∧ isDate .lenient "2022/31/01".toList = true
    ∧ isDate .lenient "2022/1/31".toList = false := by decide

end Fieldwise.Format
