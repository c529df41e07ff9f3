import Fieldwise.Rule.Parameter
import Fieldwise.Text.Blank

/-!
Contract: rules and their text.

Owns: the rule type, the reading and the text of one rule, and the reading of a
specification, the rules of a field in one text.

Does **not** own: the registration of rules for fields (`Fieldwise.Rule.Book`).
-/

set_option autoImplicit false

namespace Fieldwise

/-- One rule for a field: its kind, and the parameter after the colon if it has
a colon. -/
structure Rule where
  kind : Kind
  parameter : Option Parameter
deriving DecidableEq

namespace Rule

/-! ## One rule -/

/-- The rule of a trimmed text: its kind stands before the first colon, and
everything after that colon is its parameter. -/
def ofTrimmed (chars : List Char) : Rule :=
  let kind := Kind.ofName (String.ofList (chars.takeWhile (· != ':')))
  match chars.dropWhile (· != ':') with
  | [] => { kind, parameter := none }
  | _ :: raw => { kind, parameter := some (Parameter.parse kind.form raw) }

/-- The rule of a text. Blanks around the whole text do not count; blanks next
to the colon do. -/
def parse (token : List Char) : Rule :=
  ofTrimmed (Text.trim token)

def chars (rule : Rule) : List Char :=
  rule.kind.name.toList ++
    match rule.parameter with
    | none => []
    | some parameter => ':' :: parameter.chars

def toText (rule : Rule) : String :=
  String.ofList rule.chars

/-- The text of a rule's parameter, empty where it has none. -/
def parameterText (rule : Rule) : String :=
  match rule.parameter with
  | none => ""
  | some parameter => parameter.toText

/-! ## Specifications -/

/-- The rules of a specification: its parts between bars, except the blank ones,
in order. -/
def parseSpec (spec : List Char) : List Rule :=
  ((spec.splitOn '|').filter fun token => !Text.allBlank token).map parse

/-- The specification of a list of rules: their texts between bars. -/
def specChars (rules : List Rule) : List Char :=
  ['|'].intercalate (rules.map chars)

theorem parseSpec_append (left right : List Char) :
    parseSpec (left ++ '|' :: right) = parseSpec left ++ parseSpec right := by
  simp [parseSpec, List.splitOn_append_cons_self]

theorem parseSpec_of_allBlank
    {spec : List Char}
    (blank : Text.allBlank spec = true) :
    parseSpec spec = [] := by
  have noBar : '|' ∉ spec := by
    intro member
    have blankBar := List.all_eq_true.1 blank '|' member
    exact absurd blankBar (by decide)
  simp [parseSpec, List.splitOn_eq_singleton noBar, blank]

end Rule

end Fieldwise
