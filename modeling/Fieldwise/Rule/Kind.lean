/-!
Contract: the kinds of rule.

Owns: the built-in keywords with their names, kinds with names of their own, and
how a kind takes its parameter.

Does **not** own: what a kind checks (`Fieldwise.Predicate.BuiltIn`).
-/

set_option autoImplicit false

namespace Fieldwise

inductive Keyword where
  | required
  | max
  | min
  | email
  | url
  | activeUrl
  | ipFormat
  | date
  | dateFormat
  | between
  | oneOf
  | noneOf
  | accepted
  | size
  | confirmed
  | doesntEndWith
  | doesntStartWith
  | macAddress
  | greater
  | less
  | atLeast
  | atMost
deriving DecidableEq

/-- How a rule reads the text after its colon. -/
inductive ParameterForm where
  /-- A 64-bit integer where the text is one, else the text. -/
  | scalar
  /-- The text itself, whatever it looks like. -/
  | literal
  /-- The parts of the text between commas. -/
  | list
deriving DecidableEq

namespace Keyword

/-- Every keyword, in the order in which listings show them. -/
def all : List Keyword :=
  [required, max, min, email, url, activeUrl, ipFormat, date, dateFormat, between,
    oneOf, noneOf, accepted, size, confirmed, doesntEndWith, doesntStartWith,
    macAddress, greater, less, atLeast, atMost]

def name : Keyword → String
  | required => "required"
  | max => "max"
  | min => "min"
  | email => "email"
  | url => "url"
  | activeUrl => "active_url"
  | ipFormat => "ipformat"
  | date => "date"
  | dateFormat => "dateFormat"
  | between => "between"
  | oneOf => "in"
  | noneOf => "notIn"
  | accepted => "accepted"
  | size => "size"
  | confirmed => "confirmed"
  | doesntEndWith => "doesnt_end_with"
  | doesntStartWith => "doesnt_start_with"
  | macAddress => "macAddress"
  | greater => "gt"
  | less => "lt"
  | atLeast => "gte"
  | atMost => "lte"

/-- The keyword of exactly this name. Case counts, and so do blanks. -/
def ofName? (name : String) : Option Keyword :=
  all.find? fun keyword => keyword.name = name

def form : Keyword → ParameterForm
  | between | oneOf | noneOf => .list
  | dateFormat | doesntEndWith | doesntStartWith => .literal
  | _ => .scalar

theorem mem_all (keyword : Keyword) : keyword ∈ all := by
  cases keyword <;> decide

theorem nodup_all : all.Nodup := by decide

theorem ofName?_name (keyword : Keyword) : ofName? keyword.name = some keyword := by
  cases keyword <;> decide

end Keyword

/-- The kind of a rule: a built-in keyword, or a name that a caller gave. A kind
made of a name stays apart from the keyword of the same name; rule text never
leads to such a kind. -/
inductive Kind where
  | builtIn (keyword : Keyword)
  | other (name : String)
deriving DecidableEq

namespace Kind

/-- The kind that a name stands for in rule text. -/
def ofName (name : String) : Kind :=
  match Keyword.ofName? name with
  | some keyword => .builtIn keyword
  | none => .other name

def name : Kind → String
  | .builtIn keyword => keyword.name
  | .other name => name

def isBuiltIn : Kind → Bool
  | .builtIn _ => true
  | .other _ => false

/-- How a kind reads its parameter; a kind that is no keyword reads a scalar. -/
def form : Kind → ParameterForm
  | .builtIn keyword => keyword.form
  | .other _ => .scalar

def takesList (kind : Kind) : Bool :=
  kind.form = .list

def takesLiteral (kind : Kind) : Bool :=
  kind.form = .literal

/-- Reading a name and naming the kind gives the name back. -/
theorem name_ofName (name : String) : (ofName name).name = name := by
  unfold ofName
  cases found : Keyword.ofName? name with
  | none => rfl
  | some keyword =>
      have matched := List.find?_some found
      simpa [Kind.name] using matched

theorem ofName_name_builtIn (keyword : Keyword) :
    ofName keyword.name = .builtIn keyword := by
  simp [ofName, Keyword.ofName?_name]

end Kind

end Fieldwise
