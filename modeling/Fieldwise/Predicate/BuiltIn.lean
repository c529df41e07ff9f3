import Fieldwise.Check.Order
import Fieldwise.Check.Presence
import Fieldwise.Format.CalendarDate
import Fieldwise.Format.Email
import Fieldwise.Format.IpAddress
import Fieldwise.Format.MacAddress
import Fieldwise.Libraries
import Fieldwise.Predicate.Basic
import Fieldwise.Text.Quoted

/-!
Contract: the predicates of the built-in keywords.

Owns: for each keyword the shape it asks for, the parameter it needs, and the
test it makes.

Does **not** own: the tests themselves (`Fieldwise.Check`, `Fieldwise.Format`,
`Fieldwise.Url`), and the libraries that some of them rely on
(`Fieldwise.Libraries`).
-/

set_option autoImplicit false

namespace Fieldwise.Predicate

/-! ## Families of predicates -/

/-- A value must be given. Null is tested, and fails. -/
def required : Predicate :=
  { ofTest .any fun (value : Value) => !Check.isEmpty value with checksNull := true }

/-- A value must be an acceptance. Null is tested, and fails. -/
def accepted : Predicate :=
  { ofTest .any fun (value : Value) => Check.isAccepted value with checksNull := true }

def format (test : List Char → Bool) : Predicate :=
  ofTest .text fun (content : String) => test content.toList

/-- A size must keep to a bound, an integer parameter. -/
def sizeBound (bound : Check.SizeBound) : Predicate :=
  ofCheck .sized fun (size : Nat) parameter =>
    (Parameter.demandInteger (.builtIn bound.keyword) parameter).map (bound.holds size)

/-- An integer must compare with a threshold, an integer parameter. -/
def comparison (comparison : Check.Comparison) : Predicate :=
  ofCheck .integer fun (value : Int64) parameter =>
    (Parameter.demandInteger (.builtIn comparison.keyword) parameter).map
      (comparison.holds value)

def between : Predicate :=
  ofCheck .integer fun (value : Int64) parameter =>
    (Parameter.demandItems (.builtIn .between) parameter).map (Check.isBetween value)

def oneOf : Predicate :=
  ofCheck .text fun (content : String) parameter =>
    (Parameter.demandItems (.builtIn .oneOf) parameter).map (·.contains content)

def noneOf : Predicate :=
  ofCheck .text fun (content : String) parameter =>
    (Parameter.demandItems (.builtIn .noneOf) parameter).map (!·.contains content)

def doesntEndWith : Predicate :=
  ofCheck .text fun (content : String) parameter =>
    (Parameter.demandText (.builtIn .doesntEndWith) parameter).map
      fun affix => !affix.toList.isSuffixOf content.toList

def doesntStartWith : Predicate :=
  ofCheck .text fun (content : String) parameter =>
    (Parameter.demandText (.builtIn .doesntStartWith) parameter).map
      fun affix => !affix.toList.isPrefixOf content.toList

def dateFormat [Libraries] : Predicate :=
  ofCheck .text fun (content : String) parameter =>
    (Parameter.demandText (.builtIn .dateFormat) parameter).map
      fun token => Format.isDateOf Libraries.dates token content.toList

/-- A value must equal that of the companion. A missing companion is an error of
its own. -/
def confirmed : Predicate :=
  { expects := .any
    checksNull := false
    check := fun (value : Value) _ context => .ok (context.companion.confirms value)
    failure := fun rule value context =>
      if context.companion.isPresent then ruleFailure rule value context
      else FieldError.confirmationMissing context.field context.companion.name }

/-- Something must answer at the address that a text is, within the timeout. -/
def activeUrl [Libraries] (reachability : Reachability) (timeout : Duration) : Predicate :=
  ofTest .text fun (content : String) =>
    Libraries.timer.confirms timeout (reachability content)

def describeActiveUrl (timeout : Duration) : String :=
  Text.recordText "ActiveUrl" [("timeout", timeout.describe)]

/-! ## Keywords -/

def ofKeyword
    [Libraries]
    (reachability : Reachability)
    (timeout : Duration) :
    Keyword → Predicate
  | .required => required
  | .max => sizeBound .atMost
  | .min => sizeBound .atLeast
  | .email => format Format.isEmail
  | .url => format (Url.isReference Libraries.addresses)
  | .activeUrl => activeUrl reachability timeout
  | .ipFormat => format Format.isIpAddress
  | .date => format (Format.isDate Libraries.dates)
  | .dateFormat => dateFormat
  | .between => between
  | .oneOf => oneOf
  | .noneOf => noneOf
  | .accepted => accepted
  | .size => sizeBound .exactly
  | .confirmed => confirmed
  | .doesntEndWith => doesntEndWith
  | .doesntStartWith => doesntStartWith
  | .macAddress => format Format.isMacAddress
  | .greater => comparison .greater
  | .less => comparison .less
  | .atLeast => comparison .atLeast
  | .atMost => comparison .atMost

end Fieldwise.Predicate
