import Fieldwise.Text.Numeral

/-!
Contract: the parts of a web address that every kind of address has.

Owns: the characters that are passed over, the scheme, and the three families of
schemes.

Does **not** own: hosts (`Fieldwise.Url.Host`) and what follows the scheme
(`Fieldwise.Url.Authority`).
-/

set_option autoImplicit false

namespace Fieldwise.Url

/-- Controls and the space are stripped from both ends of an address. -/
def isStripped (char : Char) : Bool :=
  char.toNat ≤ 32

/-- Tabs and line ends are passed over everywhere in an address. -/
def isIgnored (char : Char) : Bool :=
  char = '\t' || char = '\n' || char = '\r'

/-- An address without the characters that do not count. -/
def relevant (chars : List Char) : List Char :=
  (((chars.dropWhile isStripped).reverse.dropWhile isStripped).reverse).filter
    fun char => !isIgnored char

def isSlash (char : Char) : Bool :=
  char = '/' || char = '\\'

/-- ASCII letters, digits and `+ - .`. -/
def isSchemeChar (char : Char) : Bool :=
  char.isAlphanum || char = '+' || char = '-' || char = '.'

/-- The families of schemes, which differ in how the rest of an address is
read. -/
inductive Family where
  /-- `http`, `https`, `ws`, `wss` and `ftp`: a host is always there. -/
  | special
  /-- `file`: a host may be there. -/
  | file
  /-- Every other scheme: what follows is up to the scheme. -/
  | general
deriving DecidableEq

/-- The family of a scheme in lower case. -/
def Family.ofScheme (scheme : String) : Family :=
  if ["http", "https", "ws", "wss", "ftp"].contains scheme then .special
  else if scheme = "file" then .file
  else .general

/-- The scheme of an address in lower case, with the text after its colon: a letter,
then scheme characters up to the first colon. -/
def splitScheme? (chars : List Char) : Option (String × List Char) :=
  match chars with
  | [] => none
  | first :: _ =>
      if first.isAlpha then
        match chars.dropWhile isSchemeChar with
        | ':' :: rest =>
            some (String.ofList ((chars.takeWhile isSchemeChar).map Char.toLower), rest)
        | _ => none
      else none

end Fieldwise.Url
