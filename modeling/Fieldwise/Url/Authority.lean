import Fieldwise.Url.Host

/-!
Contract: the authority of a web address: user information, host and port.

Owns: where each of the three begins and ends, and which of them are allowed
together.

Does **not** own: path, query and fragment. Nothing in them is ever refused.
-/

set_option autoImplicit false

namespace Fieldwise.Url

/-- Does a character end the authority? A backslash does so in special addresses
only. -/
def endsAuthority (special : Bool) (char : Char) : Bool :=
  char = '/' || char = '?' || char = '#' || (special && char = '\\')

/-! ## User information -/

/-- The user information up to the last at sign of the authority, if there is
one, and the rest of the authority. -/
def splitUser (authority : List Char) : Option (List Char) × List Char :=
  let parts := authority.splitOn '@'
  match parts.getLast? with
  | some rest =>
      if parts.length = 1 then (none, rest)
      else (some (['@'].intercalate parts.dropLast), rest)
  | none => (none, authority)

/-- User information counts as written unless it is nothing but at most a
colon. -/
def isWrittenUser (user : List Char) : Bool :=
  user ≠ [] && user ≠ [':']

/-! ## Host and port -/

/-- The host at the start of a text, and what follows it: a host ends at a colon
outside brackets. -/
def splitHost (inside : Bool) : List Char → List Char × List Char
  | [] => ([], [])
  | char :: rest =>
      if char = ':' && !inside then ([], char :: rest)
      else
        let stillInside := if char = '[' then true else if char = ']' then false else inside
        let (host, after) := splitHost stillInside rest
        (char :: host, after)

/-- A port is decimal digits up to 65535; it may be empty, and a slash of either
kind may end it. -/
def isPort (chars : List Char) : Bool :=
  let digits := chars.takeWhile Char.isDigit
  Nat.ofDigitChars 10 digits 0 ≤ 65535
    && match chars.dropWhile Char.isDigit with
      | [] => true
      | char :: _ => isSlash char

section Authority

-- The mapping of the name of a host to ASCII.
variable (domain? : List Char → Option (List Char))

/-- Is a text a host with an optional port after a colon? -/
def isHostPort (special : Bool) (writtenUser : Bool) (chars : List Char) : Bool :=
  let (host, after) := splitHost false chars
  let port := after.drop 1
  if host = [] then !special && after = [] && !writtenUser
  else (if special then isHost domain? host else isOpaqueHost host) && isPort port

/-! ## Authorities -/

/-- Is a text, which follows the slashes of an address, an authority with
anything after it? -/
def isAuthority (special : Bool) (chars : List Char) : Bool :=
  let authority := chars.takeWhile fun char => !endsAuthority special char
  let after := chars.dropWhile fun char => !endsAuthority special char
  match splitUser authority with
  | (some [], []) => after = [] && isHostPort domain? special false []
  | (some user, rest) => isHostPort domain? special (isWrittenUser user) rest
  | (none, rest) => isHostPort domain? special false rest

/-- A letter and a colon or bar: the letter of a drive, which is no host. -/
def isDriveLetter : List Char → Bool
  | [letter, mark] => letter.isAlpha && (mark = ':' || mark = '|')
  | _ => false

/-- Is a text what may follow the scheme of a file? Behind two slashes a host or a
path follows. The host ends at a slash, a question mark or a hash. -/
def isFileAddress (chars : List Char) : Bool :=
  match chars with
  | first :: second :: more =>
      let host := more.takeWhile fun char => !endsAuthority true char
      !(isSlash first && isSlash second) || host = [] || isDriveLetter host
        || isHost domain? host
  | _ => true

end Authority

end Fieldwise.Url
