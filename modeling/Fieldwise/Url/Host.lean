import Fieldwise.Url.Basic

/-!
Contract: the hosts of web addresses, as the URL standard has them.

Owns: bracketed addresses of eight pieces, hosts that are numbers, named hosts,
and opaque hosts.

Does **not** own: where a host begins and ends (`Fieldwise.Url.Authority`), and
the mapping of the name of a host to ASCII. The mapping, with the decoding of
percent escapes before it, is a parameter.
-/

set_option autoImplicit false

namespace Fieldwise.Url

/-! ## Dotted tails -/

/-- Read the rest of a number up to 255 from its digits, and give what follows them.
`number` is what was read of it so far. No digit may follow a leading zero. -/
def readByte? (number : Option Nat) : List Char → Option (List Char)
  | [] => number.map fun _ => []
  | char :: rest =>
      if char.isDigit then
        let digit := char.toNat - '0'.toNat
        match number with
        | none => readByte? (some digit) rest
        | some 0 => none
        | some value =>
            if 10 * value + digit ≤ 255 then readByte? (some (10 * value + digit)) rest
            else none
      else number.map fun _ => char :: rest

/-- Read a number and so many more, each behind a dot, up to the end of the text. -/
def readNumbers : (more : Nat) → List Char → Bool
  | 0, chars => readByte? none chars = some []
  | more + 1, chars =>
      match readByte? none chars with
      | some ('.' :: rest) => readNumbers more rest
      | _ => false

/-! ## Bracketed hosts -/

theorem length_lt_of_drop_eq_cons
    {char : Char} {chars after : List Char} {count : Nat}
    (equal : chars.drop count = char :: after) :
    after.length < chars.length := by
  have lengths := congrArg List.length equal
  simp only [List.length_drop, List.length_cons] at lengths
  omega

/-- The hexadecimal digits that a piece may begin with, four at most. -/
def pieceDigits (chars : List Char) : List Char :=
  (chars.take 4).takeWhile Text.isHexDigit

/-- Read the pieces of an address from the start of a piece on. `count` pieces are
already there, `compressed` says whether a double colon was among them. Without
one there must be eight pieces in the end; a dotted address is two pieces and
ends the text. -/
def readPieces (count : Nat) (compressed : Bool) : List Char → Bool
  | [] => compressed || count = 8
  | first :: rest =>
      if count = 8 then false
      else if first = ':' then !compressed && readPieces (count + 1) true rest
      else
        match following : (first :: rest).drop (pieceDigits (first :: rest)).length with
        | [] => compressed || count + 1 = 8
        | ':' :: after => after ≠ [] && readPieces (count + 1) compressed after
        | '.' :: _ =>
            pieceDigits (first :: rest) ≠ [] && count ≤ 6
              && readNumbers 3 (first :: rest) && (compressed || count + 2 = 8)
        | _ => false
termination_by chars => chars.length
decreasing_by
  · simp
  · exact length_lt_of_drop_eq_cons following

/-- The text between the brackets of a host: pieces, of which the first may be
left out before a double colon only. -/
def isBracketedAddress (chars : List Char) : Bool :=
  match chars with
  | ':' :: ':' :: rest => readPieces 1 true rest
  | ':' :: _ => false
  | [] | [_] => false
  | _ => readPieces 0 false chars

/-- The text between an opening bracket at the start and a closing one at the
end; none where the closing bracket is not there. -/
def insideBrackets? (chars : List Char) : Option (List Char) :=
  match chars with
  | '[' :: inside =>
      if inside.getLast? = some ']' then some inside.dropLast else none
  | _ => none

/-! ## Hosts that are numbers -/

inductive HostNumber where
  | value (number : Nat)
  | tooLarge

/-- The number of digits in a base, if the text consists of such digits. No
digits at all are zero. -/
def digitsNumber? (base : Nat) (isDigit : Char → Bool) (digits : List Char) :
    Option HostNumber :=
  if digits.all isDigit then
    let number := digits.foldl (fun number char => base * number + Text.hexValue char) 0
    some (if number < UInt32.size then .value number else .tooLarge)
  else none

def isOctalDigit (char : Char) : Bool :=
  '0' ≤ char && char ≤ '7'

/-- The number of one part of a host: hexadecimal after `0x`, octal after a
leading zero, else decimal. -/
def hostNumber? (chars : List Char) : Option HostNumber :=
  match chars with
  | [] => none
  | '0' :: 'x' :: digits | '0' :: 'X' :: digits =>
      digitsNumber? 16 Text.isHexDigit digits
  | '0' :: digit :: digits => digitsNumber? 8 isOctalDigit (digit :: digits)
  | digits => digitsNumber? 10 Char.isDigit digits

/-- The parts of a host between dots; one dot at its end does not count. -/
def hostParts (chars : List Char) : List (List Char) :=
  let parts := chars.splitOn '.'
  if parts.getLast? = some [] then parts.dropLast else parts

/-- A host is meant as a number when its last part is one, or at least looks like
one: all digits. -/
def endsInNumber (chars : List Char) : Bool :=
  match (hostParts chars).getLast? with
  | some last =>
      (last ≠ [] && last.all Char.isDigit) || (hostNumber? last).isSome
  | none => false

/-- Numbers that make an address of four bytes: one byte each, and the last one
the bytes that remain. -/
def fitFourBytes (numbers : List Nat) : Bool :=
  match numbers.getLast? with
  | some last =>
      numbers.length ≤ 4 && numbers.dropLast.all (· ≤ 255)
        && last < Nat.pow 256 (5 - numbers.length)
  | none => false

/-- Is a host that is meant as a number an address? -/
def isNumericHost (chars : List Char) : Bool :=
  match (hostParts chars).mapM hostNumber? with
  | some numbers =>
      match numbers.mapM fun | .value number => some number | .tooLarge => none with
      | some values => fitFourBytes values
      | none => false
  | none => false

/-! ## Named hosts -/

/-- The characters that no host may hold. -/
def isForbiddenHostChar (char : Char) : Bool :=
  ['\x00', '\t', '\n', '\r', ' ', '#', '/', ':', '<', '>', '?', '@', '[', '\\', ']',
    '^', '|'].contains char

/-- The characters that no named host may hold: controls and the percent sign
besides those that no host may hold. -/
def isForbiddenDomainChar (char : Char) : Bool :=
  isForbiddenHostChar char || char.toNat < 32 || char = '%' || char = '\x7f'

/-- Is a text the host of a special address or of a file? A name is mapped to ASCII
by `domain?`, which may refuse it. -/
def isHost (domain? : List Char → Option (List Char)) (chars : List Char) : Bool :=
  if chars.head? = some '[' then (insideBrackets? chars).any isBracketedAddress
  else
    match domain? chars with
    | some domain =>
        domain ≠ [] && !domain.any isForbiddenDomainChar
          && (!endsInNumber domain || isNumericHost domain)
    | none => false

/-- Is a text the host of a general address? It may be empty, and nothing in it
is decoded. -/
def isOpaqueHost (chars : List Char) : Bool :=
  if chars.head? = some '[' then (insideBrackets? chars).any isBracketedAddress
  else !chars.any isForbiddenHostChar

end Fieldwise.Url
