import Fieldwise.Url.Authority
import Fieldwise.Url.Machine

/-!
Contract: which texts are web addresses, complete or relative to a root.

Owns: the library that reads addresses as a parameter, the test for addresses and
for references that begin with a slash, and one such library.

Does **not** own: whether anything answers at an address
(`Fieldwise.Reachability`).
-/

set_option autoImplicit false

namespace Fieldwise.Url

/-- A library that reads web addresses. What its addresses are is its own affair. -/
structure AddressReader where
  Address : Type
  /-- The address that a text is. -/
  parse? : List Char → Option Address
  /-- The address that a reference is below another address. -/
  join? : Address → List Char → Option Address

/-- The address that references with a slash at the start are taken below. -/
def relativeBase? (reader : AddressReader) : Option reader.Address :=
  reader.parse? "http://localhost/".toList

/-- Is a text an address, or a reference that begins with a slash? -/
def isReference (reader : AddressReader) (chars : List Char) : Bool :=
  chars ≠ [] && ((reader.parse? chars).isSome
    || (chars.head? = some '/'
      && (relativeBase? reader).any fun base => (reader.join? base chars).isSome))

/-! ## A reader -/

/-- The bytes of a text, each percent escape one byte. A percent sign without two
digits after it is one byte too. -/
def escapedBytes : List Char → List UInt8
  | '%' :: high :: low :: rest =>
      if Text.isHexDigit high && Text.isHexDigit low then
        UInt8.ofNat (Text.hexNumber [high, low]) :: escapedBytes rest
      else UInt8.ofNat '%'.toNat :: escapedBytes (high :: low :: rest)
  | char :: rest => (String.singleton char).toUTF8.data.toList ++ escapedBytes rest
  | [] => []

/-- The name of a host with its percent escapes decoded, if they are text. Names
outside ASCII are taken as they are, and so are the names written for them behind
`xn--`, but for one that has nothing behind it. -/
def decodedDomain? (chars : List Char) : Option (List Char) :=
  let decoded? :=
    if chars.contains '%' then
      (String.fromUTF8? ⟨(escapedBytes chars).toArray⟩).map String.toList
    else some chars
  decoded?.filter fun domain =>
    !(domain.splitOn '.').any fun label => label.map Char.toLower = "xn--".toList

/-- The parser that takes names as they are. Where two forward slashes begin a
reference, a third one begins an authority, which is then empty. -/
def plainMachine : Machine where
  authority := isAuthority decodedDomain?
  surplus chars :=
    match chars with
    | '/' :: '/' :: rest => isAuthority decodedDomain? true rest
    | _ => isAuthority decodedDomain? true (chars.dropWhile isSlash)
  file := isFileAddress decodedDomain?

/-- The reader whose addresses are what the references below them depend on. -/
def AddressReader.plain : AddressReader where
  Address := Base
  parse? chars := plainMachine.run none (relevant chars)
  join? base chars := plainMachine.run (some base) (relevant chars)

example : isReference .plain "https://a.dev/x?y#z".toList = true
    ∧ isReference .plain "/path".toList = true ∧ isReference .plain "path".toList = false
    ∧ isReference .plain "http://".toList = false
    ∧ isReference .plain "http://1.2.3.256".toList = false
    ∧ isReference .plain "//a".toList = true ∧ isReference .plain "///a".toList = false
    ∧ isReference .plain "mailto:a@b.c".toList = true := by decide +kernel

end Fieldwise.Url
