import Fieldwise.Url.Basic

/-!
Contract: the parser of web addresses, as the states of the URL standard.

Owns: the way from the start of a text to its authority or path, for an address
and for a reference below another address.

Does **not** own: what an authority is, and what may follow the scheme of a file.
Both are parameters. Path, query and fragment are never refused.

Only what decides whether a text is accepted is kept of a state. Slashes in front
of the authority of a reference are a parameter too where there are more than two
of them, since not every parser passes over the others as the standard does.
-/

set_option autoImplicit false

namespace Fieldwise.Url

/-- What the references below an address depend on. -/
structure Base where
  /-- The scheme, in lower case. -/
  scheme : String
  /-- Is what follows the scheme opaque? Then there is nothing below it but its
  fragments. -/
  opaquePath : Bool
deriving DecidableEq

/-- The parts of the parser that are left open. -/
structure Machine where
  /-- Is a text, which follows two slashes, an authority with anything after it? -/
  authority : (special : Bool) → List Char → Bool
  /-- Is a reference below a special address accepted that begins with three slashes
  or more, of either kind? -/
  surplus : List Char → Bool
  /-- Is a text what may follow the scheme of a file? -/
  file : List Char → Bool

namespace Machine

/-- The address of a text that is accepted. -/
def accept (accepted : Bool) (address : Base) : Option Base :=
  if accepted then some address else none

variable (machine : Machine)

/-- The states around the slashes in front of a special authority: all of them are
passed over, of either kind. -/
def ignoreSlashes (chars : List Char) : Bool :=
  machine.authority true (chars.dropWhile isSlash)

/-- The states of a relative reference: two slashes lead to an authority, and
everything else to a path, a query or a fragment. -/
def relative (special : Bool) (chars : List Char) : Bool :=
  match chars with
  | first :: second :: rest =>
      if special && isSlash first && isSlash second then
        if rest.head?.any isSlash then machine.surplus chars else machine.authority true rest
      else if first = '/' && second = '/' then machine.authority special rest
      else true
  | _ => true

/-- The state behind a special scheme that is the one of the base: without two
slashes, the scheme does not count. -/
def relativeOrAuthority (chars : List Char) : Bool :=
  match chars with
  | '/' :: '/' :: rest => machine.ignoreSlashes rest
  | _ => machine.relative true chars

/-- The states behind a scheme. -/
def afterScheme (base? : Option Base) (scheme : String) (rest : List Char) : Option Base :=
  match Family.ofScheme scheme with
  | .special =>
      let accepted :=
        if base?.any (·.scheme = scheme) then machine.relativeOrAuthority rest
        else machine.ignoreSlashes rest
      accept accepted ⟨scheme, false⟩
  | .file => accept (machine.file rest) ⟨scheme, false⟩
  | .general =>
      match rest with
      | '/' :: '/' :: more => accept (machine.authority false more) ⟨scheme, false⟩
      | '/' :: _ => some ⟨scheme, false⟩
      | _ => some ⟨scheme, true⟩

/-- The state of a text without a scheme, which needs an address that it is below. -/
def noScheme (base? : Option Base) (chars : List Char) : Option Base :=
  base?.bind fun base =>
    if base.opaquePath then accept (chars.head? = some '#') base
    else
      match Family.ofScheme base.scheme with
      | .special => accept (machine.relative true chars) base
      | .file => accept (machine.file chars) base
      | .general => accept (machine.relative false chars) base

/-- The address that a text is, complete or below another address. -/
def run (base? : Option Base) (chars : List Char) : Option Base :=
  match splitScheme? chars with
  | some (scheme, rest) => machine.afterScheme base? scheme rest
  | none => machine.noScheme base? chars

end Machine

end Fieldwise.Url
