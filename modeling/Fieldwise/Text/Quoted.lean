import Fieldwise.Text.Blank
import Fieldwise.Text.Numeral

/-!
Contract: the quoted form in which descriptions show a text.

Owns: which characters are escaped between the quotes, and how.

Does **not** own: the escapes of printed values, which differ
(`Fieldwise.Value.Printer`). An apostrophe is never escaped here.
-/

set_option autoImplicit false

namespace Fieldwise.Text

/-- Code point ranges that a quoted text never shows as they are: controls,
separators other than the space, invisible format characters, and combining
diacritics. -/
def hiddenRanges : List (Nat × Nat) :=
  [(0x00, 0x1F), (0x7F, 0xA0), (0xAD, 0xAD), (0x300, 0x36F), (0x1680, 0x1680),
    (0x2000, 0x200F), (0x2028, 0x202F), (0x205F, 0x206F), (0x3000, 0x3000),
    (0xFEFF, 0xFEFF)]

/-- A character by its code point: lower-case hexadecimal between braces. -/
def codePointEscape (char : Char) : List Char :=
  ['\\', 'u', '\x7b'] ++ Nat.toDigits 16 char.toNat ++ ['\x7d']

def quotedChar (char : Char) : List Char :=
  if char = '"' then ['\\', '"']
  else if char = '\\' then ['\\', '\\']
  else if char = '\n' then ['\\', 'n']
  else if char = '\r' then ['\\', 'r']
  else if char = '\t' then ['\\', 't']
  else if char = '\x00' then ['\\', '0']
  else if inRanges hiddenRanges char then codePointEscape char
  else [char]

def quoted (text : String) : String :=
  String.ofList ('"' :: text.toList.flatMap quotedChar ++ ['"'])

def bracketed (descriptions : List String) : String :=
  "[" ++ ", ".intercalate descriptions ++ "]"

def quotedList (texts : List String) : String :=
  bracketed (texts.map quoted)

/-- A named record of described fields, each a name and its description. -/
def recordText (name : String) (fields : List (String × String)) : String :=
  name ++ " \x7b "
    ++ ", ".intercalate (fields.map fun field => field.1 ++ ": " ++ field.2)
    ++ " \x7d"

example : quoted "a\"b\u3000" = "\"a\\\"b\\u\x7b3000\x7d\"" := by decide +kernel

end Fieldwise.Text
