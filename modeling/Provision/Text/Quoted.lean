import Provision.Text.InvisibleTable
import Provision.Text.Pieces

/-!
# Quoted text

A text between double quotes, as it appears inside messages.  Backslash, double quote, tab, line
feed, carriage return and NUL have two-character escapes; any other character that would not show
is written by its code point, as `\u{1f}`.
-/

set_option autoImplicit false

namespace Provision.Text

/-- The lower case hexadecimal digits of a number, without leading zeros. -/
def hexDigits (number : Nat) : List Char :=
  Nat.toDigits 16 number

/-- The spelling of one character between double quotes. -/
def quotedChar (character : Char) : List Char :=
  if character == '\\' || character == '"' then ['\\', character]
  else if character == '\t' then ['\\', 't']
  else if character == '\n' then ['\\', 'n']
  else if character == '\r' then ['\\', 'r']
  else if character.toNat == 0 then ['\\', '0']
  else if character.toNat < 0x20 || character.toNat == 0x7F
      || CodeRange.anyHolds invisibleRanges character.toNat then
    ['\\', 'u', '\x7b'] ++ hexDigits character.toNat ++ ['\x7d']
  else [character]

/-- The text between double quotes. -/
def quoted (text : String) : String :=
  String.ofList ('"' :: text.toList.flatMap quotedChar ++ ['"'])

/-- A set of texts between braces, each quoted. -/
def quotedSet (texts : List String) : String :=
  "\x7b" ++ joined ", " (texts.map quoted) ++ "\x7d"

end Provision.Text
