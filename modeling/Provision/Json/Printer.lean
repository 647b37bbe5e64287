import Provision.Json.Basic
import Provision.Number.Shortest

/-!
# JSON text of a value

Compact text: no spaces, members in their order, characters as they are except the quote, the
backslash and the control characters.
-/

set_option autoImplicit false

namespace Provision.Json

open Number

/-- Four lower case hexadecimal digits. -/
def fourHexDigits (code : Nat) : List Char :=
  [code / 4096 % 16, code / 256 % 16, code / 16 % 16, code % 16].map Nat.digitChar

/-- The spelling of one character inside a JSON string. -/
def escapedChar (character : Char) : List Char :=
  if character == '"' then ['\\', '"']
  else if character == '\\' then ['\\', '\\']
  else if character == '\n' then ['\\', 'n']
  else if character == '\r' then ['\\', 'r']
  else if character == '\t' then ['\\', 't']
  else if character.toNat == 8 then ['\\', 'b']
  else if character.toNat == 12 then ['\\', 'f']
  else if character.toNat < 0x20 then '\\' :: 'u' :: fourHexDigits character.toNat
  else [character]

/-- A JSON string. -/
def stringText (text : String) : List Char :=
  '"' :: text.toList.flatMap escapedChar ++ ['"']

mutual
/-- The characters of a value, put in front of the given ones. -/
def writeOnto : Json → List Char → List Char
  | .null, behind => 'n' :: 'u' :: 'l' :: 'l' :: behind
  | .bool true, behind => 't' :: 'r' :: 'u' :: 'e' :: behind
  | .bool false, behind => 'f' :: 'a' :: 'l' :: 's' :: 'e' :: behind
  | .whole number, behind => (decimal number).toList ++ behind
  | .float number, behind => number.jsonText.toList ++ behind
  | .text value, behind => stringText value ++ behind
  | .list items, behind => '[' :: writeItems items (']' :: behind)
  | .object members, behind => '{' :: writeMembers members ('}' :: behind)

/-- The characters of list items with commas between them. -/
def writeItems : List Json → List Char → List Char
  | [], behind => behind
  | [item], behind => writeOnto item behind
  | item :: next :: others, behind => writeOnto item (',' :: writeItems (next :: others) behind)

/-- The characters of members with commas between them. -/
def writeMembers : List (String × Json) → List Char → List Char
  | [], behind => behind
  | [(key, value)], behind => stringText key ++ ':' :: writeOnto value behind
  | (key, value) :: next :: others, behind =>
      stringText key ++ ':' :: writeOnto value (',' :: writeMembers (next :: others) behind)
end

/-- The compact text of a value. -/
def compact (value : Json) : String :=
  String.ofList (writeOnto value [])

end Provision.Json
