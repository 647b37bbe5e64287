import Provision.Json.Codec
import Provision.Number.Word
import Provision.Text.Blank
import Provision.Text.Case

/-!
# Lenient scalars

Declarations often carry every property as a string.  Lenient scalars accept the string form
beside the native one: booleans by name, numbers by their digits, and values that are known by a
number or by a name.
-/

set_option autoImplicit false

namespace Provision.Json

open Text (lower trim)

/-- A value given by number or by name. -/
inductive CodeOrName where
  | code (value : Int)
  | name (value : String)
  deriving DecidableEq, Repr

namespace CodeOrName

/-- A whole number of 64 bits is a code and a string is a name. -/
def decode : Json → Except DecodeFault CodeOrName
  | .whole value =>
      if value < Number.wordSize 63 then .ok (.code value) else .error (.noAlternative "CodeOrName")
  | .text value => .ok (.name value)
  | _ => .error (.noAlternative "CodeOrName")

end CodeOrName

namespace Codec

/-- Reads a boolean or its name, in any case; the empty string is false. -/
def decodeLenientFlag : Json → Except DecodeFault Bool
  | .bool value => .ok value
  | .text given =>
      let name := lower (trim given)
      if name == "true" then .ok true
      else if name == "false" || name == "" then .ok false
      else .error (.refused ("无效的布尔值: " ++ name))
  | _ => .error (.noAlternative "BoolOrString")

/-- Booleans, also as strings. -/
def lenientFlag : Codec Bool :=
  { decode := decodeLenientFlag, encode := .bool, scan := Scanner.value }

/-- Reads an unsigned number of the given number of bits, or its digits. -/
def decodeLenientNumber (bits : Nat) : Json → Except DecodeFault Nat
  | .whole (.ofNat value) =>
      if value < Number.wordSize bits then .ok value
      else .error (.refused Number.WholeFault.tooLarge.message)
  | .text given =>
      match Number.readUnsigned (Number.wordSize bits - 1) (Text.trimChars given.toList) with
      | .ok value => .ok value
      | .error fault => .error (.refused fault.message)
  | _ => .error (.noAlternative "NumberOrString")

/-- Unsigned numbers of the given number of bits, also as strings. -/
def lenientNumber (bits : Nat) : Codec Nat :=
  { decode := decodeLenientNumber bits
    encode := fun value => .whole value
    scan := Scanner.value }

end Codec

end Provision.Json
