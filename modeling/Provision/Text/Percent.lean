import Provision.Text.Utf8

/-!
# Percent-encoding

A text as one segment of a path: every byte of its UTF-8 form outside the unreserved characters
is written as `%` and two upper case hexadecimal digits.
-/

set_option autoImplicit false

namespace Provision.Text

/-- Letters, digits and `-`, `.`, `_`, `~`. -/
def isUnreserved (byte : UInt8) : Bool :=
  let code := byte.toNat
  (0x30 ≤ code && code ≤ 0x39) || (0x41 ≤ code && code ≤ 0x5A) || (0x61 ≤ code && code ≤ 0x7A)
    || code == 0x2D || code == 0x2E || code == 0x5F || code == 0x7E

/-- One upper case hexadecimal digit. -/
def upperHexDigit (value : Nat) : Char :=
  (Nat.digitChar value).toUpper

/-- The spelling of one byte. -/
def percentByte (byte : UInt8) : List Char :=
  if isUnreserved byte then [Char.ofNat byte.toNat]
  else ['%', upperHexDigit (byte.toNat / 16), upperHexDigit (byte.toNat % 16)]

/-- The text as one path segment. -/
def percentEncoded (text : String) : String :=
  String.ofList ((utf8 text.toList).flatMap percentByte)

end Provision.Text
