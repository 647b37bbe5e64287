import Provision.Number.Word

/-!
# Whole numbers written in digits

Reading bounded whole numbers from text.  The digits are taken from left to right, so of two
faults in one text the first one met is reported: a digit that carries the value past the bound
comes before a wrong character to its right.
-/

set_option autoImplicit false

namespace Provision.Number

/-- Why a text is not a whole number of the wanted range. -/
inductive WholeFault where
  | empty
  | invalidDigit
  | tooLarge
  | tooSmall
  deriving DecidableEq, Repr

/-- The wording of a fault. -/
def WholeFault.message : WholeFault → String
  | .empty => "cannot parse integer from empty string"
  | .invalidDigit => "invalid digit found in string"
  | .tooLarge => "number too large to fit in target type"
  | .tooSmall => "number too small to fit in target type"

/-- The value of a digit in the given radix, of at most 36. -/
def digitValue (radix : Nat) (character : Char) : Option Nat :=
  let code := character.toNat
  let value? : Option Nat :=
    if 0x30 ≤ code && code ≤ 0x39 then some (code - 0x30)
    else if 0x61 ≤ code && code ≤ 0x7A then some (code - 0x61 + 10)
    else if 0x41 ≤ code && code ≤ 0x5A then some (code - 0x41 + 10)
    else none
  value?.filter (· < radix)

/-- Reads digits onto the value so far; `limit` is the greatest value and `beyond` the fault of
passing it. -/
def readDigits (radix limit : Nat) (beyond : WholeFault) :
    Nat → List Char → Except WholeFault Nat
  | value, [] => .ok value
  | value, character :: rest =>
      match digitValue radix character with
      | none => .error .invalidDigit
      | some digit =>
          if limit < value * radix + digit then .error beyond
          else readDigits radix limit beyond (value * radix + digit) rest

/-- At least one digit. -/
def readSomeDigits (radix limit : Nat) (beyond : WholeFault) (characters : List Char) :
    Except WholeFault Nat :=
  if characters.isEmpty then .error .invalidDigit
  else readDigits radix limit beyond 0 characters

/-- A number from 0 to `limit`: digits, with at most one plus sign in front. -/
def readUnsigned (limit : Nat) : List Char → Except WholeFault Nat
  | [] => .error .empty
  | '+' :: digits => readSomeDigits 10 limit .tooLarge digits
  | digits => readSomeDigits 10 limit .tooLarge digits

/-- A 64-bit number with an optional sign, in the given radix. -/
def readSigned (radix : Nat) : List Char → Except WholeFault Int
  | [] => .error .empty
  | '+' :: digits => (readSomeDigits radix (wordSize 63 - 1) .tooLarge digits).map Int.ofNat
  | '-' :: digits =>
      (readSomeDigits radix (wordSize 63) .tooSmall digits).map fun size => -(size : Int)
  | digits => (readSomeDigits radix (wordSize 63 - 1) .tooLarge digits).map Int.ofNat

/-- The number in decimal digits. -/
def decimal (number : Int) : String :=
  match number with
  | .ofNat size => String.ofList (Nat.toDigits 10 size)
  | .negSucc size => String.ofList ('-' :: Nat.toDigits 10 (size + 1))

/-- The digits of a number, with zeros in front up to the given width. -/
def padded (width number : Nat) : String :=
  let digits := Nat.toDigits 10 number
  String.ofList (List.replicate (width - digits.length) '0' ++ digits)

end Provision.Number
