import Provision.Number.Word

/-!
# Binary64 numbers

Floating point numbers of 64 bits as words, with their exact values.  All arithmetic goes through
`ofQuotient`, which rounds a quotient of natural numbers to the nearest number, a tie to the even
neighbour; no runtime floating point operation is involved, so every value can be computed in a
proof.
-/

set_option autoImplicit false

namespace Provision.Number

/-- A number of the binary64 format, as its word. -/
structure Binary64 where
  bits : UInt64
  deriving DecidableEq, Repr, Inhabited

namespace Binary64

/-! ## The fields of a word -/

/-- What a word stands for; a finite number is `mantissa · 2 ^ exponent` with a sign. -/
inductive View where
  | notANumber
  | infinite (negative : Bool)
  | finite (negative : Bool) (mantissa : Nat) (exponent : Int)
  deriving DecidableEq, Repr

/-- Reads the fields of the word. -/
def view (number : Binary64) : View :=
  let word : Nat := number.bits.toNat
  let negative : Bool := wordSize 63 ≤ word
  let field : Nat := word / wordSize 52 % wordSize 11
  let fraction : Nat := word % wordSize 52
  if field == 2047 then
    if fraction == 0 then .infinite negative else .notANumber
  else if field == 0 then .finite negative fraction (-1074)
  else .finite negative (wordSize 52 + fraction) ((field : Int) - 1075)

/-- The word with the given fields. -/
def ofFields (negative : Bool) (field fraction : Nat) : Binary64 :=
  ⟨UInt64.ofNat ((if negative then wordSize 63 else 0) + field * wordSize 52 + fraction)⟩

/-- Infinity with a sign. -/
def infinity (negative : Bool) : Binary64 :=
  ofFields negative 2047 0

/-- The quiet word that is not a number. -/
def notANumber : Binary64 :=
  ofFields false 2047 (wordSize 51)

/-! ## Rounding -/

/-- The quotient rounded to the nearest whole number, a half to the even one. -/
def roundHalfEven (numerator denominator : Nat) : Nat :=
  let whole := numerator / denominator
  let twice := 2 * (numerator % denominator)
  if denominator < twice || (twice == denominator && whole % 2 == 1) then whole + 1 else whole

/-- The number `2 ^ power` as a fraction. -/
def powerOfTwo (power : Int) : Nat × Nat :=
  match power with
  | .ofNat size => (wordSize size, 1)
  | .negSucc size => (1, wordSize (size + 1))

/-- The nearest number to a quotient of natural numbers; past the greatest finite number it is
infinite. -/
def ofQuotient (negative : Bool) (numerator denominator : Nat) : Binary64 :=
  if numerator == 0 || denominator == 0 then ofFields negative 0 0
  else
    let guess : Int := (Nat.log2 numerator : Int) - Nat.log2 denominator
    let (up, down) := powerOfTwo guess
    let magnitude := if numerator * down < denominator * up then guess - 1 else guess
    let quantum := max (magnitude - 52) (-1074)
    let (up, down) := powerOfTwo quantum
    let rounded := roundHalfEven (numerator * down) (denominator * up)
    let (mantissa, quantum) :=
      if rounded == wordSize 53 then (wordSize 52, quantum + 1) else (rounded, quantum)
    if 971 < quantum then infinity negative
    else if mantissa < wordSize 52 then ofFields negative 0 mantissa
    else ofFields negative (quantum + 1075).toNat (mantissa - wordSize 52)

/-- The nearest number to `digits · 10 ^ exponent`. -/
def ofDecimal (negative : Bool) (digits : Nat) (exponent : Int) : Binary64 :=
  let places : Int := (Nat.log2 digits : Int) * 30103 / 100000 + 1
  if digits == 0 then ofFields negative 0 0
  else if 400 < exponent + places then infinity negative
  else if exponent + places < -400 then ofFields negative 0 0
  else
    match exponent with
    | .ofNat size => ofQuotient negative (digits * Nat.pow 10 size) 1
    | .negSucc size => ofQuotient negative digits (Nat.pow 10 (size + 1))

/-- The nearest number to a natural number. -/
def ofNat (size : Nat) : Binary64 :=
  ofQuotient false size 1

/-! ## Arithmetic -/

/-- The product of two finite numbers. -/
def mul (left right : Binary64) : Binary64 :=
  match left.view, right.view with
  | .finite leftSign leftSize leftPower, .finite rightSign rightSize rightPower =>
      let (up, down) := powerOfTwo (leftPower + rightPower)
      ofQuotient (leftSign != rightSign) (leftSize * rightSize * up) down
  | .infinite leftSign, .finite rightSign _ _ => infinity (leftSign != rightSign)
  | .finite leftSign _ _, .infinite rightSign => infinity (leftSign != rightSign)
  | .infinite leftSign, .infinite rightSign => infinity (leftSign != rightSign)
  | _, _ => notANumber

/-- The quotient of two finite numbers, the second one not zero. -/
def div (left right : Binary64) : Binary64 :=
  match left.view, right.view with
  | .finite leftSign leftSize leftPower, .finite rightSign rightSize rightPower =>
      let (up, down) := powerOfTwo (leftPower - rightPower)
      ofQuotient (leftSign != rightSign) (leftSize * up) (rightSize * down)
  | .infinite leftSign, .finite rightSign _ _ => infinity (leftSign != rightSign)
  | .finite leftSign _ _, .infinite rightSign => ofFields (leftSign != rightSign) 0 0
  | _, _ => notANumber

/-- The number with the other sign. -/
def neg (number : Binary64) : Binary64 :=
  ⟨number.bits ^^^ 0x8000000000000000⟩

/-- Whether the number is infinite. -/
def isInfinite (number : Binary64) : Bool :=
  match number.view with
  | .infinite _ => true
  | _ => false

/-- Whether the number is a zero of either sign. -/
def isZero (number : Binary64) : Bool :=
  match number.view with
  | .finite _ size _ => size == 0
  | _ => false

/-- The nearest natural number, a half going up, kept between 0 and `limit`. -/
def clampToNat (limit : Nat) (number : Binary64) : Nat :=
  match number.view with
  | .notANumber => 0
  | .infinite negative => if negative then 0 else limit
  | .finite negative size power =>
      if negative then 0
      else
        let (up, down) := powerOfTwo power
        min limit ((2 * size * up + down) / (2 * down))

end Binary64

end Provision.Number
