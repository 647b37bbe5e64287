import Provision.Number.Binary64
import Provision.Number.Whole
import Provision.Number.Word

/-!
# Decimal text of binary64 numbers

The fewest decimal digits that read back as the same number, nearest to it among those, and two
layouts of them.  `shortestDecimal` goes down from a power of ten above the number: the first
power that has a multiple in the interval of reals rounding to the number is the answer, and if
any multiple lies in the interval then so does one of the two next to the number.  The second half
reads decimal text of the usual grammar.
-/

set_option autoImplicit false

namespace Provision.Number

/-! ## Shortest digits -/

/-- The reals that round to a number, times a common denominator: the number itself, the ends of
the interval, and whether the ends belong to it. -/
structure RoundingInterval where
  denominator : Nat
  value : Nat
  low : Nat
  high : Nat
  closed : Bool

/-- The interval of `mantissa · 2 ^ exponent`. -/
def roundingInterval (mantissa : Nat) (exponent : Int) : RoundingInterval :=
  let (up, down) := Binary64.powerOfTwo exponent
  let below := if mantissa == wordSize 52 && -1074 < exponent then 1 else 2
  { denominator := 4 * down
    value := 4 * mantissa * up
    low := (4 * mantissa - below) * up
    high := (4 * mantissa + 2) * up
    closed := mantissa % 2 == 0 }

/-- The multiple of `10 ^ power` in the interval that is nearest to the number, if there is one. -/
def RoundingInterval.multiple? (interval : RoundingInterval) (power : Int) : Option Nat :=
  let (tens, shrink) : Nat × Nat :=
    match power with
    | .ofNat size => (Nat.pow 10 size, 1)
    | .negSucc size => (1, Nat.pow 10 (size + 1))
  let step := tens * interval.denominator
  let value := interval.value * shrink
  let inside := fun (count : Nat) =>
    let point := count * step
    let low := interval.low * shrink
    let high := interval.high * shrink
    if interval.closed then low ≤ point && point ≤ high else low < point && point < high
  let below := value / step
  let above := below + 1
  match inside below && 0 < below, inside above with
  | true, true =>
      if 2 * value < (below + above) * step then some below
      else if (below + above) * step < 2 * value then some above
      else if below % 2 == 0 then some below else some above
  | true, false => some below
  | false, true => some above
  | false, false => none

/-- The first power, going down, that has a multiple in the interval. -/
def RoundingInterval.search (interval : RoundingInterval) : Nat → Int → Nat × Int
  | 0, power => (0, power)
  | fuel + 1, power =>
      match interval.multiple? power with
      | some digits => (digits, power)
      | none => interval.search fuel (power - 1)

/-- The fewest digits that read back as `mantissa · 2 ^ exponent`, and the power of ten of the
last one. -/
def shortestDecimal (mantissa : Nat) (exponent : Int) : Nat × Int :=
  let interval := roundingInterval mantissa exponent
  let bits : Int := (Nat.log2 interval.high : Int) - Nat.log2 interval.denominator + 1
  interval.search 24 (bits * 30103 / 100000 + 1)

/-! ## Layouts -/

/-- Digits with a point after the first `whole` of them, padded by zeros on either side. -/
def pointAfter (digits : List Char) (whole : Int) : List Char :=
  match whole with
  | .ofNat size =>
      if size == 0 then '0' :: '.' :: digits
      else
        let padding := List.replicate (size - digits.length) '0'
        (digits ++ padding).take size ++ '.' :: (digits.drop size)
  | .negSucc size => '0' :: '.' :: List.replicate (size + 1) '0' ++ digits

/-- The number as JSON text writes it: positional from `1e-5` up to `1e16` with at least one digit
after the point, else with an exponent. -/
def Binary64.jsonText (number : Binary64) : String :=
  match number.view with
  | .notANumber => "null"
  | .infinite _ => "null"
  | .finite negative mantissa exponent =>
      let sign := if negative then ['-'] else []
      if mantissa == 0 then String.ofList (sign ++ ['0', '.', '0'])
      else
        let (value, power) := shortestDecimal mantissa exponent
        let digits := Nat.toDigits 10 value
        let whole : Int := digits.length + power
        let body :=
          if 0 ≤ power && whole ≤ 16 then pointAfter digits whole ++ ['0']
          else if -5 < whole && whole ≤ 16 then pointAfter digits whole
          else
            let mark := (decimal (whole - 1)).toList
            match digits with
            | [] => []
            | [digit] => digit :: 'e' :: mark
            | digit :: rest => digit :: '.' :: rest ++ 'e' :: mark
        String.ofList (sign ++ body)

/-- The number in positional digits, without a point if it is whole. -/
def Binary64.plainText (number : Binary64) : String :=
  match number.view with
  | .notANumber => "NaN"
  | .infinite negative => if negative then "-inf" else "inf"
  | .finite negative mantissa exponent =>
      let sign := if negative then ['-'] else []
      if mantissa == 0 then String.ofList (sign ++ ['0'])
      else
        let (value, power) := shortestDecimal mantissa exponent
        let digits := Nat.toDigits 10 value
        let body :=
          if 0 ≤ power then digits ++ List.replicate power.toNat '0'
          else pointAfter digits (digits.length + power)
        String.ofList (sign ++ body)

/-! ## Reading -/

/-- The longest run of decimal digits in front, and what follows it. -/
def spanDigits (characters : List Char) : List Char × List Char :=
  (characters.takeWhile Char.isDigit, characters.dropWhile Char.isDigit)

/-- The value of a run of decimal digits. -/
def digitsValue (digits : List Char) : Nat :=
  digits.foldl (fun value digit => value * 10 + (digit.toNat - 48)) 0

/-- The signed exponent behind an exponent mark; nothing if there are no digits. -/
def readExponent (characters : List Char) : Option Int :=
  let (negative, rest) : Bool × List Char :=
    match characters with
    | '+' :: rest => (false, rest)
    | '-' :: rest => (true, rest)
    | rest => (false, rest)
  let (digits, behind) := spanDigits rest
  if digits.isEmpty || !behind.isEmpty then none
  else
    let size : Int := digitsValue digits
    some (if negative then -size else size)

/-- A floating point number without its sign: digits with an optional point and exponent, or the
name of infinity or of no number in any case. -/
def readMagnitude (negative : Bool) (characters : List Char) : Option Binary64 :=
  let name := characters.map Char.toLower
  if name == ['i', 'n', 'f'] || name == ['i', 'n', 'f', 'i', 'n', 'i', 't', 'y'] then
    some (Binary64.infinity negative)
  else if name == ['n', 'a', 'n'] then some Binary64.notANumber
  else
    let (whole, rest) := spanDigits characters
    let (fraction, rest) :=
      match rest with
      | '.' :: behind => spanDigits behind
      | behind => ([], behind)
    if whole.isEmpty && fraction.isEmpty then none
    else
      let exponent? : Option Int :=
        match rest with
        | [] => some 0
        | mark :: behind => if mark == 'e' || mark == 'E' then readExponent behind else none
      exponent?.map fun exponent =>
        Binary64.ofDecimal negative (digitsValue (whole ++ fraction))
          (exponent - fraction.length)

/-- The number nearest to decimal text. -/
def Binary64.read? : List Char → Option Binary64
  | [] => none
  | '+' :: rest => readMagnitude false rest
  | '-' :: rest => readMagnitude true rest
  | characters => readMagnitude false characters

end Provision.Number
