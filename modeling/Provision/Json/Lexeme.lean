import Provision.Json.Cursor
import Provision.Number.Word

/-!
# Strings and numbers in JSON text

A string is read character by character with its escapes; a number becomes a whole number as long
as it has neither point nor exponent and fits in 64 bits, else a floating point number.  The
floating point value is the significand, cut to what 64 bits hold and rounded to binary64,
multiplied or divided by a power of ten: two roundings, which is part of the format.
-/

set_option autoImplicit false

namespace Provision.Json

open Number

namespace Scanner

/-! ## Strings -/

/-- Four hexadecimal digits. -/
def hexEscape : Scanner Nat := fun cursor =>
  match cursor.rest with
  | first :: second :: third :: fourth :: _ =>
      match digitValue 16 first, digitValue 16 second, digitValue 16 third,
        digitValue 16 fourth with
      | some a, some b, some c, some d =>
          .ok (((a * 16 + b) * 16 + c) * 16 + d, cursor.skip 4)
      | _, _, _, _ =>
          .error ⟨.form .invalidEscape, Cursor.placeAfterBytes cursor.place cursor.rest 4⟩
  | few =>
      let bytes := few.foldl (fun size character => size + character.utf8Size) 0
      let cause := if 4 ≤ bytes then SyntaxFault.invalidEscape else .endInString
      .error ⟨.form cause, Cursor.placeAfterBytes cursor.place few (min 4 bytes)⟩

/-- One more character of an escape sequence, which must be the given one. -/
def escapePart (expected : Char) : Scanner Unit := do
  match ← peek with
  | none => failHere (.form .endInString)
  | some character =>
      if character == expected then advance else failAhead .endOfEscape

/-- The character of a `\u` escape; a leading surrogate takes the trailing one with it. -/
def codeEscape : Scanner Char := do
  let unit ← hexEscape
  if 0xDC00 ≤ unit && unit ≤ 0xDFFF then failHere (.form .loneSurrogate)
  else if unit < 0xD800 || 0xDBFF < unit then pure (Char.ofNat unit)
  else
    escapePart '\\'
    escapePart 'u'
    let trailing ← hexEscape
    if trailing < 0xDC00 || 0xDFFF < trailing then failHere (.form .loneSurrogate)
    else pure (Char.ofNat ((unit - 0xD800) * 0x400 + (trailing - 0xDC00) + 0x10000))

/-- The character of an escape of one letter. -/
def letterEscape (letter : Char) : Option Char :=
  match letter with
  | '"' => some '"'
  | '\\' => some '\\'
  | '/' => some '/'
  | 'b' => some (Char.ofNat 8)
  | 'f' => some (Char.ofNat 12)
  | 'n' => some '\n'
  | 'r' => some '\r'
  | 't' => some '\t'
  | _ => none

/-- The character behind a backslash. -/
def escape : Scanner Char := do
  match ← peek with
  | none => failHere (.form .endInString)
  | some 'u' =>
      advance
      codeEscape
  | some letter =>
      match letterEscape letter with
      | some character =>
          advance
          pure character
      | none => failAhead .invalidEscape

/-- The characters up to the closing quote, after the ones read so far in reverse. -/
def stringRest : Nat → List Char → Scanner (List Char)
  | 0, _ => failHere (.form .endInString)
  | fuel + 1, read => do
      match ← peek with
      | none => failHere (.form .endInString)
      | some '"' =>
          advance
          pure read.reverse
      | some '\\' =>
          advance
          let character ← escape
          stringRest fuel (character :: read)
      | some character =>
          if character.toNat < 0x20 then failAhead .controlCharacter
          else
            advance
            stringRest fuel (character :: read)

/-- A string behind its opening quote. -/
def string : Scanner String := do
  let cursor ← get
  let characters ← stringRest (cursor.rest.length + 1) []
  pure (String.ofList characters)

/-- The escape of a string that nobody needs. -/
def skipEscape : Scanner Unit := do
  match ← peek with
  | none => failHere (.form .endInString)
  | some 'u' =>
      advance
      let _ ← hexEscape
  | some letter =>
      if (letterEscape letter).isSome then advance else failAhead .invalidEscape

/-- The rest of a string that nobody needs. -/
def skipStringRest : Nat → Scanner Unit
  | 0 => failHere (.form .endInString)
  | fuel + 1 => do
      match ← peek with
      | none => failHere (.form .endInString)
      | some '"' => advance
      | some '\\' =>
          advance
          skipEscape
          skipStringRest fuel
      | some character =>
          if character.toNat < 0x20 then failHere (.form .controlCharacter)
          else
            advance
            skipStringRest fuel

/-- A string behind its opening quote that nobody needs. -/
def skipString : Scanner Unit := do
  let cursor ← get
  skipStringRest (cursor.rest.length + 1)

/-! ## Numbers -/

/-- Consumes the digits in front. -/
def digits : Scanner (List Char) := fun cursor =>
  let run := cursor.rest.takeWhile Char.isDigit
  .ok (run, cursor.skip run.length)

/-- Adds digits to a value as long as it stays within the limit: the value, and the digits that
were not added. -/
def addDigits (limit : Nat) : Nat → List Char → Nat × List Char
  | value, [] => (value, [])
  | value, digit :: rest =>
      let longer := value * 10 + (digit.toNat - 48)
      if limit < longer then (value, digit :: rest) else addDigits limit longer rest

/-- The greatest unsigned number of 64 bits. -/
def wordLimit : Nat := Number.wordSize 64 - 1

/-- `value` times a power of ten, in steps of at most 308 powers; nothing when it grows past all
numbers. -/
def timesPower : Nat → Binary64 → Int → Option Binary64
  | 0, value, _ => some value
  | fuel + 1, value, power =>
      if power.natAbs ≤ 308 then
        let scale := Binary64.ofDecimal false 1 power.natAbs
        if 0 ≤ power then
          let product := value.mul scale
          if product.isInfinite then none else some product
        else some (value.div scale)
      else if value.isZero then some value
      else if 0 ≤ power then none
      else timesPower fuel (value.div (Binary64.ofDecimal false 1 308)) (power + 308)

/-- The number with the given sign, significand and power of ten. -/
def fromParts (negative : Bool) (significand : Nat) (power : Int) : Scanner Binary64 :=
  match timesPower 4 (Binary64.ofNat significand) power with
  | none => failHere (.form .numberOutOfRange)
  | some size => pure (if negative then size.neg else size)

/-- The sign of an exponent. -/
def exponentSign : Scanner Bool := do
  match ← peek with
  | some '+' =>
      advance
      pure false
  | some '-' =>
      advance
      pure true
  | _ => pure false

/-- The number whose exponent mark comes next. -/
def exponentPart (negative : Bool) (significand : Nat) (power : Int) : Scanner Binary64 := do
  advance
  let downward ← exponentSign
  match ← peek with
  | none => failHere (.form .endInValue)
  | some character =>
      if !character.isDigit then failAhead .invalidNumber
      else
        let before ← get
        let run ← digits
        match addDigits (Number.wordSize 31 - 1) 0 run with
        | (size, []) =>
            fromParts negative significand (if downward then power - size else power + size)
        | (_, left) =>
            if significand != 0 && !downward then
              set (before.skip (run.length - left.length + 1))
              failHere (.form .numberOutOfRange)
            else
              let zero := Binary64.ofNat 0
              pure (if negative then zero.neg else zero)

/-- The number with or without an exponent behind its digits. -/
def afterDigits (negative : Bool) (significand : Nat) (power : Int) : Scanner Binary64 := do
  let mark ← peek
  if mark == some 'e' || mark == some 'E' then exponentPart negative significand power
  else fromParts negative significand power

/-- The number whose decimal point comes next. -/
def fractionPart (negative : Bool) (significand : Nat) (power : Int) : Scanner Binary64 := do
  advance
  let run ← digits
  if run.isEmpty then
    match ← peek with
    | none => failAhead .endInValue
    | some _ => failAhead .invalidNumber
  else
    let (longer, left) := addDigits wordLimit significand run
    afterDigits negative longer (power - (run.length - left.length : Nat))

/-- A whole number if it fits in 64 bits; a negative zero and everything else is a floating point
number. -/
def wholeOrFloat (negative : Bool) (significand : Nat) : Json :=
  if !negative then .whole significand
  else if significand == 0 || Number.wordSize 63 < significand then
    .float (Binary64.ofNat significand).neg
  else .whole (-(significand : Int))

/-- A number behind its minus sign, if it has one. -/
def number (negative : Bool) : Scanner Json := do
  match ← peek with
  | none => failHere (.form .endInValue)
  | some first =>
      if !first.isDigit then failAhead .invalidNumber
      else
        let before ← get
        let run ← digits
        if first == '0' && 1 < run.length then
          set before.next
          failAhead .invalidNumber
        else
          let (significand, left) := addDigits wordLimit 0 run
          match ← peek with
          | some '.' => Json.float <$> fractionPart negative significand left.length
          | mark =>
              if mark == some 'e' || mark == some 'E' then
                Json.float <$> exponentPart negative significand left.length
              else if left.isEmpty then pure (wholeOrFloat negative significand)
              else Json.float <$> fromParts negative significand left.length

/-- The digits that must follow, of a number that nobody needs. -/
def skipExponent : Scanner Unit := do
  advance
  let _ ← exponentSign
  match ← peek with
  | none => failHere (.form .invalidNumber)
  | some character =>
      if !character.isDigit then failAhead .invalidNumber
      else
        let _ ← digits

/-- A number that nobody needs, behind its minus sign. -/
def skipNumber : Scanner Unit := do
  match ← peek with
  | none => failHere (.form .invalidNumber)
  | some first =>
      if !first.isDigit then failAhead .invalidNumber
      else
        let before ← get
        let run ← digits
        if first == '0' && 1 < run.length then
          set before.next
          failAhead .invalidNumber
        else
          if (← peek) == some '.' then
            advance
            let fraction ← digits
            if fraction.isEmpty then failAhead .invalidNumber
          let mark ← peek
          if mark == some 'e' || mark == some 'E' then skipExponent

end Scanner

end Provision.Json
