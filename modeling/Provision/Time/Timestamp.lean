import Provision.Json.Codec
import Provision.Number.Whole
import Provision.Number.Word
import Provision.Text.Blank
import Provision.Text.Pieces
import Provision.Time.Date

/-!
# Timestamps

Instants in universal time to the nanosecond, written as RFC 3339 text with the fewest of 0, 3, 6
or 9 fraction digits that are exact.  Reading is more generous than writing: blanks between the
parts, a space for the `T`, an offset with or without colon, years with a sign and more digits.
A leap second can follow any second, and is written as the one after it; only the second 60, of any
minute, is read as a leap second.
-/

set_option autoImplicit false

namespace Provision.Time

open Text (isBlank trimStart)

/-- Why a text is not a timestamp. -/
inductive TimestampFault where
  | tooShort
  | invalid
  | outOfRange
  | impossible
  | tooLong
  deriving DecidableEq, Repr

/-- The wording of a fault. -/
def TimestampFault.message : TimestampFault → String
  | .tooShort => "premature end of input"
  | .invalid => "input contains invalid characters"
  | .outOfRange => "input is out of range"
  | .impossible => "no possible date and time matching input"
  | .tooLong => "trailing input"

/-- An instant; nanoseconds past the end of the second are within a leap second after it. -/
structure Timestamp where
  date : Date
  hour : Nat
  minute : Nat
  second : Nat
  nano : Nat
  hour_lt : hour < 24
  minute_lt : minute < 60
  second_lt : second < 60
  nano_lt : nano < 2000000000
  deriving DecidableEq

namespace Timestamp

/-! ## Writing -/

/-- A year: four digits, with a sign outside 0 to 9999. -/
def yearText (year : Int) : String :=
  if 0 ≤ year && year ≤ 9999 then Number.padded 4 year.toNat
  else (if year < 0 then "-" else "+") ++ Number.padded 4 year.natAbs

/-- The fraction of a second. -/
def fractionText (nano : Nat) : String :=
  if nano == 0 then ""
  else if nano % 1000000 == 0 then "." ++ Number.padded 3 (nano / 1000000)
  else if nano % 1000 == 0 then "." ++ Number.padded 6 (nano / 1000)
  else "." ++ Number.padded 9 nano

/-- The second that is written: a leap second is the one after the second that it follows. -/
def shownSecond (time : Timestamp) : Nat := time.second + time.nano / 1000000000

/-- The nanoseconds of the second that is written. -/
def shownNano (time : Timestamp) : Nat := time.nano % 1000000000

/-- The text of a timestamp. -/
def toText (time : Timestamp) : String :=
  yearText time.date.year ++ "-" ++ Number.padded 2 time.date.month
    ++ "-" ++ Number.padded 2 time.date.day ++ "T" ++ Number.padded 2 time.hour
    ++ ":" ++ Number.padded 2 time.minute ++ ":" ++ Number.padded 2 time.shownSecond
    ++ fractionText time.shownNano ++ "Z"

/-! ## Reading -/

/-- A step of reading: the result and the characters left. -/
abbrev Reader (α : Type) := StateT (List Char) (Except TimestampFault) α

/-- Adds digits to a value that must stay below 2 ^ 63. -/
def addDigits : Nat → List Char → Except TimestampFault Nat
  | value, [] => .ok value
  | value, digit :: rest =>
      let longer := value * 10 + (digit.toNat - 48)
      if Number.wordSize 63 ≤ longer then .error .outOfRange else addDigits longer rest

/-- At least one digit, and at most as many as given. -/
def digits (most : Option Nat) : Reader (List Char) := fun characters =>
  match characters with
  | [] => .error .tooShort
  | _ =>
      let run := characters.takeWhile Char.isDigit
      let taken := match most with
        | none => run
        | some count => run.take count
      if taken.isEmpty then .error .invalid else .ok (taken, characters.drop taken.length)

/-- Consumes blanks. -/
def blanks : Reader Unit := fun characters => .ok ((), trimStart characters)

/-- Consumes the given character. -/
def literal (expected : Char) : Reader Unit := fun characters =>
  match characters with
  | [] => .error .tooShort
  | character :: rest => if character == expected then .ok ((), rest) else .error .invalid

/-- A number of one or two digits between two bounds. -/
def field (low high : Nat) : Reader Nat := do
  blanks
  let value ← addDigits 0 (← digits (some 2))
  if low ≤ value && value ≤ high then pure value else throw .outOfRange

/-- A year: up to four digits, or a sign and any number of digits. -/
def yearField : Reader Int := do
  blanks
  let year : Int ←
    match ← get with
    | '-' :: rest => do
        set rest
        let value ← addDigits 0 (← digits none)
        pure (-(value : Int))
    | '+' :: rest => do
        set rest
        let value ← addDigits 0 (← digits none)
        pure (value : Int)
    | _ => do
        let value ← addDigits 0 (← digits (some 4))
        pure (value : Int)
  if -(Number.wordSize 31 : Int) ≤ year && year < Number.wordSize 31 then pure year
  else throw .outOfRange

/-- The fraction of a second in nanoseconds; digits past the ninth are dropped. -/
def fraction : Reader Nat := do
  match ← get with
  | '.' :: rest =>
      set rest
      let run ← digits none
      let kept := run.take 9
      let value ← addDigits 0 kept
      pure (value * Nat.pow 10 (9 - kept.length))
  | _ => pure 0

/-- Two digits of an offset; `invalid` unless both are digits. -/
def offsetDigits : Reader (Nat × Nat) := fun characters =>
  match characters with
  | [] => .error .tooShort
  | [character] => if character.utf8Size < 2 then .error .tooShort else .error .invalid
  | first :: second :: rest =>
      if first.isDigit && second.isDigit then
        .ok ((first.toNat - 48, second.toNat - 48), rest)
      else .error .invalid

/-- The minutes by which local time is ahead. -/
def offset : Reader Int := do
  match ← get with
  | [] => throw .tooShort
  | mark :: rest =>
      set rest
      if mark == 'Z' || mark == 'z' then pure 0
      else if mark == '+' || mark == '-' || mark == '−' then
        let (tens, units) ← offsetDigits
        modify (List.dropWhile fun character => character == ':' || isBlank character)
        let (minuteTens, minuteUnits) ← offsetDigits
        if 6 ≤ minuteTens then throw .outOfRange
        let minutes : Int := (tens * 10 + units) * 60 + minuteTens * 10 + minuteUnits
        pure (if mark == '+' then minutes else -minutes)
      else throw .invalid

/-- The offset, or the name of universal time in any case. -/
def zone : Reader Int := do
  blanks
  match ← get with
  | first :: second :: third :: rest =>
      if [first, second, third].map Char.toUpper == ['U', 'T', 'C'] then
        set rest
        pure 0
      else offset
  | _ => offset

/-- The instant at which local clocks, the given minutes ahead, show the given time; the second 60 is
the leap second after the second 59. -/
def ofLocal (year : Int) (month day hour minute second nano : Nat) (ahead : Int) :
    Except TimestampFault Timestamp :=
  if inRange : hour < 24 ∧ minute < 60 ∧ second ≤ 60 ∧ nano < 1000000000 then
    match Date.of? year month day with
    | none => .error .outOfRange
    | some date =>
        if ahead ≤ -1440 || 1440 ≤ ahead then .error .outOfRange
        else
          let minutes : Int := (hour : Int) * 60 + minute - ahead
          match date.shift? (minutes / 1440) with
          | none => .error .impossible
          | some shifted =>
              .ok
                { date := shifted
                  hour := (minutes % 1440).toNat / 60
                  minute := (minutes % 1440).toNat % 60
                  second := min second 59
                  nano := second / 60 * 1000000000 + nano
                  hour_lt := by omega
                  minute_lt := by omega
                  second_lt := by omega
                  nano_lt := by omega }
  else .error .outOfRange

/-- Reads all parts of a timestamp. -/
def parts : Reader (Except TimestampFault Timestamp) := do
  let year ← yearField
  blanks
  literal '-'
  let month ← field 1 12
  blanks
  literal '-'
  let day ← field 1 31
  match ← get with
  | [] => throw .tooShort
  | mark :: rest =>
      if mark == 'T' || mark == 't' || mark == ' ' then set rest else throw .invalid
  let hour ← field 0 23
  blanks
  literal ':'
  let minute ← field 0 59
  blanks
  literal ':'
  let second ← field 0 60
  let nano ← fraction
  blanks
  let ahead ← zone
  pure (ofLocal year month day hour minute second nano ahead)

/-- Reads a timestamp. -/
def ofText (text : String) : Except TimestampFault Timestamp := do
  let (time, rest) ← parts.run text.toList
  if (trimStart rest).isEmpty then time else throw .tooLong

/-! ## Differences -/

/-- The number of a second in its day. -/
def secondOfDay (time : Timestamp) : Int :=
  time.hour * 3600 + time.minute * 60 + time.second

/-- Whether the instant is within a leap second. -/
def inLeapSecond (time : Timestamp) : Bool := 1000000000 ≤ time.nano

/-- The leap second between two times of the day that their seconds do not count. -/
def uncountedLeap (later earlier : Timestamp) : Int :=
  if earlier.secondOfDay < later.secondOfDay then if earlier.inLeapSecond then 1 else 0
  else if later.secondOfDay < earlier.secondOfDay then if later.inLeapSecond then -1 else 0
  else 0

/-- Nanoseconds from `earlier` to `later`. -/
def nanosBetween (later earlier : Timestamp) : Int :=
  ((later.date.dayNumber - earlier.date.dayNumber) * 86400
      + (later.secondOfDay - earlier.secondOfDay) + uncountedLeap later earlier) * 1000000000
    + ((later.nano : Int) - earlier.nano)

/-- Whole milliseconds from `earlier` to `later`, cut toward zero. -/
def millisBetween (later earlier : Timestamp) : Int :=
  Int.tdiv (nanosBetween later earlier) 1000000

/-! ## As JSON -/

/-- Decodes a timestamp. -/
def decode : Json → Except Json.DecodeFault Timestamp
  | .text given =>
      match ofText given with
      | .ok time => .ok time
      | .error fault => .error (.refused fault.message)
  | other => .error (.invalidType other.found "an RFC 3339 formatted date and time string")

/-- Timestamps as strings. -/
def codec : Json.Codec Timestamp :=
  Json.Codec.ofScalar decode fun time => .text time.toText

end Timestamp

end Provision.Time
