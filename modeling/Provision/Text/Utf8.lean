/-!
# UTF-8

Texts as bytes and back.  Reading is strict (`decode?`) or puts the replacement character for
each maximal piece that cannot be part of a well-formed sequence (`decodeLossy`).
-/

set_option autoImplicit false

namespace Provision.Text

/-- The UTF-8 encoding of the characters. -/
def utf8 (characters : List Char) : List UInt8 :=
  characters.flatMap String.utf8EncodeChar

/-- Whether the byte continues a sequence. -/
def isContinuation (byte : UInt8) : Bool :=
  0x80 ≤ byte && byte ≤ 0xBF

/-- The bytes that may follow a lead byte, as the bounds on the first of them and the number of
them; nothing for a byte that leads no sequence. -/
def sequenceShape (lead : UInt8) : Option (UInt8 × UInt8 × Nat) :=
  if 0xC2 ≤ lead && lead ≤ 0xDF then some (0x80, 0xBF, 1)
  else if lead == 0xE0 then some (0xA0, 0xBF, 2)
  else if lead == 0xED then some (0x80, 0x9F, 2)
  else if 0xE1 ≤ lead && lead ≤ 0xEF then some (0x80, 0xBF, 2)
  else if lead == 0xF0 then some (0x90, 0xBF, 3)
  else if 0xF1 ≤ lead && lead ≤ 0xF3 then some (0x80, 0xBF, 3)
  else if lead == 0xF4 then some (0x80, 0x8F, 3)
  else none

/-- Reads up to `count` more continuation bytes: the code so far extended by them, and whether
all of them were there. -/
def continueSequence : Nat → Nat → List UInt8 → Nat × Bool × List UInt8
  | 0, code, bytes => (code, true, bytes)
  | _ + 1, code, [] => (code, false, [])
  | count + 1, code, byte :: rest =>
      if isContinuation byte then continueSequence count (code * 64 + (byte.toNat - 0x80)) rest
      else (code, false, byte :: rest)

/-- One character, or nothing for a maximal ill-formed piece, and the bytes behind it. -/
def readScalar (lead : UInt8) (rest : List UInt8) : Option Char × List UInt8 :=
  if lead < 0x80 then (some (Char.ofNat lead.toNat), rest)
  else
    match sequenceShape lead, rest with
    | none, _ => (none, rest)
    | some _, [] => (none, [])
    | some (low, high, count), second :: others =>
        if low ≤ second && second ≤ high then
          let mark := if count == 1 then 0xC0 else if count == 2 then 0xE0 else 0xF0
          let start := (lead.toNat - mark) * 64 + (second.toNat - 0x80)
          match continueSequence (count - 1) start others with
          | (code, true, behind) => (some (Char.ofNat code), behind)
          | (_, false, behind) => (none, behind)
        else (none, rest)

/-- The scalars and ill-formed pieces of the bytes; `fuel` bounds their number. -/
def scalars : Nat → List UInt8 → List (Option Char)
  | 0, _ => []
  | _, [] => []
  | fuel + 1, lead :: rest =>
      let (scalar, behind) := readScalar lead rest
      scalar :: scalars fuel behind

/-- The text that the bytes encode, if they are well-formed. -/
def decode? (bytes : List UInt8) : Option (List Char) :=
  (scalars bytes.length bytes).mapM id

/-- The text of the bytes, with U+FFFD for each maximal ill-formed piece. -/
def decodeLossy (bytes : List UInt8) : List Char :=
  (scalars bytes.length bytes).map fun scalar => scalar.getD '\uFFFD'

end Provision.Text
