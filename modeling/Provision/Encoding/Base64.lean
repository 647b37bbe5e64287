import Provision.Number.Whole
import Provision.Text.Utf8

/-!
# Base64

The standard alphabet with required padding and without stray bits.  Which fault of a text is
reported follows from how it is read: in blocks of eight bytes, of which only the last may hold
padding.
-/

set_option autoImplicit false

namespace Provision.Encoding.Base64

/-- Why a text is not base64.  Offsets count bytes. -/
inductive Fault where
  | invalidByte (byte : UInt8) (offset : Nat)
  | strayByte
  | invalidPadding
  | invalidLastSymbol (byte : UInt8) (offset : Nat)
  deriving DecidableEq, Repr

/-- The wording of a fault. -/
def Fault.message : Fault → String
  | .invalidByte byte offset =>
      "Invalid byte " ++ Number.decimal byte.toNat ++ ", offset " ++ Number.decimal offset ++ "."
  | .strayByte => "Encoded text cannot have a 6-bit remainder."
  | .invalidPadding => "Invalid padding"
  | .invalidLastSymbol byte offset =>
      "Invalid last symbol " ++ Number.decimal byte.toNat ++ ", offset " ++ Number.decimal offset
        ++ "."

/-! ## The alphabet -/

/-- The padding byte, `=`. -/
def padding : UInt8 := 61

/-- The six bits that a byte stands for. -/
def sextet? (byte : UInt8) : Option Nat :=
  let code := byte.toNat
  if 65 ≤ code && code ≤ 90 then some (code - 65)
  else if 97 ≤ code && code ≤ 122 then some (code - 97 + 26)
  else if 48 ≤ code && code ≤ 57 then some (code - 48 + 52)
  else if code == 43 then some 62
  else if code == 47 then some 63
  else none

/-- The byte that stands for six bits. -/
def symbol (sextet : Nat) : UInt8 :=
  if sextet < 26 then UInt8.ofNat (sextet + 65)
  else if sextet < 52 then UInt8.ofNat (sextet - 26 + 97)
  else if sextet < 62 then UInt8.ofNat (sextet - 52 + 48)
  else if sextet == 62 then 43
  else 47

/-! ## Encoding -/

/-- The symbols of some bytes, three bytes at a time. -/
def encode : List UInt8 → List UInt8
  | [] => []
  | [a] => [symbol (a.toNat / 4), symbol (a.toNat % 4 * 16), padding, padding]
  | [a, b] =>
      [symbol (a.toNat / 4), symbol (a.toNat % 4 * 16 + b.toNat / 16),
        symbol (b.toNat % 16 * 4), padding]
  | a :: b :: c :: rest =>
      symbol (a.toNat / 4) :: symbol (a.toNat % 4 * 16 + b.toNat / 16)
        :: symbol (b.toNat % 16 * 4 + c.toNat / 64) :: symbol (c.toNat % 64) :: encode rest

/-! ## Decoding -/

/-- The bytes that complete groups of sextets hold, and the bits of the last group that no byte
uses. -/
def assemble : List Nat → List UInt8 × Nat
  | [] => ([], 0)
  | [a] => ([], a)
  | [a, b] => ([UInt8.ofNat (a * 4 + b / 16)], b % 16)
  | [a, b, c] => ([UInt8.ofNat (a * 4 + b / 16), UInt8.ofNat (b % 16 * 16 + c / 4)], c % 4)
  | a :: b :: c :: d :: rest =>
      let (bytes, unused) := assemble rest
      (UInt8.ofNat (a * 4 + b / 16) :: UInt8.ofNat (b % 16 * 16 + c / 4)
        :: UInt8.ofNat (c % 4 * 64 + d) :: bytes, unused)

/-- The sextets of bytes that must all be symbols. -/
def symbols (offset : Nat) : List UInt8 → Except Fault (List Nat)
  | [] => .ok []
  | byte :: rest =>
      match sextet? byte with
      | none => .error (.invalidByte byte offset)
      | some sextet => (sextet :: ·) <$> symbols (offset + 1) rest

/-- The sextets of the last block and the number of its padding bytes.  `index` counts from the
start of the block, and `padded` is where its padding began. -/
def lastSymbols (start : Nat) : Nat → Option Nat → List UInt8 → Except Fault (List Nat × Nat)
  | _, _, [] => .ok ([], 0)
  | index, padded, byte :: rest =>
      if byte == padding then
        if index % 4 < 2 then .error (.invalidByte padding (start + padded.getD index))
        else
          (fun (sextets, pads) => (sextets, pads + 1))
            <$> lastSymbols start (index + 1) (some (padded.getD index)) rest
      else
        match padded, sextet? byte with
        | some first, _ => .error (.invalidByte padding (start + first))
        | none, none => .error (.invalidByte byte (start + index))
        | none, some sextet =>
            (fun (sextets, pads) => (sextet :: sextets, pads))
              <$> lastSymbols start (index + 1) none rest

/-- Where the last block starts. -/
def lastStart (length : Nat) : Nat :=
  (length - 1) / 8 * 8

/-- Decodes bytes of text. -/
def decode (text : List UInt8) : Except Fault (List UInt8) :=
  let start := lastStart text.length
  let last := text.getLast?.getD padding
  if text.length % 4 == 1 then
    if last == padding || (sextet? last).isSome then .error .strayByte
    else .error (.invalidByte last (text.length - 1))
  else do
    let front ← symbols 0 (text.take start)
    let (back, pads) ← lastSymbols start 0 none (text.drop start)
    if (back.length + pads) % 4 != 0 then throw .invalidPadding
    let (bytes, unused) := assemble (front ++ back)
    if unused != 0 then
      let lastOffset := start + back.length - 1
      throw (.invalidLastSymbol (text[lastOffset]?.getD padding) lastOffset)
    pure bytes

/-- Decodes text. -/
def decodeText (text : List Char) : Except Fault (List UInt8) :=
  decode (Text.utf8 text)

end Provision.Encoding.Base64
