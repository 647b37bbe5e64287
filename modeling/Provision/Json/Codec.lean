import Provision.Json.Reader
import Provision.Number.Whole
import Provision.Number.Word

/-!
# Codecs

A codec says how values of a type are decoded from JSON values, encoded as JSON values, and
scanned from JSON text.  Scanning follows the type, because the first fault in the text depends
on what is expected there; what it returns is decoded by the same `decode`.
-/

set_option autoImplicit false

namespace Provision.Json

/-- How values of a type are read and written. -/
structure Codec (α : Type) where
  decode : Json → Except DecodeFault α
  encode : α → Json
  scan : Scanner Json

namespace Scanner

/-- Refuses content behind what was read so far. -/
def refuseAt {α : Type} (place : Place) (fault : DecodeFault) : Scanner α :=
  fun _ => .error ⟨.content fault, place⟩

/-- A scalar that `decode` accepts; lists and objects are refused before they are opened. -/
def scalarFor {α : Type} (decode : Json → Except DecodeFault α) : Scanner Json := do
  let first ← valueStart
  let read ←
    match first with
    | '[' => pure (.list [])
    | '\x7b' => pure (.object [])
    | _ => scalar first
  match decode read with
  | .ok _ => pure read
  | .error fault => failHere (.content fault)

end Scanner

namespace Codec

variable {α β : Type}

/-- A codec of scalars. -/
def ofScalar (decode : Json → Except DecodeFault α) (encode : α → Json) : Codec α :=
  { decode, encode, scan := Scanner.scalarFor decode }

/-- Reads a whole text. -/
def read (codec : Codec α) (text : String) : Except ReadFault α := do
  let value ← readWith codec.scan text
  match codec.decode value with
  | .ok result => pure result
  | .error fault => throw ⟨.content fault, ⟨1, 0⟩⟩

/-- Values of any kind. -/
def any : Codec Json :=
  { decode := .ok, encode := id, scan := Scanner.value }

/-- Decodes a string. -/
def decodeText : Json → Except DecodeFault String
  | .text value => .ok value
  | other => .error (.invalidType other.found "a string")

/-- Strings. -/
def text : Codec String :=
  ofScalar decodeText .text

/-- Decodes a boolean. -/
def decodeFlag : Json → Except DecodeFault Bool
  | .bool value => .ok value
  | other => .error (.invalidType other.found "a boolean")

/-- Booleans. -/
def flag : Codec Bool :=
  ofScalar decodeFlag .bool

/-- Decodes a whole number between two bounds. -/
def decodeWhole (expected : String) (low high : Int) : Json → Except DecodeFault Int
  | .whole value =>
      if low ≤ value && value ≤ high then .ok value
      else .error (.invalidValue (.whole value) expected)
  | other => .error (.invalidType other.found expected)

/-- Whole numbers of 32 bits with a sign. -/
def int32 : Codec Int :=
  ofScalar (decodeWhole "i32" (-(Number.wordSize 31)) (Number.wordSize 31 - 1)) .whole

/-- Decodes an unsigned number of the given number of bits. -/
def decodeUnsigned (bits : Nat) (value : Json) : Except DecodeFault Nat :=
  Int.toNat <$> decodeWhole ("u" ++ Number.decimal bits) 0 (Number.wordSize bits - 1) value

/-- Whole numbers of the given number of bits without a sign. -/
def unsigned (bits : Nat) : Codec Nat :=
  ofScalar (decodeUnsigned bits) fun value => .whole value

/-- Decodes an object. -/
def decodeProperties : Json → Except DecodeFault Properties
  | .object members => .ok members
  | other => .error (.invalidType other.found "a map")

/-- Property maps. -/
def properties : Codec Properties :=
  { decode := decodeProperties
    encode := .object
    scan := do
      if (← Scanner.valueStart) == '\x7b' then Scanner.value
      else Scanner.scalarFor decodeProperties }

/-- Values that may be null. -/
def nullable (inner : Codec α) : Codec (Option α) :=
  { decode := fun value =>
      match value with
      | .null => .ok none
      | other => some <$> inner.decode other
    encode := fun value =>
      match value with
      | none => .null
      | some present => inner.encode present
    scan := do
      if (← Scanner.peekPastSpacing) == some 'n' then Scanner.scalar 'n' else inner.scan }

/-- Decodes list items in their order. -/
def decodeItems (inner : Codec α) : List Json → Except DecodeFault (List α)
  | [] => .ok []
  | item :: rest => do
      let first ← inner.decode item
      let others ← decodeItems inner rest
      pure (first :: others)

/-- Decodes a list. -/
def decodeList (inner : Codec α) : Json → Except DecodeFault (List α)
  | .list items => decodeItems inner items
  | other => .error (.invalidType other.found "a sequence")

/-- Scans list items up to the end of the list. -/
def scanItems (inner : Codec α) : Nat → Bool → Scanner (List Json)
  | 0, _ => Scanner.failAhead .expectedValue
  | fuel + 1, isFirst => do
      if ← Scanner.anotherItem isFirst then
        let item ← inner.scan
        match inner.decode item with
        | .error fault => Scanner.refuseAt (Scanner.leaveList (← get)) fault
        | .ok _ =>
            let others ← scanItems inner fuel false
            pure (item :: others)
      else pure []

/-- Lists. -/
def list (inner : Codec α) : Codec (List α) :=
  { decode := decodeList inner
    encode := fun items => .list (items.map inner.encode)
    scan := do
      if (← Scanner.valueStart) == '[' then
        Scanner.nested do
          Scanner.advance
          let items ← scanItems inner (← Scanner.stepsLeft) true
          Scanner.closeList
          pure (.list items)
      else Scanner.scalarFor (decodeList inner) }

/-! ## Variants -/

/-- The variant with a name; `others` stands for every name that is not known. -/
def variantOf (known : List (String × α)) (others : Option α) (name : String) :
    Except DecodeFault α :=
  match known.find? fun variant => variant.1 == name with
  | some variant => .ok variant.2
  | none =>
      match others with
      | some value => .ok value
      | none => .error (.unknownVariant name (known.map Prod.fst))

/-- Decodes a variant: its name, or an object with the name as only key and null as value. -/
def decodeVariant (known : List (String × α)) (others : Option α) : Json → Except DecodeFault α
  | .text name => variantOf known others name
  | .object [(name, payload)] => do
      let value ← variantOf known others name
      match payload with
      | .null => pure value
      | other => throw (.invalidType other.found "unit")
  | .object _ => .error (.invalidValue .map "map with a single key")
  | other => .error (.invalidType other.found "string or map")

/-- Scans the name of a variant. -/
def scanVariantName (known : List (String × α)) (others : Option α) : Scanner Json :=
  Scanner.scalarFor fun value =>
    match value with
    | .text name => variantOf known others name
    | other => .error (.invalidType other.found "variant identifier")

/-- Scans a variant. -/
def scanVariant (known : List (String × α)) (others : Option α) : Scanner Json := do
  match ← Scanner.valueStart with
  | '"' => scanVariantName known others
  | '\x7b' =>
      let name ← Scanner.nested do
        Scanner.advance
        let name ← scanVariantName known others
        Scanner.colon
        let _ ← Scanner.scalarFor fun value =>
          match value with
          | .null => Except.ok ()
          | other => .error (.invalidType other.found "unit")
        pure name
      match ← Scanner.peekPastSpacing with
      | some '\x7d' =>
          Scanner.advance
          pure name
      | some _ => Scanner.failHere (.form .expectedValue)
      | none => Scanner.failHere (.form .endInObject)
  | _ => Scanner.failAhead .expectedValue

/-- Values known by name. -/
def variants (known : List (String × α)) (others : Option α) (name : α → String) : Codec α :=
  { decode := decodeVariant known others
    encode := fun value => .text (name value)
    scan := scanVariant known others }

end Codec

end Provision.Json
