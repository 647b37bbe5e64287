import Provision.Json.Codec

/-!
# Records

A record of named fields as an object, and as a list of its fields in their order.  The members
of an object are taken in the order of the input: the first field that does not decode or comes
twice, also under another of its names, is the fault; unknown names are skipped; only after all
of them are missing fields reported, in the order of the record.

`Record σ α` describes a record by its parts.  It is applicative in `α`, the value that the parts
build, and `σ` is the structure from which they are written.
-/

set_option autoImplicit false

namespace Provision.Json

/-- What reading needs to know of a field. -/
structure Field where
  name : String
  aliases : List String
  /-- Whether the list form may end before this field. -/
  skippable : Bool
  check : Json → Except DecodeFault Unit
  scan : Scanner Json

namespace Field

/-- Whether a key names the field. -/
def answersTo (field : Field) (key : String) : Bool :=
  field.name == key || field.aliases.contains key

/-- The field of a codec. -/
def ofCodec {α : Type} (name : String) (aliases : List String) (skippable : Bool)
    (codec : Codec α) : Field :=
  { name, aliases, skippable
    check := fun value => (fun _ => ()) <$> codec.decode value
    scan := codec.scan }

/-- The given members under the names of their fields, in the order of the input. -/
def gather (fields : List Field) (given : List (String × Json)) :
    List (String × Json) → Except DecodeFault (List (String × Json))
  | [] => .ok given
  | (key, value) :: rest =>
      match fields.find? fun field => field.answersTo key with
      | none => gather fields given rest
      | some field =>
          if Properties.contains given field.name then .error (.duplicateField field.name)
          else
            match field.check value with
            | .error fault => .error fault
            | .ok _ => gather fields (given ++ [(field.name, value)]) rest

/-- The items of a list under the names of the fields; `whole` describes the record and `index`
counts the fields before. -/
def pair (whole : String) : Nat → List Field → List Json →
    Except DecodeFault (List (String × Json))
  | _, [], [] => .ok []
  | index, [], extra => .error (.invalidLength (index + extra.length) "fewer elements in array")
  | index, field :: fields, [] =>
      if field.skippable then pair whole (index + 1) fields []
      else .error (.invalidLength index whole)
  | index, field :: fields, item :: items =>
      match field.check item with
      | .error fault => .error fault
      | .ok _ => do
          let others ← pair whole (index + 1) fields items
          pure ((field.name, item) :: others)

/-- Scans members up to the end of an object. -/
def scanMembers (fields : List Field) :
    Nat → Bool → List (String × Json) → Scanner (List (String × Json))
  | 0, _, _ => Scanner.failAhead .expectedValue
  | fuel + 1, isFirst, given => do
      if ← Scanner.anotherMember isFirst then
        Scanner.advance
        let key ← Scanner.string
        match fields.find? fun field => field.answersTo key with
        | none =>
            Scanner.colon
            Scanner.skip
            scanMembers fields fuel false given
        | some field =>
            if Properties.contains given field.name then
              Scanner.refuseAt (Scanner.leaveObject (← get)) (.duplicateField field.name)
            else
              Scanner.colon
              let value ← field.scan
              match field.check value with
              | .error fault => Scanner.refuseAt (Scanner.leaveObject (← get)) fault
              | .ok _ => scanMembers fields fuel false (given ++ [(field.name, value)])
      else pure given

/-- Scans the items of the list form of a record. -/
def scanFields (whole : String) :
    Nat → Bool → List Field → Scanner (List (String × Json))
  | _, _, [] => pure []
  | index, isFirst, field :: fields => do
      if ← Scanner.anotherItem isFirst then
        let item ← field.scan
        match field.check item with
        | .error fault => Scanner.refuseAt (Scanner.leaveList (← get)) fault
        | .ok _ =>
            let others ← scanFields whole (index + 1) false fields
            pure ((field.name, item) :: others)
      else if field.skippable then scanFields whole (index + 1) isFirst fields
      else Scanner.refuseAt (Scanner.leaveList (← get)) (.invalidLength index whole)

end Field

/-- The parts of a record: how a value is built from members looked up by name, and how a
structure is written as members. -/
structure Record (σ α : Type) where
  fields : List Field
  build : (String → Option Json) → Except DecodeFault α
  members : σ → List (String × Json)

namespace Record

variable {σ α β : Type}

/-- A record without fields. -/
def const (value : α) : Record σ α :=
  { fields := [], build := fun _ => .ok value, members := fun _ => [] }

/-- Applies what one record builds to what another builds; the fields of the first come first. -/
def apply (left : Record σ (α → β)) (right : Record σ α) : Record σ β :=
  { fields := left.fields ++ right.fields
    build := fun given => do
      let function ← left.build given
      let argument ← right.build given
      pure (function argument)
    members := fun value => left.members value ++ right.members value }

instance : Applicative (Record σ) where
  pure := const
  seq left right := left.apply (right ())

/-- A field that must be given. -/
def required (name : String) (codec : Codec α) (get : σ → α) (aliases : List String := []) :
    Record σ α :=
  { fields := [Field.ofCodec name aliases false codec]
    build := fun given =>
      match given name with
      | none => .error (.missingField name)
      | some value => codec.decode value
    members := fun value => [(name, codec.encode (get value))] }

/-- A field with a value for when it is missing. -/
def defaulted (name : String) (codec : Codec α) (missing : α) (get : σ → α)
    (aliases : List String := []) : Record σ α :=
  { fields := [Field.ofCodec name aliases true codec]
    build := fun given =>
      match given name with
      | none => .ok missing
      | some value => codec.decode value
    members := fun value => [(name, codec.encode (get value))] }

/-- A field that may be null or missing in an object; the list form must give it. -/
def nullable (name : String) (codec : Codec α) (get : σ → Option α) : Record σ (Option α) :=
  { fields := [Field.ofCodec name [] false codec.nullable]
    build := fun given =>
      match given name with
      | none => .ok none
      | some value => codec.nullable.decode value
    members := fun value => [(name, codec.nullable.encode (get value))] }

/-- A field that may be null or missing, and is not written when there is no value. -/
def optional (name : String) (codec : Codec α) (get : σ → Option α) : Record σ (Option α) :=
  { fields := [Field.ofCodec name [] true codec.nullable]
    build := fun given =>
      match given name with
      | none => .ok none
      | some value => codec.nullable.decode value
    members := fun value =>
      match get value with
      | none => []
      | some present => [(name, codec.encode present)] }

/-- A property map that may be missing, and is not written when it is empty. -/
def emptySkipped (name : String) (get : σ → Properties) : Record σ Properties :=
  { fields := [Field.ofCodec name [] true Codec.properties]
    build := fun given =>
      match given name with
      | none => .ok []
      | some value => Codec.properties.decode value
    members := fun value =>
      if (get value).isEmpty then [] else [(name, .object (get value))] }

/-- Whether one of the fields goes by the key. -/
def knows (record : Record σ α) (key : String) : Bool :=
  record.fields.any fun field => field.answersTo key

/-- Decodes the members of an object. -/
def ofMembers (record : Record σ α) (members : List (String × Json)) : Except DecodeFault α := do
  let given ← Field.gather record.fields [] members
  record.build (Properties.get? given)

/-- The wording of what a record is, with the number of its fields. -/
def describe (name : String) (record : Record σ α) : String :=
  "struct " ++ name ++ " with " ++ Number.decimal record.fields.length
    ++ (if record.fields.length == 1 then " element" else " elements")

/-- Decodes a record from an object or from the list of its fields. -/
def decode (name : String) (record : Record σ α) : Json → Except DecodeFault α
  | .object members => record.ofMembers members
  | .list items => do
      let given ← Field.pair (record.describe name) 0 record.fields items
      record.build (Properties.get? given)
  | other => .error (.invalidType other.found ("struct " ++ name))

/-- Scans a record; a fault of the whole is placed behind its end. -/
def scan (name : String) (record : Record σ α) : Scanner Json := do
  match ← Scanner.valueStart with
  | '\x7b' => Scanner.nested do
      Scanner.advance
      let given ← Field.scanMembers record.fields (← Scanner.stepsLeft) true []
      match record.build (Properties.get? given) with
      | .error fault => Scanner.refuseAt (Scanner.leaveObject (← get)) fault
      | .ok _ =>
          Scanner.closeObject
          pure (.object given)
  | '[' => Scanner.nested do
      Scanner.advance
      let given ← Field.scanFields (record.describe name) 0 true record.fields
      match record.build (Properties.get? given) with
      | .error fault => Scanner.refuseAt (Scanner.leaveList (← get)) fault
      | .ok _ =>
          Scanner.closeList
          pure (.object given)
  | _ => Scanner.scalarFor (record.decode name)

/-- The codec of a record. -/
def codec (name : String) (record : Record α α) : Codec α :=
  { decode := record.decode name
    encode := fun value => .object (record.members value)
    scan := record.scan name }

end Record

end Provision.Json
