import Provision.Json.Basic
import Provision.Number.Shortest
import Provision.Text.Quoted

/-!
# What can be wrong with JSON

Causes for which a value does not decode, causes for which a text is not JSON, and their wording.
A fault met while reading text also has a place: the line, and the number of bytes read in it.
-/

set_option autoImplicit false

namespace Provision.Json

open Number

/-! ## Values -/

/-- The value that was found in place of the wanted one. -/
inductive Found where
  | null
  | bool (value : Bool)
  | whole (value : Int)
  | float (value : Binary64)
  | text (value : String)
  | sequence
  | map
  deriving DecidableEq, Repr

/-- What a value is found to be. -/
def found : Json → Found
  | .null => .null
  | .bool value => .bool value
  | .whole value => .whole value
  | .float value => .float value
  | .text value => .text value
  | .list _ => .sequence
  | .object _ => .map

/-- The wording of what was found. -/
def Found.describe : Found → String
  | .null => "null"
  | .bool value => "boolean `" ++ (if value then "true" else "false") ++ "`"
  | .whole value => "integer `" ++ decimal value ++ "`"
  | .float value => "floating point `" ++ value.jsonText ++ "`"
  | .text value => "string " ++ Text.quoted value
  | .sequence => "sequence"
  | .map => "map"

/-- Why a value does not decode. -/
inductive DecodeFault where
  /-- A value of another type. -/
  | invalidType (found : Found) (expected : String)
  /-- A value of the right type outside the wanted ones. -/
  | invalidValue (found : Found) (expected : String)
  /-- A list of the wrong length. -/
  | invalidLength (length : Nat) (expected : String)
  | missingField (name : String)
  | duplicateField (name : String)
  | unknownVariant (name : String) (known : List String)
  /-- None of the alternatives of a value with several spellings. -/
  | noAlternative (name : String)
  /-- The reader of the value refused it for a reason of its own. -/
  | refused (reason : String)
  deriving DecidableEq, Repr

/-- The wording of a fault. -/
def DecodeFault.message : DecodeFault → String
  | .invalidType found expected => "invalid type: " ++ found.describe ++ ", expected " ++ expected
  | .invalidValue found expected => "invalid value: " ++ found.describe ++ ", expected " ++ expected
  | .invalidLength length expected =>
      "invalid length " ++ decimal length ++ ", expected " ++ expected
  | .missingField name => "missing field `" ++ name ++ "`"
  | .duplicateField name => "duplicate field `" ++ name ++ "`"
  | .unknownVariant name known =>
      "unknown variant `" ++ name ++ "`, expected one of "
        ++ Text.joined ", " (known.map fun variant => "`" ++ variant ++ "`")
  | .noAlternative name => "data did not match any variant of untagged enum " ++ name
  | .refused reason => reason

/-! ## Text -/

/-- Why a text is not JSON. -/
inductive SyntaxFault where
  | endInList
  | endInObject
  | endInString
  | endInValue
  | expectedColon
  | expectedCommaOrBracket
  | expectedCommaOrBrace
  | expectedIdent
  | expectedValue
  | invalidEscape
  | invalidNumber
  | numberOutOfRange
  | controlCharacter
  | keyNotString
  | loneSurrogate
  | trailingComma
  | trailingCharacters
  | endOfEscape
  | tooDeep
  deriving DecidableEq, Repr

/-- The wording of a fault. -/
def SyntaxFault.message : SyntaxFault → String
  | .endInList => "EOF while parsing a list"
  | .endInObject => "EOF while parsing an object"
  | .endInString => "EOF while parsing a string"
  | .endInValue => "EOF while parsing a value"
  | .expectedColon => "expected `:`"
  | .expectedCommaOrBracket => "expected `,` or `]`"
  | .expectedCommaOrBrace => "expected `,` or `\x7d`"
  | .expectedIdent => "expected ident"
  | .expectedValue => "expected value"
  | .invalidEscape => "invalid escape"
  | .invalidNumber => "invalid number"
  | .numberOutOfRange => "number out of range"
  | .controlCharacter => "control character (\\u0000-\\u001F) found while parsing a string"
  | .keyNotString => "key must be a string"
  | .loneSurrogate => "lone leading surrogate in hex escape"
  | .trailingComma => "trailing comma"
  | .trailingCharacters => "trailing characters"
  | .endOfEscape => "unexpected end of hex escape"
  | .tooDeep => "recursion limit exceeded"

/-- A place in a text: the line, counted from one, and the bytes read in it. -/
structure Place where
  line : Nat
  column : Nat
  deriving DecidableEq, Repr

/-- The cause of a reading fault. -/
inductive ReadCause where
  | form (fault : SyntaxFault)
  | content (fault : DecodeFault)
  deriving DecidableEq, Repr

/-- A fault met while reading text. -/
structure ReadFault where
  cause : ReadCause
  place : Place
  deriving DecidableEq, Repr

/-- The wording of the cause alone. -/
def ReadCause.message : ReadCause → String
  | .form fault => fault.message
  | .content fault => fault.message

/-- The wording of a reading fault, with its place. -/
def ReadFault.message (fault : ReadFault) : String :=
  fault.cause.message ++ " at line " ++ decimal fault.place.line
    ++ " column " ++ decimal fault.place.column

end Provision.Json
