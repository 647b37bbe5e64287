import Provision.Json.Basic
import Provision.Number.Shortest
import Provision.Number.Whole

/-!
# YAML nodes

What a document is made of, what a scalar stands for, and nodes as JSON values.  A plain scalar is
a number, a truth value or null by its spelling; a quoted one is always text.
-/

set_option autoImplicit false

namespace Provision.Yaml

open Number (Binary64)

/-- A node.  Numbers with a point or an exponent keep their spelling. -/
inductive Node where
  | null
  | bool (value : Bool)
  | whole (value : Int)
  | real (spelling : String)
  | text (value : String)
  | list (items : List Node)
  | table (entries : List (Node × Node))
  /-- A scalar that contradicts its tag, or a reference into the node around it. -/
  | void
  deriving Inhabited

namespace Node

/-! ## Scalars -/

/-- The names of infinity and of no number that only YAML knows. -/
def specialReals : List String :=
  [".inf", ".Inf", ".INF", "+.inf", "+.Inf", "+.INF", "-.inf", "-.Inf", "-.INF", ".nan", "NaN",
    ".NaN", ".NAN"]

/-- Whether a spelling is one of a floating point number. -/
def isReal (spelling : String) : Bool :=
  specialReals.contains spelling || (Binary64.read? spelling.toList).isSome

/-- The whole number that a spelling has in decimal digits, or in hexadecimal or octal ones behind
`0x` or `0o`. -/
def wholeOf? (spelling : List Char) : Option Int :=
  let marked : Option Int :=
    match spelling with
    | '0' :: 'x' :: digits => (Number.readSigned 16 digits).toOption
    | '0' :: 'o' :: digits => (Number.readSigned 8 digits).toOption
    | '+' :: digits => (Number.readSigned 10 digits).toOption
    | _ => none
  match marked with
  | some value => some value
  | none => (Number.readSigned 10 spelling).toOption

/-- What a plain scalar stands for. -/
def ofPlain (spelling : String) : Node :=
  match wholeOf? spelling.toList with
  | some value => .whole value
  | none =>
      if spelling == "~" || spelling == "null" then .null
      else if spelling == "true" then .bool true
      else if spelling == "false" then .bool false
      else if isReal spelling then .real spelling
      else .text spelling

/-- What a plain scalar with one of the common tags stands for. -/
def ofTagged (tag spelling : String) : Node :=
  match tag with
  | "bool" =>
      if spelling == "true" then .bool true
      else if spelling == "false" then .bool false
      else .void
  | "int" =>
      match (Number.readSigned 10 spelling.toList).toOption with
      | some value => .whole value
      | none => .void
  | "float" => if isReal spelling then .real spelling else .void
  | "null" => if spelling == "~" || spelling == "null" then .null else .void
  | _ => .text spelling

/-- What a scalar stands for; a tag counts only on a plain one. -/
def ofScalar (isPlain : Bool) (tag : Option (String × String)) (spelling : String) : Node :=
  if !isPlain then .text spelling
  else
    match tag with
    | none => ofPlain spelling
    | some (handle, suffix) => if handle == "!!" then ofTagged suffix spelling else .text spelling

/-! ## Tables -/

/-- Takes nodes in turn as keys and values.  A void node is no key: the one behind it is taken
instead. -/
def pairs : Option Node → List Node → List (Node × Node)
  | _, [] => []
  | none, .void :: rest => pairs none rest
  | none, key :: rest => pairs (some key) rest
  | some key, value :: rest => (key, value) :: pairs none rest

/-! ## As JSON values -/

/-- Whether a node is the given text. -/
def isText (expected : String) : Node → Bool
  | .text value => value == expected
  | _ => false

mutual
/-- A node as a JSON value; a spelling that only YAML knows is none of a JSON number. -/
def toJson? : Node → Option Json
  | .null => some .null
  | .void => some .null
  | .bool value => some (.bool value)
  | .whole value => some (.whole value)
  | .real spelling => (Binary64.read? spelling.toList).map Json.float
  | .text value => some (.text value)
  | .list items => do some (.list (← itemsToJson? items))
  | .table entries => do some (.object (← entriesToJson? entries))

/-- List items as JSON values. -/
def itemsToJson? : List Node → Option (List Json)
  | [] => some []
  | item :: rest => do
      let first ← toJson? item
      let others ← itemsToJson? rest
      some (first :: others)

/-- Entries as members: those whose key is text, of a repeated key the last one. -/
def entriesToJson? : List (Node × Node) → Option Properties
  | [] => some []
  | (.text key, value) :: rest =>
      if rest.any fun entry => isText key entry.1 then entriesToJson? rest
      else do
        let first ← toJson? value
        let others ← entriesToJson? rest
        some ((key, first) :: others)
  | _ :: rest => entriesToJson? rest
end

end Node

end Provision.Yaml
