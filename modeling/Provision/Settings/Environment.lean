import Provision.Json.Basic
import Provision.Number.Shortest
import Provision.Number.Whole
import Provision.Text.Case
import Provision.Text.Pieces

/-!
# Settings from the environment

A variable whose name starts with the mark of the program, in any case, sets a value; two
underscores in the rest of the name lead into a table.  What a value spells decides its type.
-/

set_option autoImplicit false

namespace Provision.Settings

/-- What names of settings start with. -/
def variableMark : List Char := "brokerform__".toList

/-- The path that the rest of a name spells: a point for every two underscores. -/
def dotted : List Char → List Char
  | '_' :: '_' :: rest => '.' :: dotted rest
  | character :: rest => character :: dotted rest
  | [] => []

/-- The key that a variable sets, if it sets one. -/
def variableKey? (name : String) : Option String :=
  (Text.afterOpening variableMark (Text.lower name).toList).map fun rest =>
    String.ofList (dotted rest)

/-- The value that a text spells: a truth value, a whole number, a number or else itself. -/
def spelled (text : String) : Json :=
  let lower := Text.lower text
  if lower == "true" then .bool true
  else if lower == "false" then .bool false
  else
    match Number.readSigned 10 text.toList with
    | .ok value => .whole value
    | .error _ =>
        match Number.Binary64.read? text.toList with
        | some value => .float value
        | none => .text text

/-- The layer of the variables that set a value. -/
def environmentLayer (environment : List (String × String)) : Properties :=
  Properties.ofMembers <| environment.filterMap fun (name, text) =>
    (variableKey? name).map fun key => (key, spelled text)

end Provision.Settings
