import Provision.Json.Reader
import Provision.Text.Pieces
import Provision.Yaml.Reader

/-!
# Settings from a file

The extension of a file tells its format.  A file whose content is no table sets nothing.
-/

set_option autoImplicit false

namespace Provision.Settings

/-- A format of files. -/
inductive FileFormat where
  | yaml
  | json
  deriving DecidableEq, Repr

namespace FileFormat

/-- The last name of a path; slashes and single points at its end do not count. -/
def lastName (path : List Char) : List Char :=
  let names := (Text.pieces '/' path).filter fun name => !name.isEmpty && name != ['.']
  names.getLast?.getD []

/-- The extension of a name: what follows its last point, unless that is the first character. -/
def extension? (name : List Char) : Option (List Char) :=
  match Text.cutLast '.' name with
  | some (before, after) => if before.isEmpty || name == ['.', '.'] then none else some after
  | none => none

/-- The format of a file. -/
def ofPath? (path : String) : Option FileFormat :=
  match (extension? (lastName path.toList)).map String.ofList with
  | some "yaml" => some .yaml
  | some "yml" => some .yaml
  | some "json" => some .json
  | _ => none

/-- The value that a text holds, if it is well-formed. -/
def value? (format : FileFormat) (text : String) : Option Json :=
  match format with
  | .json => (Json.read text).toOption
  | .yaml => do
      match ← Yaml.Node.ofText? text with
      | none => some .null
      | some node => node.toJson?

end FileFormat

/-- A file and its content, if it is there. -/
structure SettingsFile where
  path : String
  content : Option String
  deriving DecidableEq, Repr

/-- The text of a content without the mark that may stand in front of it. -/
def withoutMark (content : String) : String :=
  match content.toList with
  | '\uFEFF' :: rest => String.ofList rest
  | characters => String.ofList characters

/-- The layer of a file in a format, if it is there and well-formed. -/
def SettingsFile.layer? (file : SettingsFile) (format : FileFormat) : Option Properties := do
  match ← format.value? (withoutMark (← file.content)) with
  | .object members => some members
  | _ => some []

end Provision.Settings
