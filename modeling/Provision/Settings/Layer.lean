import Provision.Json.Basic
import Provision.Number.Whole

/-!
# Layers of settings

Settings are put together from layers, of which a later one overrides an earlier one value by
value: tables are merged, everything else replaces what was there.  A key on the top level of a
layer may be a path into nested tables, such as `polling.query_interval_secs`.
-/

set_option autoImplicit false

namespace Provision.Settings

/-! ## Merging -/

/-- The members of a table; anything else has none. -/
def membersOf : Json → Properties
  | .object members => members
  | _ => []

mutual
/-- A table in which a key has a value; a table is merged into what the key has. -/
def assign (key : String) : Json → Json → Json
  | .object incoming, target =>
      let members := membersOf target
      .object (members.insert key (assignAll incoming ((members.get? key).getD (.object []))))
  | value, target => .object ((membersOf target).insert key value)

/-- A table in which each of the given keys has its value. -/
def assignAll : List (String × Json) → Json → Json
  | [], target => target
  | (key, value) :: rest, target => assignAll rest (assign key value target)
end

/-! ## Paths -/

/-- A step from a value to a part of it. -/
inductive Step where
  | child (key : String)
  /-- An item of a list.  No setting is one, so it does not matter which. -/
  | item
  deriving DecidableEq, Repr

/-- The characters of keys in paths. -/
def isKeyChar (character : Char) : Bool :=
  character.isAlphanum || character == ' ' || character == '_' || character == '-'

/-- Reads the steps of a path behind its first key. -/
def readSteps : Nat → List Char → Option (List Step)
  | _, [] => some []
  | 0, _ => none
  | fuel + 1, '.' :: rest => do
      let key := rest.takeWhile isKeyChar
      if key.isEmpty then none
      else some (.child (String.ofList key) :: (← readSteps fuel (rest.drop key.length)))
  | fuel + 1, '[' :: rest => do
      let isSpace := fun (character : Char) => character == ' ' || character == '\t'
      let inner := rest.dropWhile isSpace
      let index := inner.takeWhile fun character => character.isDigit || character == '-'
      let _ ← (Number.readSigned 10 index).toOption
      match (inner.drop index.length).dropWhile isSpace with
      | ']' :: behind => some (.item :: (← readSteps fuel behind))
      | _ => none
  | _ + 1, _ => none

/-- The path that a key spells: its first key and the steps behind it.  A key that spells no path
stands for itself. -/
def pathOf (key : String) : String × List Step :=
  let characters := key.toList
  let first := characters.takeWhile isKeyChar
  let rest := characters.drop first.length
  if first.isEmpty then (key, [])
  else
    match readSteps rest.length rest with
    | some steps => (String.ofList first, steps)
    | none => (key, [])

/-- A table in which the value at a path is set; what is on the way there becomes a table or a
list if it is none. -/
def assignAt (value : Json) : String → List Step → Json → Json
  | key, [], target => assign key value target
  | key, .child next :: steps, target =>
      let members := membersOf target
      .object (members.insert key (assignAt value next steps ((members.get? key).getD .null)))
  | key, .item :: _, target =>
      let members := membersOf target
      let items :=
        match members.get? key with
        | some (.list items) => items
        | _ => []
      .object (members.insert key (.list items))

/-- A layer over the settings so far. -/
def overlay (settings : Json) (layer : Properties) : Json :=
  layer.foldl
    (fun settings member =>
      let (key, steps) := pathOf member.1
      assignAt member.2 key steps settings)
    settings

end Provision.Settings
