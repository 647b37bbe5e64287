import Provision.Json.Printer
import Provision.Service.Exchange
import Provision.Text.Pieces

/-!
# Operations of a service

An operation that succeeds replies with an object.  One that is refused names an error code, in a
header or in the body, and the code decides what kind of failure it is.  Members of a reply are
read along paths of names: a path leads nowhere as soon as one of its members is missing or null,
and a reply is unreadable when a member on the path has the wrong form.
-/

set_option autoImplicit false

namespace Provision.Service

/-! ## Documents -/

namespace Document

/-- Where a path of names leads; the outer `none` says that the value is unreadable. -/
def follow? : List String → Json → Option (Option Json)
  | _, .null => some none
  | [], value => some (some value)
  | name :: path, .object members =>
      match Properties.get? members name with
      | none => some none
      | some value => follow? path value
  | _ :: _, _ => none

/-- The text at the end of a path. -/
def text? (path : List String) (document : Json) : Option (Option String) := do
  match ← follow? path document with
  | none => some none
  | some (.text value) => some (some value)
  | some _ => none

/-- The truth value at the end of a path. -/
def flag? (path : List String) (document : Json) : Option (Option Bool) := do
  match ← follow? path document with
  | none => some none
  | some (.bool value) => some (some value)
  | some _ => none

/-- The texts at the end of a path; none of them may be null. -/
def texts? (path : List String) (document : Json) : Option (List String) := do
  match ← follow? path document with
  | none => some []
  | some (.list items) =>
      items.mapM fun item =>
        match item with
        | .text value => some value
        | _ => none
  | some _ => none

end Document

/-- The document of a reply; an empty body stands for an empty object. -/
def Reply.document? (reply : Reply) : Option Json :=
  if reply.body.isEmpty then some (.object [])
  else
    match Json.read reply.body with
    | .ok (.object members) => some (.object members)
    | _ => none

/-! ## Error codes -/

/-- The part of an error code that counts: without a namespace in front of `#` and without what
follows a colon. -/
def plainCode (code : String) : String :=
  let characters := code.toList.takeWhile fun character => character != ':'
  match Text.cutFirst '#' characters with
  | some (_, name) => String.ofList name
  | none => String.ofList characters

/-- The members of the body of a refusal.  A body that is no object has none, and an unreadable
one leaves the refusal without a code. -/
def Reply.refusalMembers? (reply : Reply) : Option Properties :=
  match (reply.body.toList.dropWhile Json.Cursor.isSpacing).head? with
  | none => some []
  | some '[' => some []
  | some _ =>
      match Json.read reply.body with
      | .ok (.object members) => some members
      | .ok _ => some []
      | .error _ => none

/-- The text of a member. -/
def textMember? (members : Properties) (name : String) : Option String :=
  match members.get? name with
  | some (.text value) => some value
  | _ => none

/-- The error code of a refusal: from the header, else from the body. -/
def Reply.errorCode? (reply : Reply) : Option String := do
  let members ← reply.refusalMembers?
  let code ←
    match reply.header? "x-amzn-errortype" with
    | some code => some code
    | none =>
        match textMember? members "code" with
        | some code => some code
        | none => textMember? members "__type"
  some (plainCode code)

/-! ## Operations -/

/-- An operation with the errors that it declares; the body of a declared error must hold texts
under the error's members. -/
structure Operation where
  name : String
  declared : List (String × List String)

namespace Operation

/-- The error code of a refusal of the operation, unless the error's body is unreadable. -/
def refusal? (operation : Operation) (reply : Reply) : Option String := do
  let code ← reply.errorCode?
  match operation.declared.find? fun error => error.1 == code with
  | none => some code
  | some (_, members) =>
      let document ← reply.document?
      let _ ← members.mapM fun member => Document.text? [member] document
      some code

/-- The result of an operation: what `decode` makes of the document, or the error code. -/
def result {α : Type} (operation : Operation) (decode : Json → Option α) (reply : Reply) :
    Except (Option String) α :=
  if reply.isSuccess then
    match reply.document?.bind decode with
    | some value => .ok value
    | none => .error none
  else .error (operation.refusal? reply)

/-- The failure of an operation of the given kind. -/
def failure (operation : Operation) (kind : FailureKind) : Failure :=
  ⟨kind, operation.name ++ " 失败"⟩

end Operation

end Provision.Service
