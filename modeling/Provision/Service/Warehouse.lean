import Provision.Namespace.Spec
import Provision.Service.Operation

/-!
# The warehouse

Namespaces are read, created, changed and deleted by one request each.  A namespace that does not
exist is an answer when it is read, and nothing to do when it is deleted.
-/

set_option autoImplicit false

namespace Provision.Service.Warehouse

open Namespace (Description Spec Status)

/-- A request to the warehouse: an operation and its arguments. -/
structure Request where
  target : String
  body : Json

/-! ## Operations -/

/-- The code of the error that a namespace does not exist. -/
def absent : String := "ResourceNotFoundException"

/-- An operation with the names of the errors that it declares. -/
def operation (name : String) (errors : List String) : Operation :=
  { name
    declared := errors.map fun error =>
      (error, if error == absent then ["message", "resourceName"] else ["message"]) }

/-- Reads a namespace. -/
def reading : Operation := operation "GetNamespace" [absent, "ValidationException"]

/-- Creates a namespace. -/
def creating : Operation :=
  operation "CreateNamespace" ["ConflictException", "ValidationException"]

/-- Changes a namespace. -/
def updating : Operation :=
  operation "UpdateNamespace" ["ConflictException", absent, "ValidationException"]

/-- Deletes a namespace. -/
def deleting : Operation :=
  operation "DeleteNamespace" ["ConflictException", absent, "ValidationException"]

/-- The kind of failure that an error code stands for. -/
def kindOf : Option String → FailureKind
  | some "AccessDeniedException" => .permissionDenied
  | some "ConflictException" => .conflict
  | some "ValidationException" => .validation
  | some "ServiceQuotaExceededException" => .validation
  | _ => .transient

/-- Sends the request of an operation and decodes its reply. -/
def attempt {α : Type} (operation : Operation) (body : Json) (decode : Json → Option α) :
    Call Request (Except (Option String) α) := do
  let reply ← Call.send ⟨"RedshiftServerless." ++ operation.name, body⟩
  pure (operation.result decode reply)

/-- An operation of which every error is a failure. -/
def perform {α : Type} (operation : Operation) (body : Json) (decode : Json → Option α) :
    Call Request α := do
  match ← attempt operation body decode with
  | .ok value => pure value
  | .error code => throw (operation.failure (kindOf code))

/-- An operation that may find its namespace absent. -/
def performUnlessAbsent {α : Type} (operation : Operation) (body : Json)
    (decode : Json → Option α) : Call Request (Option α) := do
  match ← attempt operation body decode with
  | .ok value => pure (some value)
  | .error code =>
      if code == some absent then pure none else throw (operation.failure (kindOf code))

/-! ## Documents -/

/-- The namespace of a description; what is not given is empty, and the status unknown. -/
def description? (described : Json) : Option Description := do
  let text := fun (member : String) => Document.text? [member] described
  let name ← text "namespaceName"
  let id ← text "namespaceId"
  let arn ← text "namespaceArn"
  let status ← text "status"
  let dbName ← text "dbName"
  some
    { name := name.getD ""
      id := id.getD ""
      arn := arn.getD ""
      status := (status.map Status.ofName).getD .unknown
      dbName := dbName.getD ""
      adminUsername := ← text "adminUsername"
      kmsKeyId := ← text "kmsKeyId"
      iamRoles := ← Document.texts? ["iamRoles"] described
      defaultIamRole := ← text "defaultIamRoleArn"
      logExports := ← Document.texts? ["logExports"] described }

/-- The namespace in a reply, if the reply has one. -/
def given? (document : Json) : Option (Option Description) := do
  match ← Document.follow? ["namespace"] document with
  | none => some none
  | some described => some <$> description? described

/-- The namespace in a reply, an empty one if the reply has none. -/
def givenOrEmpty? (document : Json) : Option Description := do
  description? ((← Document.follow? ["namespace"] document).getD (.object []))

/-- A member for a text that may be absent. -/
def present (name : String) : Option String → List (String × Json)
  | none => []
  | some value => [(name, .text value)]

/-- The arguments that name a namespace. -/
def named (name : String) : List (String × Json) := [("namespaceName", .text name)]

/-- The arguments that can be changed later, but for the key. -/
def accessArguments (spec : Spec) : List (String × Json) :=
  [("iamRoles", .list (spec.iamRoles.map Json.text))]
    ++ present "defaultIamRoleArn" spec.defaultIamRole
    ++ [("logExports", .list (spec.logExports.map Json.text))]

/-! ## Calls -/

/-- Reads a namespace, if it exists. -/
def getNamespace (name : String) : Call Request (Option Description) :=
  performUnlessAbsent reading (.object (named name)) givenOrEmpty?

/-- Creates a namespace. -/
def createNamespace (spec : Spec) : Call Request Description := do
  let arguments := named spec.name ++ [("dbName", .text spec.dbName)]
    ++ present "adminUsername" spec.adminUsername ++ present "kmsKeyId" spec.kmsKeyId
    ++ accessArguments spec
  match ← perform creating (.object arguments) given? with
  | some description => pure description
  | none => throw (.transient (creating.name ++ " " ++ spec.name ++ " 未返回命名空间"))

/-- Changes a namespace. -/
def updateNamespace (spec : Spec) : Call Request Description :=
  perform updating
    (.object (named spec.name ++ present "kmsKeyId" spec.kmsKeyId ++ accessArguments spec))
    givenOrEmpty?

/-- Deletes a namespace, if it exists. -/
def deleteNamespace (name : String) : Call Request Unit := do
  let _ ← performUnlessAbsent deleting (.object (named name)) given?
  pure ()

end Provision.Service.Warehouse
