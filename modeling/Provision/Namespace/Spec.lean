import Provision.Failure
import Provision.Json.Record
import Provision.Text.Case

/-!
# Warehouse namespaces

The declaration of a namespace and the description that the warehouse gives of one.  The database
name and the administrator are fixed at creation; keys, roles and log exports can be changed.
-/

set_option autoImplicit false

namespace Provision.Namespace

open Json (Codec Record)

/-! ## Status -/

/-- The status of a namespace. -/
inductive Status where
  | available
  | modifying
  | deleting
  | unknown
  deriving DecidableEq, Repr

namespace Status

/-- The name of a status. -/
def name : Status → String
  | .available => "AVAILABLE"
  | .modifying => "MODIFYING"
  | .deleting => "DELETING"
  | .unknown => "UNKNOWN"

/-- The statuses that are known by name. -/
def known : List (String × Status) :=
  [("AVAILABLE", .available), ("MODIFYING", .modifying), ("DELETING", .deleting)]

/-- The status with a name in any case; `unknown` for any other name. -/
def ofName (given : String) : Status :=
  match known.find? fun entry => entry.1 == Text.upper given with
  | some entry => entry.2
  | none => .unknown

/-- Statuses by their exact names. -/
def codec : Codec Status := Codec.variants known (some .unknown) name

end Status

/-! ## Descriptions -/

/-- A namespace as the warehouse describes it. -/
structure Description where
  name : String
  id : String
  arn : String
  status : Status
  dbName : String
  adminUsername : Option String
  kmsKeyId : Option String
  iamRoles : List String
  defaultIamRole : Option String
  logExports : List String
  deriving DecidableEq, Repr

namespace Description

/-- A field that may be null or missing, and is written as null. -/
def nullableText (name : String) (get : Description → Option String) :
    Record Description (Option String) :=
  .defaulted name Codec.text.nullable none get

/-- The fields of a description. -/
def record : Record Description Description :=
  Description.mk
    <$> .required "namespaceName" Codec.text Description.name
    <*> .required "namespaceId" Codec.text Description.id
    <*> .required "namespaceArn" Codec.text Description.arn
    <*> .required "status" Status.codec Description.status
    <*> .required "dbName" Codec.text Description.dbName
    <*> nullableText "adminUsername" Description.adminUsername
    <*> nullableText "kmsKeyId" Description.kmsKeyId
    <*> .defaulted "iamRoles" (Codec.list Codec.text) [] Description.iamRoles
    <*> nullableText "defaultIamRoleArn" Description.defaultIamRole
    <*> .defaulted "logExports" (Codec.list Codec.text) [] Description.logExports

/-- Descriptions as objects. -/
def codec : Codec Description := record.codec "NamespaceDescription"

end Description

/-! ## Declarations -/

/-- A declared namespace. -/
structure Spec where
  name : String
  dbName : String
  adminUsername : Option String
  kmsKeyId : Option String
  iamRoles : List String
  defaultIamRole : Option String
  logExports : List String
  deriving DecidableEq, Repr

namespace Spec

/-- The fields of a declaration. -/
def record : Record Spec Spec :=
  Spec.mk
    <$> .required "namespaceName" Codec.text Spec.name ["name"]
    <*> .defaulted "dbName" Codec.text "dev" Spec.dbName
    <*> .optional "adminUsername" Codec.text Spec.adminUsername
    <*> .optional "kmsKeyId" Codec.text Spec.kmsKeyId
    <*> .defaulted "iamRoles" (Codec.list Codec.text) [] Spec.iamRoles
    <*> .optional "defaultIamRoleArn" Codec.text Spec.defaultIamRole
    <*> .defaulted "logExports" (Codec.list Codec.text) [] Spec.logExports

/-- Declarations as objects. -/
def codec : Codec Spec := record.codec "NamespaceSpec"

/-- Lower case letters, digits and hyphens. -/
def isNameChar (character : Char) : Bool :=
  character.isLower || character.isDigit || character == '-'

/-- Refuses bad names, an empty database name and a default role outside the roles. -/
def validate (spec : Spec) : Outcome Unit :=
  if spec.name.utf8ByteSize < 3 || 64 < spec.name.utf8ByteSize then
    .error (.validation ("命名空间名称长度必须在 3 到 64 之间: " ++ spec.name))
  else if !spec.name.toList.all isNameChar then
    .error (.validation ("命名空间名称只能包含小写字母、数字和连字符: " ++ spec.name))
  else if spec.dbName == "" then .error (.validation "数据库名称不能为空")
  else
    match spec.defaultIamRole with
    | some role =>
        if spec.iamRoles.contains role then .ok ()
        else .error (.validation ("默认 IAM 角色 " ++ role ++ " 必须包含在 iamRoles 中"))
    | none => .ok ()

/-- What a description contradicts in the fields that cannot be changed. -/
def immutableConflict (spec : Spec) (current : Description) : Option String :=
  if spec.dbName != current.dbName then
    some ("命名空间 " ++ current.name ++ " 的数据库名称为 " ++ current.dbName
      ++ "，期望 " ++ spec.dbName)
  else if spec.adminUsername.isSome && spec.adminUsername != current.adminUsername then
    some ("命名空间 " ++ current.name ++ " 的管理员用户名不可修改")
  else none

/-- The texts in ascending order. -/
def sorted (texts : List String) : List String :=
  texts.mergeSort fun left right => decide (left ≤ right)

/-- Whether the fields that can be changed are as declared; lists count without their order. -/
def matchesMutable (spec : Spec) (current : Description) : Bool :=
  spec.kmsKeyId == current.kmsKeyId
    && sorted spec.iamRoles == sorted current.iamRoles
    && spec.defaultIamRole == current.defaultIamRole
    && sorted spec.logExports == sorted current.logExports

end Spec

end Provision.Namespace
