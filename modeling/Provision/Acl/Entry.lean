import Provision.Acl.Vocabulary
import Provision.Json.Record

/-!
# Access control entries and filters

An entry grants or denies a principal one operation on the resources that a name selects.  Entries
never change in place; a filter selects entries by the fields that it fixes.
-/

set_option autoImplicit false

namespace Provision.Acl

open Json (Codec Record)

/-- Stands for the brokers' own identity, which is known only once the cluster is up. -/
def bootstrapPlaceholder : String := "REPLACE-WITH-BOOTSTRAP"

/-- An access control entry. -/
structure Entry where
  resourceType : ResourceType
  resourceName : String
  patternType : PatternType
  principal : String
  host : String
  operation : Operation
  permission : Permission
  deriving DecidableEq, Repr

namespace Entry

/-- The fields of an entry; without a host it holds for every host. -/
def record : Record Entry Entry :=
  Entry.mk
    <$> .required "resourceType" resourceTypes.codec Entry.resourceType
    <*> .required "resourceName" Codec.text Entry.resourceName
    <*> .required "resourcePatternType" patternTypes.codec Entry.patternType ["patternType"]
    <*> .required "principal" Codec.text Entry.principal
    <*> .defaulted "host" Codec.text "*" Entry.host
    <*> .required "operation" operations.codec Entry.operation
    <*> .required "permissionType" permissions.codec Entry.permission

/-- Entries as objects. -/
def codec : Codec Entry := record.codec "AclEntry"

/-- Refuses blank fields and a cluster entry that does not name the cluster. -/
def validate (entry : Entry) : Outcome Unit :=
  if Text.isBlankText entry.resourceName then .error (.validation "ACL 资源名称不能为空")
  else if Text.isBlankText entry.principal then .error (.validation "ACL 主体不能为空")
  else if Text.isBlankText entry.host then .error (.validation "ACL 主机不能为空")
  else if entry.resourceType = .cluster ∧ entry.resourceName ≠ "kafka-cluster" then
    .error (.validation
      ("集群类型 ACL 的资源名称必须为 kafka-cluster，实际为: " ++ entry.resourceName))
  else .ok ()

/-- The identifier of the declared entry, made of its content. -/
def physicalId (entry : Entry) : String :=
  Text.joined "/"
    ["acl", entry.resourceType.name, entry.patternType.name, entry.resourceName,
      entry.principal, entry.host, entry.operation.name, entry.permission.name]

/-- The entry in words. -/
def display (entry : Entry) : String :=
  entry.resourceType.name ++ "(" ++ entry.patternType.name ++ ":" ++ entry.resourceName ++ ") "
    ++ entry.permission.name ++ " " ++ entry.principal ++ " " ++ entry.operation.name
    ++ " from " ++ entry.host

/-- Whether the principal is the placeholder for the brokers' own identity. -/
def hasPlaceholder (entry : Entry) : Bool :=
  entry.principal == bootstrapPlaceholder

/-- The entry for another principal. -/
def withPrincipal (entry : Entry) (principal : String) : Entry :=
  { entry with principal }

end Entry

/-- Selects entries by the fields that are given. -/
structure Filter where
  resourceType : Option ResourceType
  resourceName : Option String
  patternType : Option PatternType
  principal : Option String
  host : Option String
  operation : Option Operation
  permission : Option Permission
  deriving DecidableEq, Repr

namespace Filter

/-- The fields of a filter. -/
def record : Record Filter Filter :=
  Filter.mk
    <$> .nullable "resourceType" resourceTypes.codec Filter.resourceType
    <*> .nullable "resourceName" Codec.text Filter.resourceName
    <*> .nullable "patternType" patternTypes.codec Filter.patternType
    <*> .nullable "principal" Codec.text Filter.principal
    <*> .nullable "host" Codec.text Filter.host
    <*> .nullable "operation" operations.codec Filter.operation
    <*> .nullable "permissionType" permissions.codec Filter.permission

/-- Filters as objects. -/
def codec : Codec Filter := record.codec "AclFilter"

/-- Selects the entries equal to the given one. -/
def exact (entry : Entry) : Filter :=
  { resourceType := some entry.resourceType
    resourceName := some entry.resourceName
    patternType := some entry.patternType
    principal := some entry.principal
    host := some entry.host
    operation := some entry.operation
    permission := some entry.permission }

/-- Selects what the removal of an entry removes: host and permission are left open. -/
def forRemoval (entry : Entry) : Filter :=
  { exact entry with host := none, permission := none }

/-- Whether a field that may be fixed admits a value. -/
def admits {α : Type} [DecidableEq α] (fixed : Option α) (value : α) : Bool :=
  match fixed with
  | none => true
  | some wanted => wanted == value

/-- Whether the filter selects the entry. -/
def selects (filter : Filter) (entry : Entry) : Bool :=
  admits filter.resourceType entry.resourceType
    && admits filter.resourceName entry.resourceName
    && admits filter.patternType entry.patternType
    && admits filter.principal entry.principal
    && admits filter.host entry.host
    && admits filter.operation entry.operation
    && admits filter.permission entry.permission

end Filter

end Provision.Acl
