import Provision.Namespace.Spec

/-!
# A warehouse

The namespaces of a warehouse, each with the number of reads until the last change to it has
settled.
-/

set_option autoImplicit false

namespace Provision.Rehearsal

open Namespace (Description Spec Status)

/-- What a warehouse holds. -/
structure Warehouse where
  namespaces : List (Description × Nat) := []
  /-- The number of reads that a change takes to settle. -/
  settleAfter : Nat := 0

namespace Warehouse

/-- The namespace with a name. -/
def namespace? (warehouse : Warehouse) (name : String) : Option (Description × Nat) :=
  warehouse.namespaces.find? fun entry => entry.1.name == name

/-- Forgets a namespace. -/
def erase (warehouse : Warehouse) (name : String) : Warehouse :=
  { warehouse with namespaces := warehouse.namespaces.filter fun entry => entry.1.name != name }

/-- Puts a namespace in the place of the one with its name, or adds it. -/
def put (warehouse : Warehouse) (description : Description) (counter : Nat) : Warehouse :=
  if (warehouse.namespace? description.name).isSome then
    { warehouse with
      namespaces := warehouse.namespaces.map fun entry =>
        if entry.1.name == description.name then (description, counter) else entry }
  else { warehouse with namespaces := warehouse.namespaces ++ [(description, counter)] }

/-- The status right after a change. -/
def statusAfterChange (warehouse : Warehouse) : Status :=
  if warehouse.settleAfter == 0 then .available else .modifying

/-- Reads a namespace, which brings it one read nearer to settling. -/
def get (warehouse : Warehouse) (name : String) : Option Description × Warehouse :=
  match warehouse.namespace? name with
  | none => (none, warehouse)
  | some (description, counter) =>
      let left := counter - 1
      if left != 0 then (some description, warehouse.put description left)
      else
        match description.status with
        | .deleting => (none, warehouse.erase name)
        | .modifying =>
            let settled := { description with status := .available }
            (some settled, warehouse.put settled left)
        | .available | .unknown => (some description, warehouse.put description left)

/-- Creates a namespace. -/
def create (warehouse : Warehouse) (spec : Spec) : Description × Warehouse :=
  let description : Description :=
    { name := spec.name
      id := "ns-" ++ spec.name
      arn := "arn:ns/" ++ spec.name
      status := warehouse.statusAfterChange
      dbName := spec.dbName
      adminUsername := spec.adminUsername
      kmsKeyId := spec.kmsKeyId
      iamRoles := spec.iamRoles
      defaultIamRole := spec.defaultIamRole
      logExports := spec.logExports }
  (description, warehouse.put description warehouse.settleAfter)

/-- Changes what can be changed of a namespace, if there is one. -/
def update? (warehouse : Warehouse) (spec : Spec) : Option (Description × Warehouse) :=
  (warehouse.namespace? spec.name).map fun (current, _) =>
    let description : Description :=
      { current with
        status := warehouse.statusAfterChange
        kmsKeyId := spec.kmsKeyId
        iamRoles := spec.iamRoles
        defaultIamRole := spec.defaultIamRole
        logExports := spec.logExports }
    (description, warehouse.put description warehouse.settleAfter)

/-- Deletes a namespace. -/
def delete (warehouse : Warehouse) (name : String) : Warehouse :=
  if warehouse.settleAfter == 0 then warehouse.erase name
  else
    match warehouse.namespace? name with
    | none => warehouse
    | some (description, _) =>
        warehouse.put { description with status := .deleting } warehouse.settleAfter

end Warehouse

end Provision.Rehearsal
