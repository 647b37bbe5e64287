import Provision.Failure
import Provision.Text.Blank

/-!
# Kinds of resources

The closed set of resources that can be declared.
-/

set_option autoImplicit false

namespace Provision.Lifecycle

/-- A kind of resource. -/
inductive ResourceKind where
  | acl
  | topic
  | connectivityUpdate
  | warehouseNamespace
  deriving DecidableEq, Repr

namespace ResourceKind

/-- All kinds. -/
def all : List ResourceKind := [.acl, .topic, .connectivityUpdate, .warehouseNamespace]

/-- The name of a kind. -/
def name : ResourceKind → String
  | .acl => "Acl"
  | .topic => "Topic"
  | .connectivityUpdate => "ConnectivityUpdate"
  | .warehouseNamespace => "Namespace"

/-- The name under which declarations know a kind. -/
def customName : ResourceKind → String
  | .acl => "Custom::MskAcl"
  | .topic => "Custom::MskTopic"
  | .connectivityUpdate => "Custom::MskUpdateConnectivity"
  | .warehouseNamespace => "Custom::RedshiftServerlessNamespace"

/-- The kind with either of its names. -/
def ofName (given : String) : Outcome ResourceKind :=
  let name := Text.trim given
  match all.find? fun kind => kind.name == name || kind.customName == name with
  | some kind => .ok kind
  | none => .error (.validation ("invalid resource type: " ++ name))

end ResourceKind

end Provision.Lifecycle
