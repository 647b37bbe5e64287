import Provision.Cluster.Description
import Provision.Json.Lenient

/-!
# Connectivity targets

The declared connectivity of a cluster.
-/

set_option autoImplicit false

namespace Provision.Connectivity

open Json (Codec Record)

/-- What a cluster's connectivity should become. -/
structure Target where
  cluster : String
  publicAccess : Bool
  iamAuth : Bool
  tlsAuth : Bool
  /-- The version token known at the time of the declaration. -/
  baselineToken : Option String
  deriving DecidableEq, Repr

namespace Target

/-- The fields of a target. -/
def record : Record Target Target :=
  Target.mk
    <$> .required "clusterArn" Codec.text Target.cluster ["mskClusterArn", "clusterHandle"]
    <*> .defaulted "publicAccess" Codec.lenientFlag false Target.publicAccess
    <*> .defaulted "iamAuth" Codec.lenientFlag false Target.iamAuth ["Iam"]
    <*> .defaulted "tlsAuth" Codec.lenientFlag false Target.tlsAuth ["Tls"]
    <*> .optional "baselineVersionToken" Codec.text Target.baselineToken

/-- Targets as objects. -/
def codec : Codec Target := record.codec "ConnectivityTarget"

/-- The settings wanted. -/
def desired (target : Target) : Cluster.Settings :=
  { publicAccess := target.publicAccess, iamAuth := target.iamAuth, tlsAuth := target.tlsAuth }

/-- The cluster referred to. -/
def reference (target : Target) : Outcome Cluster.Reference :=
  Cluster.Reference.parse target.cluster

end Target

end Provision.Connectivity
