import Provision.Cluster.Reference
import Provision.Json.Record
import Provision.Text.Case

/-!
# Cluster descriptions

What the control plane says of a cluster: its state, its version token, its bootstrap endpoints
and its connectivity.  Every change must carry the token of the latest description.
-/

set_option autoImplicit false

namespace Provision.Cluster

open Json (Codec Record)

/-! ## States -/

/-- The state of a cluster. -/
inductive State where
  | active
  | creating
  | updating
  | deleting
  | failed
  | healing
  | maintenance
  | rebootingBroker
  | unknown
  deriving DecidableEq, Repr

namespace State

/-- The name of a state. -/
def name : State → String
  | .active => "ACTIVE"
  | .creating => "CREATING"
  | .updating => "UPDATING"
  | .deleting => "DELETING"
  | .failed => "FAILED"
  | .healing => "HEALING"
  | .maintenance => "MAINTENANCE"
  | .rebootingBroker => "REBOOTING_BROKER"
  | .unknown => "UNKNOWN"

/-- The states that are known by name. -/
def known : List (String × State) :=
  [State.active, .creating, .updating, .deleting, .failed, .healing, .maintenance,
    .rebootingBroker].map fun state => (state.name, state)

/-- The state with a name in any case; `unknown` for any other name. -/
def ofName (given : String) : State :=
  match known.find? fun entry => entry.1 == Text.upper given with
  | some entry => entry.2
  | none => .unknown

/-- Whether the cluster accepts changes. -/
def isActive (state : State) : Bool :=
  state == .active

/-- Whether the cluster cannot leave the state. -/
def isPermanentFailure (state : State) : Bool :=
  state == .failed

/-- States by their exact names. -/
def codec : Codec State := Codec.variants known (some .unknown) name

end State

/-! ## Connectivity -/

/-- How a cluster can be reached. -/
structure Settings where
  publicAccess : Bool
  iamAuth : Bool
  tlsAuth : Bool
  deriving DecidableEq, Repr

/-- The fields of the settings. -/
def Settings.record : Record Settings Settings :=
  Settings.mk
    <$> .required "publicAccess" Codec.flag Settings.publicAccess
    <*> .required "iamAuth" Codec.flag Settings.iamAuth
    <*> .required "tlsAuth" Codec.flag Settings.tlsAuth

/-- Settings as objects. -/
def Settings.codec : Codec Settings := Settings.record.codec "ConnectivitySettings"

/-! ## Descriptions -/

/-- A cluster as the control plane describes it. -/
structure Description where
  state : State
  versionToken : String
  endpoints : List String
  connectivity : Option Settings
  deriving DecidableEq, Repr

namespace Description

/-- The fields of a description. -/
def record : Record Description Description :=
  Description.mk
    <$> .required "state" State.codec Description.state
    <*> .required "versionToken" Codec.text Description.versionToken
    <*> .defaulted "endpoints" (Codec.list Codec.text) [] Description.endpoints
    <*> .defaulted "connectivity" Settings.codec.nullable none Description.connectivity

/-- Descriptions as objects. -/
def codec : Codec Description := record.codec "ClusterDescription"

end Description

namespace Reference

/-- Decodes a reference. -/
def decode (value : Json) : Except Json.DecodeFault Reference := do
  match parse (← Codec.decodeText value) with
  | .ok reference => pure reference
  | .error failure => throw (.refused failure.display)

/-- References as strings. -/
def codec : Codec Reference :=
  { decode := decode, encode := fun reference => .text reference.arn, scan := Codec.text.scan }

end Reference

end Provision.Cluster
