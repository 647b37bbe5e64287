import Provision.Cluster.Description
import Provision.Service.Operation
import Provision.Session.Principal
import Provision.Text.Percent

/-!
# The control plane of clusters

Describing a cluster takes one request, and a second one for the addresses of its brokers when it
is active.  Connectivity settings are submitted with the version token that they are meant for;
password authentication is always submitted as disabled.
-/

set_option autoImplicit false

namespace Provision.Service.ControlPlane

open Cluster (Settings State Description Reference)

/-- A request to the control plane. -/
structure Request where
  method : String
  path : String
  body : Option Json

/-! ## Operations -/

/-- The members that hold texts in the body of an error. -/
def errorMembers : List String := ["invalidParameter", "message"]

/-- An operation with the names of the errors that it declares. -/
def operation (name : String) (errors : List String) : Operation :=
  { name, declared := errors.map fun error => (error, errorMembers) }

/-- Describes a cluster. -/
def describing : Operation :=
  operation "DescribeCluster"
    ["BadRequestException", "ForbiddenException", "NotFoundException", "UnauthorizedException"]

/-- Names the brokers of a cluster. -/
def namingBrokers : Operation :=
  operation "GetBootstrapBrokers"
    ["BadRequestException", "ForbiddenException", "UnauthorizedException"]

/-- Submits connectivity settings. -/
def updating : Operation :=
  operation "UpdateConnectivity"
    ["BadRequestException", "ForbiddenException", "NotFoundException", "UnauthorizedException"]

/-- The kind of failure that an error code stands for. -/
def kindOf : Option String → FailureKind
  | some "ForbiddenException" => .permissionDenied
  | some "UnauthorizedException" => .permissionDenied
  | some "AccessDeniedException" => .permissionDenied
  | some "BadRequestException" => .validation
  | some "NotFoundException" => .validation
  | _ => .transient

/-- Sends the request of an operation and decodes its reply. -/
def perform {α : Type} (operation : Operation) (request : Request) (decode : Json → Option α) :
    Call Request α := do
  match operation.result decode (← Call.send request) with
  | .ok value => pure value
  | .error code => throw (operation.failure (kindOf code))

/-- The path of a cluster. -/
def clusterPath (cluster : Reference) : String :=
  "/v1/clusters/" ++ Text.percentEncoded cluster.arn

/-! ## Connectivity -/

/-- What public access is called in a submission. -/
def publicAccessName (enabled : Bool) : String :=
  if enabled then "SERVICE_PROVIDED_EIPS" else "DISABLED"

/-- A switch. -/
def switch (enabled : Bool) : Json := .object [("enabled", .bool enabled)]

/-- Settings as they are submitted. -/
structure Submission where
  publicAccess : String
  scramAuth : Bool
  iamAuth : Bool
  tlsAuth : Bool
  deriving DecidableEq, Repr

namespace Submission

/-- The submission of settings: password authentication stays off. -/
def ofSettings (settings : Settings) : Submission :=
  { publicAccess := publicAccessName settings.publicAccess
    scramAuth := false
    iamAuth := settings.iamAuth
    tlsAuth := settings.tlsAuth }

/-- A submission as an object. -/
def encode (submission : Submission) : Json :=
  .object
    [("publicAccess", .object [("type", .text submission.publicAccess)]),
      ("vpcConnectivity", .object
        [("clientAuthentication", .object
          [("sasl", .object
            [("scram", switch submission.scramAuth), ("iam", switch submission.iamAuth)]),
            ("tls", switch submission.tlsAuth)])])]

/-- Reads what a submission sends out of a description; what is not given is off. -/
def decode? (description : Json) : Option Submission := do
  let access ← Document.text? ["publicAccess", "type"] description
  let authentication := ["vpcConnectivity", "clientAuthentication"]
  let scram ← Document.flag? (authentication ++ ["sasl", "scram", "enabled"]) description
  let iam ← Document.flag? (authentication ++ ["sasl", "iam", "enabled"]) description
  let tls ← Document.flag? (authentication ++ ["tls", "enabled"]) description
  some
    { publicAccess := access.getD (publicAccessName false)
      scramAuth := scram.getD false
      iamAuth := iam.getD false
      tlsAuth := tls.getD false }

/-- The settings that are told of: any type of public access but `DISABLED` counts as access, and
password authentication is no setting. -/
def settings (submission : Submission) : Settings :=
  { publicAccess := submission.publicAccess != publicAccessName false
    iamAuth := submission.iamAuth
    tlsAuth := submission.tlsAuth }

end Submission

/-- The settings that a description holds. -/
def settings? (description : Json) : Option Settings :=
  Submission.settings <$> Submission.decode? description

/-! ## Calls -/

/-- The description of a cluster without its brokers, if the reply holds one. -/
def description? (document : Json) : Option (Option Description) := do
  match ← Document.follow? ["clusterInfo"] document with
  | none => some none
  | some info =>
      let state ← Document.text? ["state"] info
      let token ← Document.text? ["currentVersion"] info
      let connectivity ←
        match ← Document.follow? ["brokerNodeGroupInfo", "connectivityInfo"] info with
        | none => some none
        | some held => some <$> settings? held
      some (some
        { state := (state.map State.ofName).getD .unknown
          versionToken := token.getD ""
          endpoints := []
          connectivity })

/-- The addresses of the brokers of a cluster. -/
def brokers (cluster : Reference) : Call Request (List String) :=
  perform namingBrokers ⟨"GET", clusterPath cluster ++ "/bootstrap-brokers", none⟩
    fun document => do
      let addresses ← Document.text? ["bootstrapBrokerStringTls"] document
      some (Session.splitBrokers (addresses.getD ""))

/-- Describes a cluster; the brokers of a cluster that is not active are left out. -/
def describeCluster (cluster : Reference) : Call Request Description := do
  match ← perform describing ⟨"GET", clusterPath cluster, none⟩ description? with
  | none => throw (.transient ("集群 " ++ cluster.name ++ " 的描述为空"))
  | some description =>
      if description.state.isActive then
        pure { description with endpoints := ← brokers cluster }
      else pure description

/-- Submits settings and answers with the name of the operation that was started. -/
def updateConnectivity (cluster : Reference) (token : String) (settings : Settings) :
    Call Request String :=
  perform updating
    { method := "PUT"
      path := clusterPath cluster ++ "/connectivity"
      body := some (.object
        [("connectivityInfo", (Submission.ofSettings settings).encode),
          ("currentVersion", .text token)]) }
    fun document => do
      let started ← Document.text? ["clusterOperationArn"] document
      some (started.getD "")

end Provision.Service.ControlPlane
