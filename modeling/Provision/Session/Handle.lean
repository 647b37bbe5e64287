import Provision.Dialogue.Basic
import Provision.Session.Principal
import Provision.Session.Properties
import Provision.Settings.Basic

/-!
# Sessions with a broker

A session is opened for one event and not kept: the control plane tells where the brokers are, the
store of secrets yields the credentials, and the connection is made within a time limit.  Every
request within a session has a time limit of its own; one without an answer counts as timed out,
which is transient.
-/

set_option autoImplicit false

namespace Provision.Session

open Dialogue (AdminCall ConnectOptions)

/-- An open session. -/
structure Handle where
  cluster : Cluster.Reference
  brokers : List String
  requestMs : Nat

/-- What opening needs to know of the settings. -/
structure Opening where
  limits : Settings.SessionLimits
  clientIdPrefix : String

/-- What opening needs of all settings. -/
def Opening.ofSettings (settings : Settings.Engine) : Opening :=
  { limits := settings.session, clientIdPrefix := settings.clientIdPrefix }

namespace Handle

/-- The refusal that stands for a request without an answer. -/
def unanswered (call : AdminCall) (limit : Nat) : AdminFailure :=
  { kind := .requestTimedOut
    message := call.operation ++ " 在 " ++ Number.decimal limit ++ " 毫秒内没有响应" }

/-- Makes a request within its time limit. -/
def request (handle : Handle) (call : AdminCall) :
    Dialogue (Except AdminFailure call.Result) :=
  .askWithin handle.requestMs (.admin handle.cluster call) fun reply =>
    match reply with
    | some result => .done result
    | none => .done (.error (unanswered call handle.requestMs))

/-- Makes a request whose refusal fails the flow. -/
def perform (handle : Handle) (call : AdminCall) : Flow call.Result :=
  ExceptT.mk do
    match ← handle.request call with
    | .ok result => pure (.ok result)
    | .error refusal => pure (.error refusal.toFailure)

/-- The principal of the brokers behind the session. -/
def bootstrapPrincipal (handle : Handle) : Outcome String :=
  Session.bootstrapPrincipal handle.brokers

end Handle

/-- Refuses a cluster that cannot be reached. -/
def checkReachable (cluster : Cluster.Reference) (description : Cluster.Description) :
    Outcome Unit :=
  if description.state.isPermanentFailure then
    .error ⟨.permanentClusterFailure,
      "集群 " ++ cluster.name ++ " 处于 " ++ description.state.name ++ " 状态"⟩
  else if !description.state.isActive || description.endpoints.isEmpty then
    .error (.transient
      ("集群 " ++ cluster.name ++ " 尚不可达（状态: " ++ description.state.name ++ "）"))
  else .ok ()

/-- Connects within a time limit. -/
def connect (cluster : Cluster.Reference) (limit : Nat) (options : ConnectOptions) : Flow Unit :=
  ExceptT.mk (.askWithin limit (.connect options) fun reply =>
    match reply with
    | some (.ok _) => .done (.ok ())
    | some (.error refusal) => .done (.error refusal.toFailure)
    | none =>
        .done (.error (.transient
          ("连接集群 " ++ cluster.name ++ " 超时（" ++ Number.decimal limit ++ " 毫秒）"))))

/-- Opens a session with the cluster that the properties refer to. -/
def openSession (opening : Opening) (properties : Properties) : Flow Handle := do
  let cluster ← Flow.ofOutcome properties.validate
  let description ← Flow.describeCluster cluster
  Flow.ofOutcome (checkReachable cluster description)
  let secret ← Flow.getSecret properties.secretName
  let credentials ← Flow.ofOutcome (Credentials.ofSecret secret)
  connect cluster opening.limits.connectMs
    { clientId := opening.clientIdPrefix ++ "-" ++ cluster.name
      brokers := description.endpoints
      credentials
      requestMs := opening.limits.requestMs
      debug := properties.debugEnabled }
  pure { cluster, brokers := description.endpoints, requestMs := opening.limits.requestMs }

end Provision.Session
