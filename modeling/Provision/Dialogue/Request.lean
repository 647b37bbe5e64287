import Provision.Acl.Entry
import Provision.Cluster.Description
import Provision.Namespace.Spec
import Provision.Session.AdminFailure
import Provision.Session.Credentials
import Provision.Topic.Spec

/-!
# Requests to the outside

The engine talks to four services: the control plane of clusters, the store of secrets, the
brokers and the warehouse.  Every request has its own kind of reply.
-/

set_option autoImplicit false

namespace Provision.Dialogue

/-- A request to a broker within a session. -/
inductive AdminCall where
  /-- Adds an entry; adding it again changes nothing. -/
  | createAcl (entry : Acl.Entry)
  /-- Removes the selected entries and answers with them. -/
  | deleteAcls (filter : Acl.Filter)
  | listAcls (filter : Acl.Filter)
  | createTopic (spec : Topic.Spec)
  /-- Grows a topic to a total number of partitions. -/
  | createPartitions (topic : String) (total : Nat)
  | deleteTopic (topic : String)
  /-- Describes a topic, if it exists. -/
  | describePartitions (topic : String)
  deriving DecidableEq, Repr

/-- What a successful request answers with. -/
def AdminCall.Result : AdminCall → Type
  | .createAcl _ => Unit
  | .deleteAcls _ => List Acl.Entry
  | .listAcls _ => List Acl.Entry
  | .createTopic _ => Unit
  | .createPartitions _ _ => Unit
  | .deleteTopic _ => Unit
  | .describePartitions _ => Option Topic.Description

/-- The name of a request in the broker's protocol. -/
def AdminCall.operation : AdminCall → String
  | .createAcl _ => "CreateAcls"
  | .deleteAcls _ => "DeleteAcls"
  | .listAcls _ => "DescribeAcls"
  | .createTopic _ => "CreateTopics"
  | .createPartitions _ _ => "CreatePartitions"
  | .deleteTopic _ => "DeleteTopics"
  | .describePartitions _ => "Metadata"

/-- How a session is to be opened. -/
structure ConnectOptions where
  clientId : String
  brokers : List String
  credentials : Session.Credentials
  requestMs : Nat
  debug : Bool
  deriving DecidableEq, Repr

/-- A duration in words: in seconds from one second on, else in milliseconds. -/
def durationText (millis : Nat) : String :=
  if 1000 ≤ millis then
    let digits :=
      (Number.padded 3 (millis % 1000)).toList.reverse.dropWhile fun digit => digit == '0'
    let fraction := if digits.isEmpty then "" else "." ++ String.ofList digits.reverse
    Number.decimal (millis / 1000) ++ fraction ++ "s"
  else if millis == 0 then "0ns"
  else Number.decimal millis ++ "ms"

/-- The options as they may be shown: nothing of the key. -/
def ConnectOptions.redacted (options : ConnectOptions) : String :=
  "SessionOptions \x7b client_id: " ++ Text.quoted options.clientId ++ ", brokers: ["
    ++ Text.joined ", " (options.brokers.map Text.quoted) ++ "], credentials: "
    ++ options.credentials.redacted ++ ", request_timeout: "
    ++ durationText options.requestMs ++ ", debug: "
    ++ (if options.debug then "true" else "false") ++ " \x7d"

/-- A request to a service. -/
inductive Request where
  | describeCluster (cluster : Cluster.Reference)
  /-- Submits settings with the version token that they are meant for. -/
  | updateConnectivity (cluster : Cluster.Reference) (token : String)
      (settings : Cluster.Settings)
  | getSecret (name : String)
  | connect (options : ConnectOptions)
  | admin (cluster : Cluster.Reference) (call : AdminCall)
  /-- Describes a namespace, if it exists. -/
  | getNamespace (name : String)
  | createNamespace (spec : Namespace.Spec)
  | updateNamespace (spec : Namespace.Spec)
  | deleteNamespace (name : String)
  deriving DecidableEq, Repr

/-- The reply to a request. -/
def Request.Reply : Request → Type
  | .describeCluster _ => Outcome Cluster.Description
  | .updateConnectivity _ _ _ => Outcome String
  | .getSecret _ => Outcome Session.Secret
  | .connect _ => Except Session.AdminFailure Unit
  | .admin _ call => Except Session.AdminFailure call.Result
  | .getNamespace _ => Outcome (Option Namespace.Description)
  | .createNamespace _ => Outcome Namespace.Description
  | .updateNamespace _ => Outcome Namespace.Description
  | .deleteNamespace _ => Outcome Unit

end Provision.Dialogue
