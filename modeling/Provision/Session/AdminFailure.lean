import Provision.Failure

/-!
# Failures of the administration protocol

What a broker answers to a refused request, and which kind of failure that is for the caller.
-/

set_option autoImplicit false

namespace Provision.Session

/-- What kind of refusal it is. -/
inductive AdminFailureKind where
  | leaderNotAvailable
  | notController
  | brokerNotAvailable
  | networkException
  | requestTimedOut
  | topicAlreadyExists
  | unknownTopicOrPartition
  | clusterAuthorizationFailed
  | topicAuthorizationFailed
  | invalidReplicationFactor
  | invalidPartitions
  | invalidConfig
  | invalidRequest
  | securityDisabled
  | unknown
  deriving DecidableEq, Repr

namespace AdminFailureKind

/-- All kinds. -/
def all : List AdminFailureKind :=
  [.leaderNotAvailable, .notController, .brokerNotAvailable, .networkException,
    .requestTimedOut, .topicAlreadyExists, .unknownTopicOrPartition,
    .clusterAuthorizationFailed, .topicAuthorizationFailed, .invalidReplicationFactor,
    .invalidPartitions, .invalidConfig, .invalidRequest, .securityDisabled, .unknown]

/-- The name of a kind. -/
def name : AdminFailureKind → String
  | .leaderNotAvailable => "LeaderNotAvailable"
  | .notController => "NotController"
  | .brokerNotAvailable => "BrokerNotAvailable"
  | .networkException => "NetworkException"
  | .requestTimedOut => "RequestTimedOut"
  | .topicAlreadyExists => "TopicAlreadyExists"
  | .unknownTopicOrPartition => "UnknownTopicOrPartition"
  | .clusterAuthorizationFailed => "ClusterAuthorizationFailed"
  | .topicAuthorizationFailed => "TopicAuthorizationFailed"
  | .invalidReplicationFactor => "InvalidReplicationFactor"
  | .invalidPartitions => "InvalidPartitions"
  | .invalidConfig => "InvalidConfig"
  | .invalidRequest => "InvalidRequest"
  | .securityDisabled => "SecurityDisabled"
  | .unknown => "Unknown"

/-- The kind of failure that a refusal is for the caller. -/
def failureKind : AdminFailureKind → FailureKind
  | .leaderNotAvailable | .notController | .brokerNotAvailable | .networkException
  | .requestTimedOut | .unknownTopicOrPartition | .unknown => .transient
  | .topicAlreadyExists => .conflict
  | .clusterAuthorizationFailed | .topicAuthorizationFailed => .permissionDenied
  | .invalidReplicationFactor | .invalidPartitions | .invalidConfig | .invalidRequest
  | .securityDisabled => .validation

/-- The kind with a name. -/
def ofName? (name : String) : Option AdminFailureKind :=
  all.find? fun kind => kind.name == name

end AdminFailureKind

/-- A refused request. -/
structure AdminFailure where
  kind : AdminFailureKind
  message : String
  deriving DecidableEq, Repr

namespace AdminFailure

/-- The refusal in words. -/
def display (failure : AdminFailure) : String :=
  failure.kind.name ++ ": " ++ failure.message

/-- The failure that a refusal is for the caller. -/
def toFailure (failure : AdminFailure) : Failure :=
  ⟨failure.kind.failureKind, failure.display⟩

end AdminFailure

end Provision.Session
