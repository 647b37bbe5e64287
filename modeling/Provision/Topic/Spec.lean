import Provision.Failure
import Provision.Json.Lenient
import Provision.Json.Record
import Provision.Number.Word

/-!
# Topics

The declaration of a topic, and the description that a broker gives of one.
-/

set_option autoImplicit false

namespace Provision.Topic

open Json (Codec Record)

/-! ## Declarations -/

/-- A configuration setting of a topic. -/
structure ConfigEntry where
  name : String
  value : String
  deriving DecidableEq, Repr

/-- The fields of a setting. -/
def ConfigEntry.record : Record ConfigEntry ConfigEntry :=
  ConfigEntry.mk
    <$> .required "name" Codec.text ConfigEntry.name
    <*> .required "value" Codec.text ConfigEntry.value

/-- A declared topic. -/
structure Spec where
  name : String
  partitionCount : Nat
  replicationFactor : Nat
  waitForLeaders : Bool
  leaderWaitMs : Nat
  configEntries : List ConfigEntry
  deriving DecidableEq, Repr

namespace Spec

/-- How long a leader is waited for when nothing else is said. -/
def defaultLeaderWaitMs : Nat := 5000

/-- The longest name, in bytes. -/
def longestName : Nat := 249

/-- The fields of a declaration. -/
def record : Record Spec Spec :=
  Spec.mk
    <$> .required "name" Codec.text Spec.name ["topic"]
    <*> .required "partitionCount" (Codec.lenientNumber 32) Spec.partitionCount
        ["numPartitions"]
    <*> .required "replicationFactor" (Codec.lenientNumber 16) Spec.replicationFactor
    <*> .defaulted "waitForLeaders" Codec.lenientFlag false Spec.waitForLeaders
    <*> .defaulted "leaderWaitTimeoutMs" (Codec.lenientNumber 64) defaultLeaderWaitMs
        Spec.leaderWaitMs ["timeout"]
    <*> .defaulted "configEntries" (Codec.list (ConfigEntry.record.codec "TopicConfigEntry")) []
        Spec.configEntries

/-- Declarations as objects. -/
def codec : Codec Spec := record.codec "TopicSpec"

/-- A declaration with nothing but the counts. -/
def plain (name : String) (partitionCount replicationFactor : Nat) : Spec :=
  { name, partitionCount, replicationFactor
    waitForLeaders := false
    leaderWaitMs := defaultLeaderWaitMs
    configEntries := [] }

/-- Letters, digits, `.`, `_` and `-`. -/
def isNameChar (character : Char) : Bool :=
  character.isAlphanum || character == '.' || character == '_' || character == '-'

/-- Refuses bad names and empty counts. -/
def validate (spec : Spec) : Outcome Unit :=
  if spec.name == "" || spec.name == "." || spec.name == ".." then
    .error (.validation ("无效的 Topic 名称: '" ++ spec.name ++ "'"))
  else if longestName < spec.name.utf8ByteSize then
    .error (.validation
      ("Topic 名称长度不能超过 " ++ Number.decimal longestName ++ " 个字符"))
  else if !spec.name.toList.all isNameChar then
    .error (.validation ("Topic 名称只能包含字母、数字、'.'、'_' 和 '-': " ++ spec.name))
  else if spec.partitionCount == 0 then .error (.validation "分区数必须大于 0")
  else if spec.replicationFactor == 0 then .error (.validation "副本因子必须大于 0")
  else if spec.waitForLeaders && spec.leaderWaitMs == 0 then
    .error (.validation "等待 Leader 的超时时间必须大于 0")
  else .ok ()

end Spec

/-! ## Descriptions -/

/-- A partition as a broker describes it; without a leader it cannot be used yet. -/
structure Partition where
  partition : Int
  leader : Option Int
  replicas : List Int
  deriving DecidableEq, Repr

/-- The fields of a partition. -/
def Partition.record : Record Partition Partition :=
  Partition.mk
    <$> .required "partition" Codec.int32 Partition.partition
    <*> .nullable "leader" Codec.int32 Partition.leader
    <*> .required "replicas" (Codec.list Codec.int32) Partition.replicas

/-- A topic as a broker describes it. -/
structure Description where
  name : String
  partitions : List Partition
  deriving DecidableEq, Repr

namespace Description

/-- The fields of a description. -/
def record : Record Description Description :=
  Description.mk
    <$> .required "name" Codec.text Description.name
    <*> .required "partitions" (Codec.list (Partition.record.codec "PartitionMetadata"))
        Description.partitions

/-- Descriptions as objects. -/
def codec : Codec Description := record.codec "TopicDescription"

/-- The number of partitions, as a 32-bit number. -/
def partitionCount (description : Description) : Nat :=
  Number.wrapped 32 description.partitions.length

/-- The number of replicas of the first partition, as a 16-bit number. -/
def replicationFactor (description : Description) : Nat :=
  match description.partitions with
  | [] => 0
  | first :: _ => Number.wrapped 16 first.replicas.length

/-- The numbers of the partitions without a leader. -/
def leaderless (description : Description) : List Int :=
  (description.partitions.filter fun part => part.leader.isNone).map Partition.partition

end Description

end Provision.Topic
