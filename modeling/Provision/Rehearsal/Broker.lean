import Provision.Dialogue.Request

/-!
# A broker

The state of a broker as far as the administration protocol shows it, and what each call does to
it: every call happens at once, and a refused call changes nothing.  A new topic may take a while
until its partitions have leaders; the while is counted in descriptions of the topic.
-/

set_option autoImplicit false

namespace Provision.Rehearsal

open Dialogue (AdminCall)
open Session (AdminFailure AdminFailureKind)

/-- What a broker holds. -/
structure Broker where
  acls : List Acl.Entry := []
  topics : List Topic.Description := []
  /-- Topics without leaders, with the number of descriptions until they have some; without a
  number they never do. -/
  waiting : List (String × Option Nat) := []
  /-- The number that a new topic starts with. -/
  leaderDelay : Option Nat := some 0

namespace Broker

/-- The topic with a name. -/
def topic? (broker : Broker) (name : String) : Option Topic.Description :=
  broker.topics.find? fun topic => topic.name == name

/-- Forgets a topic. -/
def eraseTopic (broker : Broker) (name : String) : Broker :=
  { broker with topics := broker.topics.filter fun topic => topic.name != name }

/-- Puts a topic in the place of the one with its name, or adds it. -/
def putTopic (broker : Broker) (topic : Topic.Description) : Broker :=
  if (broker.topic? topic.name).isSome then
    { broker with
      topics := broker.topics.map fun other => if other.name == topic.name then topic else other }
  else { broker with topics := broker.topics ++ [topic] }

/-- Adds an entry unless it is there. -/
def putAcl (broker : Broker) (entry : Acl.Entry) : Broker :=
  if broker.acls.contains entry then broker else { broker with acls := broker.acls ++ [entry] }

/-- Notes how long a topic waits for leaders. -/
def putWaiting (broker : Broker) (name : String) (left : Option Nat) : Broker :=
  { broker with
    waiting := (name, left) :: broker.waiting.filter fun entry => entry.1 != name }

/-- The numbers of the brokers that hold a replica. -/
def replicas (count : Nat) : List Int :=
  (List.range count).map fun index => ((index + 1 : Nat) : Int)

/-- Partitions with the given numbers. -/
def partitions (first count replication : Nat) (leader : Option Int) : List Topic.Partition :=
  (List.range count).map fun index =>
    { partition := ((first + index : Nat) : Int), leader, replicas := replicas replication }

/-- Creates a topic; its partitions have leaders at once if the delay is zero. -/
def createTopic (broker : Broker) (spec : Topic.Spec) : Broker :=
  let leader : Option Int := if broker.leaderDelay == some 0 then some 1 else none
  let created := broker.putTopic
    { name := spec.name
      partitions := partitions 0 spec.partitionCount spec.replicationFactor leader }
  if broker.leaderDelay == some 0 then created
  else created.putWaiting spec.name broker.leaderDelay

/-- A topic in which the first replica of each partition leads. -/
def elected (topic : Topic.Description) : Topic.Description :=
  { topic with
    partitions := topic.partitions.map fun part => { part with leader := part.replicas.head? } }

/-- The broker after a topic has been waited for once more. -/
def awaited (broker : Broker) (name : String) : Broker :=
  match broker.waiting.find? fun entry => entry.1 == name with
  | none => broker
  | some (_, none) => broker
  | some (_, some (left + 1)) => broker.putWaiting name (some left)
  | some (_, some 0) =>
      let settled : Broker :=
        { broker with waiting := broker.waiting.filter fun entry => entry.1 != name }
      match settled.topic? name with
      | some topic => settled.putTopic (elected topic)
      | none => settled

/-- A refused call. -/
def refuse {α : Type} (kind : AdminFailureKind) (name : String) : Except AdminFailure α :=
  .error ⟨kind, name⟩

/-- Carries out a call: its result, and the broker after it. -/
def perform (broker : Broker) :
    (call : AdminCall) → Except AdminFailure call.Result × Broker
  | .createAcl entry => (.ok (), broker.putAcl entry)
  | .deleteAcls filter =>
      (.ok (broker.acls.filter filter.selects),
        { broker with acls := broker.acls.filter fun entry => !filter.selects entry })
  | .listAcls filter => (.ok (broker.acls.filter filter.selects), broker)
  | .createTopic spec =>
      if (broker.topic? spec.name).isSome then (refuse .topicAlreadyExists spec.name, broker)
      else (.ok (), broker.createTopic spec)
  | .createPartitions name total =>
      match broker.topic? name with
      | none => (refuse .unknownTopicOrPartition name, broker)
      | some topic =>
          let count := topic.partitions.length
          if total ≤ count then (refuse .invalidPartitions name, broker)
          else
            let added := partitions count (total - count) topic.replicationFactor (some 1)
            (.ok (), broker.putTopic { topic with partitions := topic.partitions ++ added })
  | .deleteTopic name =>
      match broker.topic? name with
      | none => (refuse .unknownTopicOrPartition name, broker)
      | some _ => (.ok (), broker.eraseTopic name)
  | .describePartitions name =>
      let after := broker.awaited name
      (.ok (after.topic? name), after)

end Broker

end Provision.Rehearsal
