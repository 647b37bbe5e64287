import Provision.Lifecycle.Handler
import Provision.Session.Handle

/-!
# The life of topics

The identifier of a topic is its name.  A topic that exists is confirmed if its counts are the
declared ones and is a conflict otherwise; partitions can be added but not taken away.  Where it
is asked for, the answer waits until every partition has a leader.
-/

set_option autoImplicit false

namespace Provision.Topic

open Dialogue (AdminCall)
open Lifecycle (Answer Event Handler)
open Session (Handle Opening TopicDeclaration openSession)

/-! ## Declarations -/

/-- Decodes and checks a declaration; where it names no time to wait for leaders, the settings
do. -/
def declaration (leaders : Settings.Leaders) (properties : Properties) :
    Outcome TopicDeclaration := do
  let given ← Event.decodeProperties TopicDeclaration.decode properties
  let declared :=
    if properties.contains "leaderWaitTimeoutMs" || properties.contains "timeout" then given
    else { given with spec := { given.spec with leaderWaitMs := leaders.waitMs } }
  declared.spec.validate
  let _ ← declared.session.validate
  pure declared

/-- What an answer tells of a topic. -/
def output (spec : Spec) : Properties :=
  [("topicName", .text spec.name), ("partitionCount", .whole spec.partitionCount),
    ("replicationFactor", .whole spec.replicationFactor)]

/-! ## Leaders -/

/-- The failure of waiting too long. -/
def noLeaders (spec : Spec) : Failure :=
  ⟨.timeout, "Topic " ++ spec.name ++ " 在 " ++ Number.decimal spec.leaderWaitMs
    ++ " 毫秒内未能为所有分区选出 Leader"⟩

/-- What an answer about partitions says about the wait: it is over, it has failed, or it goes
on. -/
def settled? (reply : Except Session.AdminFailure (Option Description)) :
    Option (Outcome Unit) :=
  match reply with
  | .ok (some description) =>
      if !description.partitions.isEmpty && description.leaderless.isEmpty then some (.ok ())
      else none
  | .ok none => none
  | .error refusal =>
      if refusal.toFailure.isTerminal then some (.error refusal.toFailure) else none

/-- Waits until every partition has a leader, asking again after every answer.  A question is
given up at its own limit or at the deadline, whichever is first; an answer that comes at the
deadline still counts.  `fuel` bounds the number of questions. -/
def awaitLeaders (interval : Nat) (handle : Handle) (spec : Spec) (deadline : Nat) :
    Nat → Flow Unit
  | 0 => throw (noLeaders spec)
  | fuel + 1 => ExceptT.mk do
      let asked ← Dialogue.now
      let budget := deadline - asked
      let call : AdminCall := .describePartitions spec.name
      let reply ← Dialogue.askWithin (min handle.requestMs budget)
        (.admin handle.cluster call) Dialogue.done
      let verdict :=
        match reply with
        | some answer => settled? answer
        | none => none
      match verdict with
      | some outcome => pure outcome
      | none =>
          let answered ← Dialogue.now
          let gaveUp := reply.isNone && decide (budget < handle.requestMs)
          if gaveUp || deadline < answered + interval then
            Dialogue.sleep (deadline - answered)
            pure (.error (noLeaders spec))
          else
            Dialogue.sleep interval
            (awaitLeaders interval handle spec deadline fuel).run

/-- Waits for leaders if the declaration asks for it. -/
def awaitLeadersIfAsked (leaders : Settings.Leaders) (handle : Handle) (spec : Spec) :
    Flow Unit := do
  if spec.waitForLeaders then
    let start ← ExceptT.lift Dialogue.now
    awaitLeaders leaders.intervalMs handle spec (start + spec.leaderWaitMs)
      (spec.leaderWaitMs + 2)

/-! ## Answers to events -/

/-- Describes a topic, if it exists. -/
def describe (handle : Handle) (name : String) : Flow (Option Description) :=
  handle.perform (.describePartitions name)

/-- A topic without partitions has not spread to all brokers yet. -/
def checkSpread (current : Description) : Outcome Unit :=
  if current.partitions.isEmpty then
    .error (.transient ("Topic " ++ current.name ++ " 的分区元数据尚未传播"))
  else .ok ()

/-- Confirms that an existing topic has the declared counts. -/
def confirm (spec : Spec) (current : Description) : Outcome Unit := do
  checkSpread current
  if current.partitionCount != spec.partitionCount
      || current.replicationFactor != spec.replicationFactor then
    throw (.conflict
      ("Topic " ++ spec.name ++ " 已存在，但分区数/副本因子为 "
        ++ Number.decimal current.partitionCount ++ "/"
        ++ Number.decimal current.replicationFactor ++ "，声明为 "
        ++ Number.decimal spec.partitionCount ++ "/"
        ++ Number.decimal spec.replicationFactor))

/-- Creates a topic that was not there; if another creation was faster, its result must be the
declared one. -/
def createAbsent (handle : Handle) (spec : Spec) : Flow Unit := do
  match ← ExceptT.lift (handle.request (.createTopic spec)) with
  | .ok _ => pure ()
  | .error refusal =>
      if refusal.kind == .topicAlreadyExists then
        match ← describe handle spec.name with
        | some current => Flow.ofOutcome (confirm spec current)
        | none => throw (.transient ("Topic " ++ spec.name ++ " 的元数据尚未传播"))
      else throw refusal.toFailure

/-- Answers a creation. -/
def create (opening : Opening) (leaders : Settings.Leaders) (event : Event) : Flow Answer := do
  let declared ← Flow.ofOutcome (declaration leaders event.properties)
  let spec := declared.spec
  let handle ← openSession opening declared.session
  match ← describe handle spec.name with
  | some current => Flow.ofOutcome (confirm spec current)
  | none => createAbsent handle spec
  awaitLeadersIfAsked leaders handle spec
  pure (Answer.complete spec.name (output spec))

/-- The failure of taking partitions away. -/
def fewerPartitions (name : String) (before after : Nat) : Failure :=
  .validation
    ("Topic " ++ name ++ " 的分区数不能减少: " ++ Number.decimal before ++ " -> "
      ++ Number.decimal after)

/-- What can be refused of an update without asking anyone. -/
def checkUpdate (event : Event) (spec : Spec) (physicalId : String) : Outcome Unit := do
  if spec.name != physicalId then
    throw (.conflict ("Topic 名称不可修改: " ++ physicalId ++ " -> " ++ spec.name))
  match ← event.declaredBefore TopicDeclaration.decode with
  | some old =>
      if spec.partitionCount < old.spec.partitionCount then
        throw (fewerPartitions spec.name old.spec.partitionCount spec.partitionCount)
  | none => pure ()

/-- Brings an existing topic to the declared number of partitions. -/
def grow (handle : Handle) (spec : Spec) (current : Description) : Flow Unit := do
  Flow.ofOutcome (checkSpread current)
  if current.replicationFactor != spec.replicationFactor then
    throw (.conflict
      ("Topic " ++ spec.name ++ " 的副本因子不可修改: "
        ++ Number.decimal current.replicationFactor ++ " -> "
        ++ Number.decimal spec.replicationFactor))
  if spec.partitionCount < current.partitionCount then
    throw (fewerPartitions spec.name current.partitionCount spec.partitionCount)
  if current.partitionCount < spec.partitionCount then
    let _ ← handle.perform (.createPartitions spec.name spec.partitionCount)

/-- Answers an update; a topic that is gone is created. -/
def update (opening : Opening) (leaders : Settings.Leaders) (event : Event)
    (physicalId : String) : Flow Answer := do
  let declared ← Flow.ofOutcome (declaration leaders event.properties)
  let spec := declared.spec
  Flow.ofOutcome (checkUpdate event spec physicalId)
  let handle ← openSession opening declared.session
  match ← describe handle spec.name with
  | none => create opening leaders event
  | some current =>
      grow handle spec current
      awaitLeadersIfAsked leaders handle spec
      pure (Answer.complete physicalId (output spec))

/-- Answers a deletion; a declaration that is not valid cannot have created anything. -/
def delete (opening : Opening) (leaders : Settings.Leaders) (event : Event)
    (physicalId : String) : Flow Answer := do
  match declaration leaders event.properties with
  | .error _ => pure (Answer.complete physicalId [])
  | .ok declared =>
      let handle ← openSession opening declared.session
      match ← describe handle physicalId with
      | none => pure (Answer.complete physicalId [])
      | some _ =>
          match ← ExceptT.lift (handle.request (.deleteTopic physicalId)) with
          | .ok _ => pure (Answer.complete physicalId [])
          | .error refusal =>
              if refusal.kind == .unknownTopicOrPartition then
                pure (Answer.complete physicalId [])
              else throw refusal.toFailure

/-- The name of the declared topic. -/
def physicalId (leaders : Settings.Leaders) (event : Event) : Outcome String :=
  event.idOr do
    let declared ← declaration leaders event.properties
    pure declared.spec.name

/-- Answers an event. -/
def respond (opening : Opening) (leaders : Settings.Leaders) (event : Event) : Flow Answer := do
  let id ← Flow.ofOutcome (physicalId leaders event)
  match event.request with
  | .create => create opening leaders event
  | .update => update opening leaders event id
  | .delete => delete opening leaders event id

/-- The handling of topics. -/
def handler (opening : Opening) (leaders : Settings.Leaders) : Handler :=
  .repeating (physicalId leaders) (respond opening leaders)

end Provision.Topic
