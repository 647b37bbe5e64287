import Provision.Proofs.Engine.Warrant
import Provision.Proofs.Topic.Recovery

/-!
# Topics keep their partitions

A topic loses partitions only by being deleted: every other call leaves it alone or appends to its
partitions (`Contents.retains_perform`). A handler deletes no topic but the one that a deletion
names, so a topic keeps its partitions through any events among which there is no deletion of it
(`retains_answered`).
-/

set_option autoImplicit false

namespace Provision

open Dialogue (AdminCall Request)
open Lifecycle (Answer Event ResourceKind)
open Rehearsal (Broker)
open Session (Brokers Contents after brokerService)

/-! ## Calls -/

namespace Session.Contents

variable {contents : Contents} {name : String} {partitions : List Topic.Partition}

/-- There is a topic with the name, and its partitions begin with the given ones. -/
def Retains (contents : Contents) (name : String) (partitions : List Topic.Partition) : Prop :=
  ∃ topic, contents.topic? name = some topic ∧ partitions <+: topic.partitions

theorem Retains.congr {other : Contents} (retains : contents.Retains name partitions)
    (same : other.topic? name = contents.topic? name) : other.Retains name partitions := by
  unfold Retains
  rw [same]
  exact retains

/-- A topic is created only where there is none, so the others are left alone. -/
theorem retains_createTopic (retains : contents.Retains name partitions) (spec : Topic.Spec) :
    (contents.perform (.createTopic spec)).2.Retains name partitions := by
  cases found : contents.topic? spec.name with
  | some other =>
      rw [perform_createTopic_refused found]
      exact retains
  | none =>
      have apart : name ≠ spec.name := by
        obtain ⟨topic, present, -⟩ := retains
        rintro rfl
        rw [found] at present
        cases present
      rw [perform_createTopic found]
      exact retains.congr (topic?_withTopic_of_ne apart contents)

/-- A topic that grows keeps the partitions that it has. -/
theorem retains_createPartitions (retains : contents.Retains name partitions) (other : String)
    (total : Nat) :
    (contents.perform (.createPartitions other total)).2.Retains name partitions := by
  cases found : contents.topic? other with
  | none =>
      have refused : (contents.perform (.createPartitions other total)).1 =
          .error ⟨.unknownTopicOrPartition, other⟩ := by
        unfold perform Broker.perform
        dsimp only
        rw [show contents.broker.topic? other = none from found]
        rfl
      rw [perform_refused refused]
      exact retains
  | some grows =>
      by_cases enough : total ≤ grows.partitions.length
      · rw [perform_createPartitions_refused found enough]
        exact retains
      · rw [perform_createPartitions found (Nat.lt_of_not_le enough)]
        have named : grows.name = other := name_eq_of_topic? found
        by_cases same : name = other
        · obtain ⟨topic, present, starts⟩ := retains
          subst same
          obtain rfl : grows = topic := Option.some.inj (found.symm.trans present)
          have there := topic?_withTopic contents (Topic.grown grows total)
          rw [show (Topic.grown grows total).name = name from named] at there
          exact ⟨_, there, starts.trans (List.prefix_append _ _)⟩
        · have apart : name ≠ (Topic.grown grows total).name := fun grew =>
            same (grew.trans named)
          exact retains.congr (topic?_withTopic_of_ne apart contents)

/-- A deletion leaves the topics with other names alone. -/
theorem retains_deleteTopic (retains : contents.Retains name partitions) {other : String}
    (apart : name ≠ other) :
    (contents.perform (.deleteTopic other)).2.Retains name partitions := by
  cases found : contents.topic? other with
  | none =>
      rw [perform_deleteTopic_refused found]
      exact retains
  | some gone =>
      rw [perform_deleteTopic found]
      exact retains.congr (topic?_withoutTopic_of_ne apart contents)

/-- Every call but the deletion of the topic leaves it alone or appends to its partitions. -/
theorem retains_perform (retains : contents.Retains name partitions) {call : AdminCall}
    (keeps : call ≠ .deleteTopic name) : (contents.perform call).2.Retains name partitions := by
  cases call with
  | createAcl entry =>
      refine retains.congr ?_
      show ((contents.broker.putAcl entry).topics.find? _) = _
      unfold Broker.putAcl
      split <;> rfl
  | deleteAcls filter => exact retains
  | listAcls filter => exact retains
  | describePartitions other => exact retains
  | createTopic spec => exact retains_createTopic retains spec
  | createPartitions other total => exact retains_createPartitions retains other total
  | deleteTopic other =>
      exact retains_deleteTopic retains fun same => keeps (same ▸ rfl)

end Session.Contents

/-! ## Events -/

namespace Topic

variable {replies : (request : Request) → request.Reply} {settings : Settings.Engine}
  {event : Event} {cluster : Cluster.Reference} {name : String} {partitions : List Partition}
  {brokers : Brokers}

/-- The event is a deletion of the topic with the name, declared on the cluster. -/
def Deletes (settings : Settings.Engine) (event : Event) (cluster : Cluster.Reference)
    (name : String) : Prop :=
  ResourceKind.ofName event.resourceType = .ok .topic ∧ event.request = .delete ∧
    (∃ spec, DeclaresOn settings.leaders event cluster spec) ∧
    Engine.physicalId settings event = .ok name

/-- What an event warrants deletes the topic only if the event is a deletion of it. -/
theorem retains_service {earlier : List Exchange} {request : Request}
    (undeleted : ¬ Deletes settings event cluster name)
    (warranted : Engine.Warranted settings event earlier request)
    (retains : (brokers cluster).Retains name partitions) :
    ((brokerService replies request brokers).2 cluster).Retains name partitions := by
  cases request with
  | admin other call =>
      show (after brokers other call cluster).Retains name partitions
      unfold after
      by_cases same : cluster = other
      · subst same
        rw [Function.update_self]
        refine Contents.retains_perform retains ?_
        rintro rfl
        obtain ⟨about, request, declares, named, -⟩ := warranted
        exact undeleted ⟨about, request, declares, named⟩
      · rw [Function.update_of_ne same]
        exact retains
  | _ => exact retains

/-- The answer to an event keeps the partitions of every topic that it does not delete. -/
theorem retains_respond (undeleted : ¬ Deletes settings event cluster name)
    (retains : (brokers cluster).Retains name partitions) :
    (((Engine.respond settings event).serve (brokerService replies) brokers).2
      cluster).Retains name partitions := by
  cases known : ResourceKind.ofName event.resourceType with
  | error failure =>
      have unrouted : Engine.route settings event = .error failure := by
        unfold Engine.route
        rw [known]
        rfl
      rw [Engine.respond_of_unrouted unrouted]
      exact retains
  | ok kind =>
      rw [Engine.serve_respond (Engine.route_of_ofName known)]
      have abides : ((Engine.handlerOf settings kind).respond event).Abides
          (Engine.Warranted settings event) [] := Engine.abides_respond known
      have kept : ∀ earlier request (state : Brokers),
          Engine.Warranted settings event earlier request →
          (state cluster).Retains name partitions →
          ((brokerService replies request state).2 cluster).Retains name partitions :=
        fun _ _ _ warranted kept => retains_service undeleted warranted kept
      exact Dialogue.Abides.keeps abides kept retains

/-- The brokers after the answers to events, one after the other. -/
def answeredAll (replies : (request : Request) → request.Reply) (settings : Settings.Engine)
    (events : List Event) (brokers : Brokers) : Brokers :=
  events.foldl
    (fun brokers event =>
      ((Engine.respond settings event).serve (brokerService replies) brokers).2)
    brokers

/-- Whatever events are answered, a topic keeps its partitions if none of them deletes it. -/
theorem retains_answeredAll {events : List Event}
    (undeleted : ∀ event ∈ events, ¬ Deletes settings event cluster name)
    (retains : (brokers cluster).Retains name partitions) :
    (answeredAll replies settings events brokers cluster).Retains name partitions := by
  induction events generalizing brokers with
  | nil => exact retains
  | cons event events ih =>
      obtain ⟨here, later⟩ := List.forall_mem_cons.mp undeleted
      exact ih later (retains_respond here retains)

end Topic

end Provision
