import Provision.Proofs.Session.Brokers
import Provision.Proofs.Topic.Declaration

/-!
# Topics on brokers

What the calls about topics do to the contents of a cluster. A created topic is described with the
declared counts (`shows_created`), and one that has been grown with the number of partitions it was
grown to and the replicas it had (`shows_grown`).
-/

set_option autoImplicit false

namespace Provision

open Dialogue (AdminCall)
open Rehearsal (Broker)
open Session (AdminFailure Brokers Contents after)

namespace Topic

/-! ## Descriptions -/

/-- The topic that is created from a declaration. -/
def created (spec : Spec) : Description :=
  { name := spec.name
    partitions := Broker.partitions 0 spec.partitionCount spec.replicationFactor (some 1) }

/-- The topic with more partitions, up to the total. -/
def grown (topic : Description) (total : Nat) : Description :=
  { topic with
    partitions := topic.partitions ++
      Broker.partitions topic.partitions.length (total - topic.partitions.length)
        topic.replicationFactor (some 1) }

/-- The description shows the declared counts. -/
structure Shows (spec : Spec) (current : Description) : Prop where
  spread : current.partitions ≠ []
  partitions : current.partitionCount = spec.partitionCount
  replicas : current.replicationFactor = spec.replicationFactor

variable {spec : Spec} {topic : Description} {total : Nat}

theorem length_partitions (first count replication : Nat) (leader : Option Int) :
    (Broker.partitions first count replication leader).length = count := by
  simp [Broker.partitions]

/-- A created topic shows the declared counts. -/
theorem shows_created (fits : spec.Fits) : Shows spec (created spec) := by
  obtain ⟨positive, partitions, replicas⟩ := fits
  have length : (created spec).partitions.length = spec.partitionCount :=
    length_partitions 0 spec.partitionCount spec.replicationFactor (some 1)
  refine ⟨List.ne_nil_of_length_pos (length ▸ positive), ?_, ?_⟩
  · unfold Description.partitionCount
    rw [length, Number.wrapped_of_lt partitions]
  · obtain ⟨fewer, more⟩ := Nat.exists_eq_succ_of_ne_zero (Nat.ne_of_gt positive)
    unfold created Description.replicationFactor Broker.partitions
    rw [more, List.range_succ_eq_map]
    simp only [List.map_cons, Broker.replicas, List.length_map, List.length_range]
    exact Number.wrapped_of_lt replicas

/-- A topic that has been grown has the total number of partitions. -/
theorem length_grown (fewer : topic.partitions.length ≤ total) :
    (grown topic total).partitions.length = total := by
  unfold grown
  rw [List.length_append, length_partitions]
  omega

/-- A topic that has been grown to the declared number of partitions shows the declared counts. -/
theorem shows_grown (fits : spec.Fits) (spread : topic.partitions ≠ [])
    (replicas : topic.replicationFactor = spec.replicationFactor)
    (more : topic.partitions.length < spec.partitionCount) :
    Shows spec (grown topic spec.partitionCount) := by
  obtain ⟨first, rest, same⟩ := List.exists_cons_of_ne_nil spread
  have length := length_grown (Nat.le_of_lt more)
  refine ⟨?_, ?_, ?_⟩
  · unfold grown
    rw [same]
    exact List.cons_ne_nil _ _
  · unfold Description.partitionCount
    rw [length, Number.wrapped_of_lt fits.partitions_lt]
  · rw [← replicas]
    unfold grown Description.replicationFactor
    simp only [same, List.cons_append]

end Topic

/-! ## Contents -/

namespace Session.Contents

variable {contents : Contents} {name : String} {spec : Topic.Spec} {topic : Topic.Description}

/-- The topic with a name. -/
def topic? (contents : Contents) (name : String) : Option Topic.Description :=
  contents.broker.topic? name

/-- The contents with a topic in the place of the one with its name, or beside the others. -/
def withTopic (contents : Contents) (topic : Topic.Description) : Contents :=
  { contents with topics := (contents.broker.putTopic topic).topics }

/-- The contents without a topic. -/
def withoutTopic (contents : Contents) (name : String) : Contents :=
  { contents with topics := contents.topics.filter fun topic => topic.name != name }

theorem find?_replace {topics : List Topic.Description}
    (present : (topics.find? fun other => other.name == topic.name).isSome = true) :
    (topics.map fun other => if other.name == topic.name then topic else other).find?
      (fun other => other.name == topic.name) = some topic := by
  induction topics with
  | nil => cases present
  | cons first rest ih =>
      cases here : first.name == topic.name with
      | true =>
          rw [List.map_cons, here, if_pos rfl, List.find?_cons, beq_self_eq_true]
      | false =>
          have later : (rest.find? fun other => other.name == topic.name).isSome = true := by
            rw [List.find?_cons, here] at present
            exact present
          rw [List.map_cons, here, if_neg Bool.false_ne_true, List.find?_cons, here]
          exact ih later

/-- A topic that has been put is found. -/
theorem topic?_withTopic (contents : Contents) (topic : Topic.Description) :
    (contents.withTopic topic).topic? topic.name = some topic := by
  show ((contents.broker.putTopic topic).topics.find? fun other => other.name == topic.name) = _
  unfold Broker.putTopic
  by_cases present : (contents.broker.topic? topic.name).isSome = true
  · rw [if_pos present]
    exact find?_replace present
  · rw [if_neg present]
    have absent : (contents.topics.find? fun other => other.name == topic.name) = none :=
      Option.not_isSome_iff_eq_none.mp present
    show ((contents.topics ++ [topic]).find? fun other => other.name == topic.name) = _
    rw [List.find?_append, absent, Option.none_or]
    simp

theorem find?_replace_of_ne (other : name ≠ topic.name) (topics : List Topic.Description) :
    (topics.map fun other => if other.name == topic.name then topic else other).find?
      (fun other => other.name == name) = topics.find? fun other => other.name == name := by
  induction topics with
  | nil => rfl
  | cons first rest ih =>
      rw [List.map_cons, List.find?_cons, List.find?_cons, ih]
      cases here : first.name == topic.name with
      | false => rw [if_neg Bool.false_ne_true]
      | true =>
          have apart : (topic.name == name) = false := beq_false_of_ne other.symm
          rw [if_pos rfl, beq_iff_eq.mp here, apart]

/-- The other topics are found as before. -/
theorem topic?_withTopic_of_ne (other : name ≠ topic.name) (contents : Contents) :
    (contents.withTopic topic).topic? name = contents.topic? name := by
  show ((contents.broker.putTopic topic).topics.find? fun other => other.name == name) = _
  unfold Broker.putTopic
  by_cases present : (contents.broker.topic? topic.name).isSome = true
  · rw [if_pos present]
    exact find?_replace_of_ne other contents.topics
  · rw [if_neg present]
    have apart : (topic.name == name) = false := beq_false_of_ne other.symm
    show ((contents.topics ++ [topic]).find? fun other => other.name == name) = _
    rw [List.find?_append, List.find?_singleton, apart, if_neg Bool.false_ne_true, Option.or_none]
    rfl

theorem topic?_withoutTopic (contents : Contents) (name : String) :
    (contents.withoutTopic name).topic? name = none := by
  show ((contents.topics.filter fun topic => topic.name != name).find?
    fun topic => topic.name == name) = none
  refine List.find?_eq_none.mpr ?_
  intro topic member same
  have other := (List.mem_filter.mp member).2
  rw [beq_iff_eq] at same
  simp [same] at other

theorem topic?_withoutTopic_of_ne {gone : String} (other : name ≠ gone) (contents : Contents) :
    (contents.withoutTopic gone).topic? name = contents.topic? name := by
  show ((contents.topics.filter fun topic => topic.name != gone).find?
    fun topic => topic.name == name) = contents.topics.find? fun topic => topic.name == name
  rw [List.find?_filter]
  congr 1
  funext topic
  cases same : topic.name == name with
  | false => simp
  | true =>
      rw [beq_iff_eq.mp same, bne_iff_ne.mpr other]
      rfl

theorem name_eq_of_topic? (present : contents.topic? name = some topic) : topic.name = name :=
  beq_iff_eq.mp (List.find?_some (p := fun topic : Topic.Description => topic.name == name) present)

/-! ## Calls -/

theorem perform_describePartitions (contents : Contents) (name : String) :
    contents.perform (.describePartitions name) =
      ((.ok (contents.topic? name) : Except AdminFailure (Option Topic.Description)), contents) :=
  rfl

theorem broker_putTopic (contents : Contents) (topic : Topic.Description) :
    contents.broker.putTopic topic = (contents.withTopic topic).broker := by
  unfold withTopic Broker.putTopic
  split <;> rfl

/-- A topic that is not there is created with the declared counts. -/
theorem perform_createTopic (absent : contents.topic? spec.name = none) :
    contents.perform (.createTopic spec) =
      ((.ok () : Except AdminFailure Unit), contents.withTopic (Topic.created spec)) := by
  have performed : contents.broker.perform (.createTopic spec) =
      ((.ok () : Except AdminFailure Unit), contents.broker.createTopic spec) := by
    have missing : (contents.broker.topic? spec.name).isSome = false := by
      rw [show contents.broker.topic? spec.name = none from absent]
      rfl
    show (if (contents.broker.topic? spec.name).isSome = true then _ else _) = _
    rw [missing]
    rfl
  have made : contents.broker.createTopic spec = (contents.withTopic (Topic.created spec)).broker :=
    broker_putTopic contents (Topic.created spec)
  unfold perform
  rw [performed, made]
  rfl

/-- A topic that is there is not created. -/
theorem perform_createTopic_refused (present : contents.topic? spec.name = some topic) :
    contents.perform (.createTopic spec) =
      ((.error ⟨.topicAlreadyExists, spec.name⟩ : Except AdminFailure Unit), contents) := by
  have performed : contents.broker.perform (.createTopic spec) =
      ((.error ⟨.topicAlreadyExists, spec.name⟩ : Except AdminFailure Unit), contents.broker) := by
    have found : (contents.broker.topic? spec.name).isSome = true := by
      rw [show contents.broker.topic? spec.name = some topic from present]
      rfl
    show (if (contents.broker.topic? spec.name).isSome = true then _ else _) = _
    rw [found]
    rfl
  unfold perform
  rw [performed]
  rfl

variable {total : Nat}

/-- A topic with fewer partitions is grown. -/
theorem perform_createPartitions (present : contents.topic? name = some topic)
    (more : topic.partitions.length < total) :
    contents.perform (.createPartitions name total) =
      ((.ok () : Except AdminFailure Unit), contents.withTopic (Topic.grown topic total)) := by
  have performed : contents.broker.perform (.createPartitions name total) =
      ((.ok () : Except AdminFailure Unit),
        contents.broker.putTopic (Topic.grown topic total)) := by
    unfold Broker.perform
    dsimp only
    rw [show contents.broker.topic? name = some topic from present]
    exact if_neg (Nat.not_le_of_lt more)
  unfold perform
  rw [performed, broker_putTopic]
  rfl

/-- A topic that has as many partitions is not grown. -/
theorem perform_createPartitions_refused (present : contents.topic? name = some topic)
    (enough : total ≤ topic.partitions.length) :
    contents.perform (.createPartitions name total) =
      ((.error ⟨.invalidPartitions, name⟩ : Except AdminFailure Unit), contents) := by
  have performed : contents.broker.perform (.createPartitions name total) =
      ((.error ⟨.invalidPartitions, name⟩ : Except AdminFailure Unit), contents.broker) := by
    unfold Broker.perform
    dsimp only
    rw [show contents.broker.topic? name = some topic from present]
    exact if_pos enough
  unfold perform
  rw [performed]
  rfl

theorem perform_deleteTopic (present : contents.topic? name = some topic) :
    contents.perform (.deleteTopic name) =
      ((.ok () : Except AdminFailure Unit), contents.withoutTopic name) := by
  have performed : contents.broker.perform (.deleteTopic name) =
      ((.ok () : Except AdminFailure Unit), (contents.withoutTopic name).broker) := by
    unfold Broker.perform
    dsimp only
    rw [show contents.broker.topic? name = some topic from present]
    rfl
  unfold perform
  rw [performed]
  rfl

/-- A topic that is not there is not deleted. -/
theorem perform_deleteTopic_refused (absent : contents.topic? name = none) :
    contents.perform (.deleteTopic name) =
      ((.error ⟨.unknownTopicOrPartition, name⟩ : Except AdminFailure Unit), contents) := by
  have performed : contents.broker.perform (.deleteTopic name) =
      ((.error ⟨.unknownTopicOrPartition, name⟩ : Except AdminFailure Unit), contents.broker) := by
    unfold Broker.perform
    dsimp only
    rw [show contents.broker.topic? name = none from absent]
    rfl
  unfold perform
  rw [performed]
  rfl

end Session.Contents

end Provision
