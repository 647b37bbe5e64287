import Provision.Proofs.Session.Calls
import Provision.Proofs.Topic.Growth
import Provision.Proofs.Topic.Retention

/-!
# What becomes of a topic

What an event makes of the topic that it identifies depends on the event, its declaration and the
topic as it is there (`Settles`). A creation makes a topic that is absent and confirms one that has
the declared counts. An update adds partitions up to the declared number and makes what is gone. A
deletion leaves no topic with the name. Everything else is refused and leaves the brokers as they
are: a topic under another name or with other replicas is a conflict, and taking partitions away is
not valid. Nothing but the identified topic changes (`Becomes`).

Each answer is worked out from one description and at most one call (`topics_settled`), and through
any events among which there is no deletion of it a topic keeps its partitions.

A broker counts partitions in 32 bits and replicas in 16, so this is about topics whose counts fit
(`Countable`).
-/

set_option autoImplicit false

namespace Provision

open Dialogue (Request)
open Lifecycle (Answer Event ResourceKind)
open Session (Brokers Contents Handle Opening TopicDeclaration brokerService openSession)

namespace Topic

/-! ## Counts -/

/-- The number of replicas of the first partition. -/
def Description.firstReplicas (topic : Description) : Nat :=
  match topic.partitions with
  | [] => 0
  | first :: _ => first.replicas.length

/-- There are partitions, and the counts fit the words that a broker counts in. -/
structure Countable (topic : Description) : Prop where
  spread : topic.partitions ≠ []
  partitions_lt : topic.partitions.length < Number.wordSize 32
  replicas_lt : topic.firstReplicas < Number.wordSize 16

variable {spec : Spec} {topic : Description}

theorem Countable.partitionCount_eq (countable : Countable topic) :
    topic.partitionCount = topic.partitions.length :=
  Number.wrapped_of_lt countable.partitions_lt

theorem Countable.replicationFactor_eq (countable : Countable topic) :
    topic.replicationFactor = topic.firstReplicas := by
  obtain ⟨first, rest, same⟩ := List.exists_cons_of_ne_nil countable.spread
  have small := countable.replicas_lt
  unfold Description.firstReplicas at small ⊢
  unfold Description.replicationFactor
  simp only [same] at small ⊢
  exact Number.wrapped_of_lt small

/-- The topic has the declared counts. -/
def Agrees (spec : Spec) (topic : Description) : Prop :=
  topic.partitions.length = spec.partitionCount ∧ topic.firstReplicas = spec.replicationFactor

/-- A topic that can be counted is described by its counts. -/
theorem Countable.shows_iff (countable : Countable topic) :
    Shows spec topic ↔ Agrees spec topic := by
  unfold Agrees
  rw [← countable.partitionCount_eq, ← countable.replicationFactor_eq]
  exact ⟨fun shows => ⟨shows.partitions, shows.replicas⟩,
    fun agrees => ⟨countable.spread, agrees.1, agrees.2⟩⟩

/-- The topic is the declared one, with the declared counts. -/
structure Made (spec : Spec) (topic : Description) : Prop where
  name : topic.name = spec.name
  partitions : topic.partitions.length = spec.partitionCount
  replicas : ∀ part ∈ topic.partitions, part.replicas.length = spec.replicationFactor

theorem made_created (spec : Spec) : Made spec (created spec) where
  name := rfl
  partitions := length_partitions 0 spec.partitionCount spec.replicationFactor (some 1)
  replicas := by
    intro part member
    obtain ⟨index, -, rfl⟩ := List.mem_map.mp member
    simp [Rehearsal.Broker.replicas]

/-- The topic has been added to, up to the total number of partitions. -/
structure Grows (total : Nat) (before after : Description) : Prop where
  name : after.name = before.name
  keeps : before.partitions <+: after.partitions
  partitions : after.partitions.length = total

theorem grows_grown {total : Nat} (fewer : topic.partitions.length < total) :
    Grows total topic (grown topic total) where
  name := rfl
  keeps := List.prefix_append _ _
  partitions := length_grown (Nat.le_of_lt fewer)

/-! ## What an event makes of a topic -/

/-- What an event with the declaration makes of the topic under the identifier, and its verdict. -/
inductive Settles (spec : Spec) (id : String) :
    Lifecycle.Request → Option Description → Outcome Answer → Option Description → Prop where
  /-- A creation or an update makes the topic. -/
  | made {request : Lifecycle.Request} {topic : Description} (changes : request ≠ .delete)
      (named : spec.name = id) (made : Made spec topic) :
      Settles spec id request none (.ok (Answer.complete id (output spec))) (some topic)
  | confirmed {topic : Description} (agrees : Agrees spec topic) :
      Settles spec id .create (some topic) (.ok (Answer.complete id (output spec))) (some topic)
  | contradicted {topic : Description} {failure : Failure} (differs : ¬ Agrees spec topic)
      (refused : failure.kind = .conflict) :
      Settles spec id .create (some topic) (.error failure) (some topic)
  | renamed {before : Option Description} {failure : Failure} (other : spec.name ≠ id)
      (refused : failure.kind = .conflict) :
      Settles spec id .update before (.error failure) before
  | rereplicated {topic : Description} {failure : Failure} (named : spec.name = id)
      (differs : topic.firstReplicas ≠ spec.replicationFactor)
      (refused : failure.kind = .conflict) :
      Settles spec id .update (some topic) (.error failure) (some topic)
  | shrunk {topic : Description} {failure : Failure} (named : spec.name = id)
      (replicas : topic.firstReplicas = spec.replicationFactor)
      (fewer : spec.partitionCount < topic.partitions.length)
      (refused : failure.kind = .validation) :
      Settles spec id .update (some topic) (.error failure) (some topic)
  | kept {topic : Description} (named : spec.name = id) (agrees : Agrees spec topic) :
      Settles spec id .update (some topic) (.ok (Answer.complete id (output spec))) (some topic)
  | grown {topic after : Description} (named : spec.name = id)
      (replicas : topic.firstReplicas = spec.replicationFactor)
      (more : topic.partitions.length < spec.partitionCount)
      (grows : Grows spec.partitionCount topic after) :
      Settles spec id .update (some topic) (.ok (Answer.complete id (output spec))) (some after)
  | deleted {before : Option Description} :
      Settles spec id .delete before (.ok (Answer.complete id [])) none

/-- The event settles the topic on the cluster, and changes nothing but the topic. -/
structure Becomes (spec : Spec) (id : String) (request : Lifecycle.Request)
    (cluster : Cluster.Reference) (brokers : Brokers) (verdict : Outcome Answer)
    (left : Brokers) : Prop where
  settles : Settles spec id request ((brokers cluster).topic? id) verdict
    ((left cluster).topic? id)
  others : ∀ name, name ≠ id → (left cluster).topic? name = (brokers cluster).topic? name
  acls : (left cluster).acls = (brokers cluster).acls
  elsewhere : ∀ other, other ≠ cluster → left other = brokers other
  /-- Where the topic is the same afterwards, everything is. -/
  unchanged : (left cluster).topic? id = (brokers cluster).topic? id → left = brokers

variable {id : String} {request : Lifecycle.Request} {cluster : Cluster.Reference}
  {brokers : Brokers} {verdict : Outcome Answer}

theorem becomes_same
    (settles : Settles spec id request ((brokers cluster).topic? id) verdict
      ((brokers cluster).topic? id)) :
    Becomes spec id request cluster brokers verdict brokers :=
  ⟨settles, fun _ _ => rfl, rfl, fun _ _ => rfl, fun _ => rfl⟩

/-- Putting another topic in the place of the one there changes nothing else. -/
theorem becomes_put (named : topic.name = id)
    (settles : Settles spec id request ((brokers cluster).topic? id) verdict (some topic))
    (changes : (brokers cluster).topic? id ≠ some topic) :
    Becomes spec id request cluster brokers verdict (put brokers cluster topic) := by
  subst named
  have there := topic?_put brokers cluster topic
  refine ⟨there.symm ▸ settles, ?_, ?_, ?_, ?_⟩
  · intro name other
    unfold put
    rw [Function.update_self, Contents.topic?_withTopic_of_ne other]
  · unfold put
    rw [Function.update_self]
    rfl
  · intro other apart
    exact Function.update_of_ne apart _ _
  · intro same
    exact absurd (same.symm.trans there) changes

theorem becomes_removed (present : (brokers cluster).topic? id = some topic) :
    Becomes spec id .delete cluster brokers (.ok (Answer.complete id []))
      (removed brokers cluster id) := by
  have gone := topic?_removed brokers cluster id
  refine ⟨gone.symm ▸ .deleted, ?_, ?_, ?_, ?_⟩
  · intro name other
    unfold removed
    rw [Function.update_self, Contents.topic?_withoutTopic_of_ne other]
  · unfold removed
    rw [Function.update_self]
    rfl
  · intro other apart
    exact Function.update_of_ne apart _ _
  · intro same
    rw [gone, present] at same
    cases same

/-! ## Refusals -/

/-- A topic with other counts than declared is a conflict. -/
theorem exists_conflict_of_confirm (spread : topic.partitions ≠ [])
    (differs : ¬ Shows spec topic) :
    ∃ failure, failure.kind = .conflict ∧ confirm spec topic = .error failure := by
  have full : topic.partitions.isEmpty = false := List.isEmpty_eq_false_iff.mpr spread
  have other : (topic.partitionCount != spec.partitionCount ||
      topic.replicationFactor != spec.replicationFactor) = true := by
    by_contra same
    simp only [Bool.or_eq_true, bne_iff_ne, not_or, not_not] at same
    exact differs ⟨spread, same.1, same.2⟩
  unfold confirm checkSpread
  rw [full, other]
  exact ⟨_, rfl, rfl⟩

theorem exists_conflict_of_grow (handle : Handle) (spread : topic.partitions ≠ [])
    (differs : topic.replicationFactor ≠ spec.replicationFactor) :
    ∃ failure, failure.kind = .conflict ∧
      grow handle spec topic = Flow.ofOutcome (.error failure) := by
  have full : topic.partitions.isEmpty = false := List.isEmpty_eq_false_iff.mpr spread
  unfold grow checkSpread
  rw [full, if_neg Bool.false_ne_true, Flow.ofOutcome_ok_bind, bne_iff_ne.mpr differs]
  exact ⟨_, rfl, rfl⟩

/-- Partitions are not taken away. -/
theorem exists_invalid_of_grow (handle : Handle) (spread : topic.partitions ≠ [])
    (replicas : topic.replicationFactor = spec.replicationFactor)
    (fewer : spec.partitionCount < topic.partitionCount) :
    ∃ failure, failure.kind = .validation ∧
      grow handle spec topic = Flow.ofOutcome (.error failure) := by
  have full : topic.partitions.isEmpty = false := List.isEmpty_eq_false_iff.mpr spread
  unfold grow checkSpread
  rw [full, if_neg Bool.false_ne_true, Flow.ofOutcome_ok_bind, replicas, bne_self_eq_false,
    if_neg Bool.false_ne_true, if_pos fewer]
  exact ⟨_, rfl, rfl⟩

/-! ## Answers -/

variable {replies : (request : Request) → request.Reply} {opening : Opening}
  {leaders : Settings.Leaders} {settings : Settings.Engine} {event : Event}
  {declared : TopicDeclaration} {handle : Handle}

theorem checkUpdate_eq_ok (named : spec.name = id) {before : Option TopicDeclaration}
    (told : event.declaredBefore TopicDeclaration.decode = .ok before)
    (unreduced : ∀ old ∈ before, old.spec.partitionCount ≤ spec.partitionCount) :
    checkUpdate event spec id = .ok () := by
  have kept : (spec.name != id) = false := by
    rw [named]
    exact bne_self_eq_false id
  unfold checkUpdate
  rw [kept, if_neg Bool.false_ne_true, told]
  cases before with
  | none => rfl
  | some old =>
      show (if spec.partitionCount < old.spec.partitionCount then _ else _) = _
      rw [if_neg (Nat.not_lt_of_le (unreduced old rfl))]
      rfl

/-- A topic that is not there is none of those that are made or grown. -/
theorem topic?_ne_of_absent (absent : (brokers cluster).topic? id = none) (topic : Description) :
    (brokers cluster).topic? id ≠ some topic := by
  rw [absent]
  exact nofun

/-- A creation makes the topic, confirms it or is in conflict with it. -/
theorem exists_becomes_create
    (declares : declaration leaders event.properties = .ok declared)
    (patient : declared.spec.waitForLeaders = false)
    (opened : ((openSession opening declared.session).serve (brokerService replies) brokers).1 =
      .ok handle)
    (countable : ∀ topic, (brokers handle.cluster).topic? declared.spec.name = some topic →
      Countable topic) :
    ∃ verdict left,
      Flow.Leaves (brokerService replies) (create opening leaders event) brokers verdict left ∧
      Becomes declared.spec declared.spec.name .create handle.cluster brokers verdict left := by
  rw [create_eq declares patient]
  cases found : (brokers handle.cluster).topic? declared.spec.name with
  | none =>
      refine ⟨_, _, Session.leaves_openSession_bind opened (Flow.leaves_bind
        (leaves_ensure_of_absent found) (Flow.leaves_ofOutcome (.ok _) _) (.inr rfl)), ?_⟩
      refine becomes_put rfl ?_ (topic?_ne_of_absent found _)
      rw [found]
      exact .made (by decide) rfl (made_created _)
  | some topic =>
      have counts := countable topic found
      have ensured : Flow.Leaves (brokerService replies) (ensure handle declared.spec) brokers
          (confirm declared.spec topic) brokers := leaves_ensure_of_present found
      by_cases agrees : Agrees declared.spec topic
      · rw [confirm_of_shows (counts.shows_iff.mpr agrees)] at ensured
        refine ⟨_, _, Session.leaves_openSession_bind opened (Flow.leaves_bind ensured
          (Flow.leaves_ofOutcome (.ok _) _) (.inl rfl)), becomes_same ?_⟩
        rw [found]
        exact .confirmed agrees
      · obtain ⟨failure, conflicts, refused⟩ :=
          exists_conflict_of_confirm counts.spread (mt counts.shows_iff.mp agrees)
        rw [refused] at ensured
        refine ⟨_, _, Session.leaves_openSession_bind opened (Flow.leaves_bind_error ensured),
          becomes_same ?_⟩
        rw [found]
        exact .contradicted agrees conflicts

/-- An update that is refused by what growing says leaves the brokers as they are. -/
theorem leaves_updateOn_of_refused {failure : Failure}
    (present : (brokers handle.cluster).topic? spec.name = some topic)
    (refused : grow handle spec topic = Flow.ofOutcome (.error failure)) :
    Flow.Leaves (brokerService replies) (updateOn opening leaders event handle spec) brokers
      (.error failure) brokers := by
  refine leaves_describe_bind ?_
  rw [present]
  dsimp only
  rw [refused]
  exact Flow.leaves_ofOutcome (.error _) _

/-- An update adds the partitions that are missing. -/
theorem leaves_updateOn_of_fewer (fits : spec.Fits)
    (present : (brokers handle.cluster).topic? spec.name = some topic)
    (spread : topic.partitions ≠ [])
    (replicas : topic.replicationFactor = spec.replicationFactor)
    (fewer : topic.partitions.length < spec.partitionCount) :
    Flow.Leaves (brokerService replies) (updateOn opening leaders event handle spec) brokers
      (.ok (Answer.complete spec.name (output spec)))
      (put brokers handle.cluster (grown topic spec.partitionCount)) := by
  have made := after_createPartitions present fewer
  have performed := congrArg Prod.fst (Contents.perform_createPartitions present fewer)
  refine leaves_describe_bind ?_
  rw [present]
  dsimp only
  rw [grow_of_fewer fits spread replicas fewer, Flow.bind_assoc]
  refine Session.leaves_perform_bind performed ?_ (.inr made.symm)
  rw [made]
  exact Flow.leaves_ofOutcome (.ok _) _

/-- What an update of a topic that is there comes to. -/
theorem exists_becomes_updateOn (fits : spec.Fits) (countable : Countable topic)
    (present : (brokers handle.cluster).topic? spec.name = some topic) :
    ∃ verdict left,
      Flow.Leaves (brokerService replies) (updateOn opening leaders event handle spec) brokers
        verdict left ∧
      Becomes spec spec.name .update handle.cluster brokers verdict left := by
  have counted := countable.partitionCount_eq
  by_cases replicas : topic.firstReplicas = spec.replicationFactor
  · have described := countable.replicationFactor_eq.trans replicas
    rcases Nat.lt_trichotomy spec.partitionCount topic.partitions.length with less | same | more
    · obtain ⟨failure, invalid, refused⟩ := exists_invalid_of_grow handle
        countable.spread described (counted.symm ▸ less)
      refine ⟨_, _, leaves_updateOn_of_refused present refused, becomes_same ?_⟩
      rw [present]
      exact .shrunk rfl replicas less invalid
    · have agrees : Agrees spec topic := ⟨same.symm, replicas⟩
      refine ⟨_, _, leaves_updateOn_of_shows present (countable.shows_iff.mpr agrees),
        becomes_same ?_⟩
      rw [present]
      exact .kept rfl agrees
    · have named : topic.name = spec.name := Contents.name_eq_of_topic? present
      refine ⟨_, _, leaves_updateOn_of_fewer fits present countable.spread described more,
        becomes_put named ?_ ?_⟩
      · rw [present]
        exact .grown rfl replicas more (grows_grown more)
      · -- The grown topic is longer than the one that was there.
        intro same
        have length := congrArg (fun topic => topic.partitions.length)
          (Option.some.inj (present.symm.trans same))
        exact Nat.ne_of_lt more (length.trans (length_grown (Nat.le_of_lt more)))
  · obtain ⟨failure, conflicts, refused⟩ := exists_conflict_of_grow handle
      countable.spread (countable.replicationFactor_eq.symm ▸ replicas)
    refine ⟨_, _, leaves_updateOn_of_refused present refused, becomes_same ?_⟩
    rw [present]
    exact .rereplicated rfl replicas conflicts

/-- The event is about a topic, its declaration is valid and waits for no leaders, its session opens
if it comes to that, and the topic that is there can be counted. An update declares no fewer
partitions than before, if it tells what was declared before. -/
structure Answerable (replies : (request : Request) → request.Reply) (settings : Settings.Engine)
    (event : Event) (declared : TopicDeclaration) (id : String) (cluster : Cluster.Reference)
    (brokers : Brokers) : Prop where
  about : ResourceKind.ofName event.resourceType = .ok .topic
  declares : declaration settings.leaders event.properties = .ok declared
  patient : declared.spec.waitForLeaders = false
  named : physicalId settings.leaders event = .ok id
  referred : declared.session.validate = .ok cluster
  /-- An update that renames the topic needs no session. -/
  opens : ¬ (event.request = .update ∧ declared.spec.name ≠ id) →
    ∃ handle, ((openSession (.ofSettings settings) declared.session).serve
      (brokerService replies) brokers).1 = .ok handle
  countable : ∀ topic, (brokers cluster).topic? id = some topic → Countable topic
  unreduced : event.request = .update →
    ∃ before, event.declaredBefore TopicDeclaration.decode = .ok before ∧
      ∀ old ∈ before, old.spec.partitionCount ≤ declared.spec.partitionCount

namespace Answerable

variable (answerable : Answerable replies settings event declared id cluster brokers)
include answerable

/-- The session opens, and it is one with the cluster. -/
theorem exists_opened (opens : ¬ (event.request = .update ∧ declared.spec.name ≠ id)) :
    ∃ handle, ((openSession (.ofSettings settings) declared.session).serve
        (brokerService replies) brokers).1 = .ok handle ∧ handle.cluster = cluster := by
  obtain ⟨handle, opened⟩ := answerable.opens opens
  exact ⟨handle, opened, Session.cluster_eq_of_opened answerable.referred opened⟩

theorem exists_becomes_of_create (asked : event.request = .create) :
    ∃ verdict left,
      Flow.Leaves (brokerService replies) (create (.ofSettings settings) settings.leaders event)
        brokers verdict left ∧
      Becomes declared.spec id .create cluster brokers verdict left := by
  obtain rfl := name_eq_of_create asked answerable.named answerable.declares
  obtain ⟨handle, opened, rfl⟩ := answerable.exists_opened fun renames => renames.2 rfl
  exact exists_becomes_create answerable.declares answerable.patient opened answerable.countable

theorem exists_becomes_of_update (asked : event.request = .update) :
    ∃ verdict left,
      Flow.Leaves (brokerService replies)
        (update (.ofSettings settings) settings.leaders event id) brokers verdict left ∧
      Becomes declared.spec id .update cluster brokers verdict left := by
  by_cases named : declared.spec.name = id
  · subst named
    obtain ⟨before, told, unreduced⟩ := answerable.unreduced asked
    obtain ⟨handle, opened, rfl⟩ := answerable.exists_opened fun renames => renames.2 rfl
    rw [update_eq answerable.declares answerable.patient (checkUpdate_eq_ok rfl told unreduced)]
    cases found : (brokers handle.cluster).topic? declared.spec.name with
    | none =>
        obtain ⟨outcome, steady⟩ : ∃ outcome, Flow.Steady (brokerService replies)
            (openSession (.ofSettings settings) declared.session) outcome :=
          Session.exists_steady_openSession _ _
        obtain rfl : outcome = .ok handle := by
          rw [← opened, (steady brokers).serves]
        refine ⟨_, _, Session.leaves_openSession_bind opened
          (leaves_updateOn_of_absent answerable.declares answerable.patient steady found), ?_⟩
        refine becomes_put rfl ?_ (topic?_ne_of_absent found _)
        rw [found]
        exact .made (by decide) rfl (made_created _)
    | some topic =>
        obtain ⟨verdict, left, leaves, becomes⟩ :=
          exists_becomes_updateOn (declaration_fits answerable.declares)
            (answerable.countable topic found) found
        exact ⟨verdict, left, Session.leaves_openSession_bind opened leaves, becomes⟩
  · obtain ⟨message, conflicts⟩ : ∃ message, checkUpdate event declared.spec id =
        .error (.conflict message) := exists_conflict_of_renamed named
    refine ⟨.error (.conflict message), brokers, ?_, becomes_same (.renamed named rfl)⟩
    unfold update
    rw [answerable.declares, Flow.ofOutcome_ok_bind]
    dsimp only
    rw [conflicts]
    exact Flow.leaves_ofOutcome (.error _) _

theorem exists_becomes_of_delete (asked : event.request = .delete) :
    ∃ verdict left,
      Flow.Leaves (brokerService replies)
        (delete (.ofSettings settings) settings.leaders event id) brokers verdict left ∧
      Becomes declared.spec id .delete cluster brokers verdict left := by
  obtain ⟨handle, opened, rfl⟩ := answerable.exists_opened fun renames => by
    rw [asked] at renames
    cases renames.1
  unfold delete
  rw [answerable.declares]
  cases found : (brokers handle.cluster).topic? id with
  | none =>
      refine ⟨_, _, Session.leaves_openSession_bind opened (leaves_deleteOn_of_absent found),
        becomes_same ?_⟩
      rw [found]
      exact .deleted
  | some topic =>
      exact ⟨_, _, Session.leaves_openSession_bind opened (leaves_deleteOn_of_present found),
        becomes_removed found⟩

/-- The answer of the handler settles the topic. -/
theorem exists_becomes :
    ∃ verdict left,
      (respond (.ofSettings settings) settings.leaders event).serve (brokerService replies)
        brokers = (verdict, left) ∧
      Becomes declared.spec id event.request cluster brokers verdict left := by
  unfold respond
  rw [answerable.named, Flow.ofOutcome_ok_bind]
  cases asked : event.request with
  | create =>
      obtain ⟨verdict, left, leaves, becomes⟩ := answerable.exists_becomes_of_create asked
      exact ⟨verdict, left, leaves.serves, becomes⟩
  | update =>
      obtain ⟨verdict, left, leaves, becomes⟩ := answerable.exists_becomes_of_update asked
      exact ⟨verdict, left, leaves.serves, becomes⟩
  | delete =>
      obtain ⟨verdict, left, leaves, becomes⟩ := answerable.exists_becomes_of_delete asked
      exact ⟨verdict, left, leaves.serves, becomes⟩

end Answerable

/-- No verdict on a topic is for now only, so the caller is told what the handler says. -/
theorem Settles.answered_eq {handler : Lifecycle.Handler} {before after : Option Description}
    (settles : Settles spec id request before verdict after) :
    Engine.answered handler event verdict = verdict := by
  cases verdict with
  | ok answer => rfl
  | error failure =>
      refine Engine.answered_of_terminal ?_
      unfold Failure.isTransient
      cases settles <;> simp_all

/-- **An event about a topic settles that topic and nothing else**: absent, it is made with the
declared counts or stays away; present, it is confirmed, grown to the declared number of partitions,
deleted, or kept as it is with the refusal that fits. **Whatever events are answered, a topic keeps
its partitions if none of them deletes it**, so their number never falls. -/
theorem topics_settled (replies : (request : Request) → request.Reply)
    (settings : Settings.Engine) :
    (∀ {event declared id cluster brokers},
      Answerable replies settings event declared id cluster brokers →
      ∃ verdict left,
        (Engine.respond settings event).serve (brokerService replies) brokers = (verdict, left) ∧
        Becomes declared.spec id event.request cluster brokers verdict left) ∧
    ∀ {events cluster name brokers topic}, (brokers cluster).topic? name = some topic →
      (∀ event ∈ events, ¬ Deletes settings event cluster name) →
      ∃ later, (answeredAll replies settings events brokers cluster).topic? name = some later ∧
        topic.partitions <+: later.partitions := by
  refine ⟨fun answerable => ?_, fun present undeleted => ?_⟩
  · obtain ⟨verdict, left, serves, becomes⟩ := answerable.exists_becomes
    refine ⟨verdict, left, ?_, becomes⟩
    rw [Engine.serve_respond (Engine.route_of_ofName answerable.about)]
    show (Engine.answered _ _ ((respond _ _ _).serve _ _).1, ((respond _ _ _).serve _ _).2) = _
    rw [serves, becomes.settles.answered_eq]
  · exact retains_answeredAll undeleted ⟨_, present, List.prefix_refl _⟩

/-- The update that adds a partition can be answered. -/
theorem answerable_expansion :
    Answerable Session.reachable {} expansion twoOrders "orders" Session.streaming ordersOnly where
  about := expands_expansion.kind
  declares := expands_expansion.decoded
  patient := rfl
  named := expands_expansion.named
  referred := by decide +kernel
  opens := fun _ => ⟨streamingHandle, opened_streaming⟩
  countable := by
    intro topic present
    obtain rfl := Option.some.inj (expands_expansion.present.symm.trans present)
    exact ⟨by decide, by decide +kernel, by decide +kernel⟩
  unreduced := fun _ => ⟨none, rfl, nofun⟩

/-- The topic grows to two partitions and stays that way when the update is answered again. -/
theorem topics_settled_expansion :
    ∃ left after,
      (Engine.respond {} expansion).serve (brokerService Session.reachable) ordersOnly =
        (.ok (Answer.complete "orders" (output twoOrders.spec)), left) ∧
      (left Session.streaming).topic? "orders" = some after ∧ Grows 2 orders after ∧
      ∃ later, (answeredAll Session.reachable {} [expansion, expansion] left
          Session.streaming).topic? "orders" = some later ∧
        after.partitions <+: later.partitions := by
  obtain ⟨verdict, left, serves, becomes⟩ :=
    (topics_settled Session.reachable {}).1 answerable_expansion
  have settles : Settles twoOrders.spec "orders" .update (some orders) verdict
      ((left Session.streaming).topic? "orders") := becomes.settles
  cases there : (left Session.streaming).topic? "orders" with
  | none =>
      rw [there] at settles
      cases settles
  | some after =>
      rw [there] at settles
      cases settles with
      | renamed other _ => exact absurd rfl other
      | rereplicated _ differs _ => exact absurd rfl differs
      | shrunk _ _ fewer _ => exact absurd fewer (by decide)
      | kept _ agrees => exact absurd agrees.1 (by decide)
      | grown _ _ _ grows =>
          refine ⟨left, after, serves, there, grows, ?_⟩
          refine (topics_settled Session.reachable {}).2 there fun event member deletes => ?_
          simp only [List.mem_cons, List.not_mem_nil, or_false, or_self] at member
          subst member
          exact nomatch deletes.2.1

end Topic

end Provision
