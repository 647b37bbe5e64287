import Provision.Proofs.Engine.Run
import Provision.Proofs.Session.Recovery
import Provision.Proofs.Topic.Interference

/-!
# Topics that are grown side by side

An update that adds partitions first describes the topic and then asks for the declared number. If
another update has grown the topic in between, the broker refuses the call, and unlike a creation or
a deletion the update does not look again: the refusal fails it.

So when several invocations answer one such update, the topic is grown once, to the declared number
of partitions. The invocation that grows it completes, and each of the others completes or is
refused depending on when it described the topic (`expansions_complete_or_refused`). It is not true
that all of them complete (`expansion_overtaken`).
-/

set_option autoImplicit false

namespace Provision.Topic

open Dialogue (Concludes Request)
open Lifecycle (Answer Event ResourceKind)
open Session (AdminFailure Brokers Contents Handle Opening TopicDeclaration after brokerService
  openSession)

variable {replies : (request : Request) → request.Reply} {settings : Settings.Engine}
  {opening : Opening} {leaders : Settings.Leaders} {event : Event} {brokers : Brokers}
  {declared : TopicDeclaration} {handle : Handle} {spec : Spec} {current : Description}

/-! ## Growth by one call -/

/-- A topic with fewer partitions than declared is grown by one call. -/
theorem grow_of_fewer (fits : spec.Fits) (spread : current.partitions ≠ [])
    (replicas : current.replicationFactor = spec.replicationFactor)
    (fewer : current.partitions.length < spec.partitionCount) :
    grow handle spec current =
      handle.perform (.createPartitions spec.name spec.partitionCount) >>= fun _ => pure () := by
  have counted : current.partitionCount = current.partitions.length :=
    Number.wrapped_of_lt (Nat.lt_trans fewer fits.partitions_lt)
  have full : current.partitions.isEmpty = false := List.isEmpty_eq_false_iff.mpr spread
  unfold grow checkSpread
  rw [full, if_neg Bool.false_ne_true, Flow.ofOutcome_ok_bind, replicas, bne_self_eq_false,
    if_neg Bool.false_ne_true, counted, if_neg (Nat.lt_asymm fewer), if_pos fewer]

/-- What an update that adds partitions ends with when others may have added them before: it
completes, or it is refused. -/
def CompletesOrRefused (spec : Spec) (outcome : Outcome Answer) : Prop :=
  outcome = .ok (Answer.complete spec.name (output spec)) ∨
    outcome = .error (AdminFailure.toFailure ⟨.invalidPartitions, spec.name⟩)

/-- Whatever others have added meanwhile, the topic has the declared number of partitions as soon as
an update ends. -/
theorem withstands_updateOn (fits : spec.Fits)
    (present : (brokers handle.cluster).topic? spec.name = some current)
    (spread : current.partitions ≠ [])
    (replicas : current.replicationFactor = spec.replicationFactor)
    (fewer : current.partitions.length < spec.partitionCount) {found : Brokers}
    (moved : Moves (· = put brokers handle.cluster (grown current spec.partitionCount)) brokers
      found) :
    Flow.Withstands (brokerService replies)
      (· = put brokers handle.cluster (grown current spec.partitionCount))
      (fun outcome left => CompletesOrRefused spec outcome ∧
        left = put brokers handle.cluster (grown current spec.partitionCount))
      (updateOn opening leaders event handle spec) found := by
  have there := topic?_put_grown (Contents.name_eq_of_topic? present) brokers handle.cluster
    spec.partitionCount
  refine withstands_describe_bind fun later more => ?_
  rcases moved.trans more with rfl | rfl
  · rw [present]
    dsimp only
    rw [grow_of_fewer fits spread replicas fewer, Flow.bind_assoc, Session.perform_bind]
    refine Session.withstands_request_bind fun last again => ?_
    rcases again with rfl | rfl
    · rw [after_createPartitions present fewer, Contents.perform_createPartitions present fewer]
      exact ⟨.inr rfl, .inl rfl, rfl⟩
    · -- Another update has been faster, and nothing is left to be added.
      have refused := congrArg Prod.fst (Contents.perform_createPartitions_refused there
        (length_grown (Nat.le_of_lt fewer)).ge)
      rw [Session.after_of_refused refused, refused]
      exact ⟨.refl _ _, .inr rfl, rfl⟩
  · rw [there]
    dsimp only
    rw [grow_of_shows (shows_grown fits spread replicas fewer)]
    exact ⟨.inl rfl, rfl⟩

/-! ## Updates end with what they change -/

theorem culminates_describe_bind {β : Type} {name : String}
    {follow : Option Description → Flow β}
    (follows : ∀ found, Flow.Culminates (brokerService replies) (follow found)) :
    Flow.Culminates (brokerService replies) (describe handle name >>= follow) :=
  Session.culminates_lookup_bind (fun found => after_describePartitions found handle.cluster name)
    follows

theorem culminates_ensure (handle : Handle) (spec : Spec) :
    Flow.Culminates (brokerService replies) (ensure handle spec) := by
  refine culminates_describe_bind fun there => ?_
  cases there with
  | some current => exact Flow.culminates_ofOutcome _
  | none =>
      refine Session.culminates_request_bind (fun _ => ⟨(), rfl⟩) fun refusal => ?_
      dsimp only
      split
      · refine culminates_describe_bind fun again => ?_
        cases again with
        | some current => exact Flow.culminates_ofOutcome _
        | none => exact Flow.culminates_ofOutcome (.error _)
      · exact Flow.culminates_ofOutcome (.error _)

theorem culminates_grow (handle : Handle) (spec : Spec) (current : Description) :
    Flow.Culminates (brokerService replies) (grow handle spec current) := by
  rcases grow_cases handle spec current with ⟨failure, same⟩ | ⟨-, same⟩ | ⟨-, -, same⟩
  · rw [same]
    exact Flow.culminates_ofOutcome _
  · rw [same]
    exact Flow.culminates_ofOutcome (.ok ())
  · rw [same]
    exact Session.culminates_perform_bind_pure

/-- An update changes the brokers at most in its last turn, and then it succeeds. -/
theorem culminates_updateOn (decoded : declaration leaders event.properties = .ok declared)
    (patient : declared.spec.waitForLeaders = false) :
    Flow.Culminates (brokerService replies)
      (updateOn opening leaders event handle declared.spec) := by
  refine culminates_describe_bind fun there => ?_
  cases there with
  | some current => exact Flow.culminates_bind_pure (culminates_grow handle declared.spec current)
  | none =>
      show Flow.Culminates _ (create opening leaders event)
      rw [create_eq decoded patient]
      obtain ⟨outcome, unaffected⟩ : ∃ outcome, Flow.Unaffected (brokerService replies)
          (openSession opening declared.session) outcome :=
        Session.exists_unaffected_openSession opening declared.session
      exact Flow.culminates_bind_of_unaffected unaffected fun handle _ =>
        Flow.culminates_bind_pure (culminates_ensure handle declared.spec)

/-! ## Several updates -/

/-- The event is a valid update of a topic that is there, can be reached and has fewer partitions
than declared, but the declared number of replicas. -/
structure Expands (replies : (request : Request) → request.Reply) (settings : Settings.Engine)
    (event : Event) (brokers : Brokers) (declared : TopicDeclaration) (handle : Handle)
    (current : Description) : Prop where
  kind : ResourceKind.ofName event.resourceType = .ok .topic
  asked : event.request = .update
  decoded : declaration settings.leaders event.properties = .ok declared
  named : physicalId settings.leaders event = .ok declared.spec.name
  allowed : checkUpdate event declared.spec declared.spec.name = .ok ()
  patient : declared.spec.waitForLeaders = false
  opened : ((openSession (.ofSettings settings) declared.session).serve (brokerService replies)
    brokers).1 = .ok handle
  present : (brokers handle.cluster).topic? declared.spec.name = some current
  spread : current.partitions ≠ []
  replicas : current.replicationFactor = declared.spec.replicationFactor
  fewer : current.partitions.length < declared.spec.partitionCount

namespace Expands

/-- The invocation opens its session and then updates the topic. -/
theorem respond_run (expands : Expands replies settings event brokers declared handle current) :
    (Engine.respond settings event).run =
      (openSession (.ofSettings settings) declared.session >>= fun handle =>
        updateOn (.ofSettings settings) settings.leaders event handle declared.spec).run.bind
          fun outcome => .done
            (Engine.answered (Topic.handler (.ofSettings settings) settings.leaders) event
              outcome) := by
  have handles : (Topic.handler (.ofSettings settings) settings.leaders).respond event =
      openSession (.ofSettings settings) declared.session >>= fun handle =>
        updateOn (.ofSettings settings) settings.leaders event handle declared.spec := by
    show Topic.respond _ _ event = _
    unfold Topic.respond
    rw [expands.named, Flow.ofOutcome_ok_bind, expands.asked]
    exact update_eq expands.decoded expands.patient expands.allowed
  rw [Engine.respond_run (Engine.route_of_ofName expands.kind)]
  exact congrArg (fun flow : Flow Answer => flow.run.bind _) handles

theorem unaffected (expands : Expands replies settings event brokers declared handle current) :
    Flow.Unaffected (brokerService replies) (openSession (.ofSettings settings) declared.session)
      (.ok handle) := by
  obtain ⟨outcome, unaffected⟩ : ∃ outcome, Flow.Unaffected (brokerService replies)
      (openSession (.ofSettings settings) declared.session) outcome :=
    Session.exists_unaffected_openSession _ _
  have same : outcome = .ok handle := by
    rw [← expands.opened, (unaffected.steady brokers).serves]
  rwa [same] at unaffected

theorem withstands (expands : Expands replies settings event brokers declared handle current) :
    (Engine.respond settings event).run.Withstands (brokerService replies)
      (· = put brokers handle.cluster (grown current declared.spec.partitionCount))
      (fun outcome left => CompletesOrRefused declared.spec outcome ∧
        left = put brokers handle.cluster (grown current declared.spec.partitionCount))
      brokers := by
  rw [expands.respond_run]
  refine Dialogue.Withstands.bind (Flow.withstands_bind_of_unaffected expands.unaffected
    fun found moved => withstands_updateOn (declaration_fits expands.decoded) expands.present
      expands.spread expands.replicas expands.fewer moved) ?_
  rintro outcome left ⟨rfl | rfl, same⟩
  · exact ⟨.inl rfl, same⟩
  · exact ⟨.inr (Engine.answered_of_terminal rfl), same⟩

theorem culminates (expands : Expands replies settings event brokers declared handle current) :
    (Engine.respond settings event).run.Culminates (brokerService replies)
      fun outcome => ∃ answer, outcome = .ok answer := by
  rw [expands.respond_run]
  refine Dialogue.Culminates.bind_done (Flow.culminates_bind_of_unaffected expands.unaffected
    fun handle _ => culminates_updateOn expands.decoded expands.patient) ?_
  rintro outcome ⟨answer, rfl⟩
  exact ⟨answer, rfl⟩

/-- A topic with too few partitions is not yet the one that has been grown. -/
theorem put_ne (expands : Expands replies settings event brokers declared handle current) :
    put brokers handle.cluster (grown current declared.spec.partitionCount) ≠ brokers := by
  intro same
  have there := topic?_put_grown (Contents.name_eq_of_topic? expands.present) brokers
    handle.cluster declared.spec.partitionCount
  rw [same, expands.present] at there
  have length := length_grown (Nat.le_of_lt expands.fewer)
  rw [← Option.some.inj there] at length
  exact Nat.ne_of_lt expands.fewer length

end Expands

/-- **However the calls of several updates are interleaved, each update completes or is refused
because another one has been faster, one of them completes, and the topic ends with the declared
number of partitions.** -/
theorem expansions_complete_or_refused {n : Nat} (some : 0 < n)
    (expands : Expands replies settings event brokers declared handle current) :
    Concludes (brokerService replies)
      (fun outcomes left =>
        (∀ number, CompletesOrRefused declared.spec (outcomes number)) ∧
        (∃ number, outcomes number =
          .ok (Answer.complete declared.spec.name (output declared.spec))) ∧
        left = put brokers handle.cluster (grown current declared.spec.partitionCount) ∧
        (grown current declared.spec.partitionCount).partitions.length =
          declared.spec.partitionCount)
      (fun _ : Fin n => (Engine.respond settings event).run) brokers := by
  refine (Dialogue.concludes_of_culminates some (fun _ => expands.withstands)
    fun _ => expands.culminates).mono ?_
  rintro outcomes left ⟨each, ⟨last, -, same⟩, changed⟩
  have ends : ∀ number, CompletesOrRefused declared.spec (outcomes number) :=
    fun number => (each number).choose_spec.1
  refine ⟨ends, ?_, same, length_grown (Nat.le_of_lt expands.fewer)⟩
  rcases changed with nothing | ⟨number, answer, succeeded⟩
  · exact absurd (same.symm.trans nothing) expands.put_ne
  · refine ⟨number, (ends number).resolve_right ?_⟩
    rw [succeeded]
    exact nofun

/-! ## An update that is overtaken -/

/-- A topic is to have two partitions. -/
def expansion : Event :=
  { request := .update
    resourceType := "Topic"
    properties :=
      [("clusterArn", .text "arn:aws:kafka:eu-west-1:1:cluster/streaming/7"),
        ("secretName", .text "client"), ("name", .text "orders"), ("partitionCount", .whole 2),
        ("replicationFactor", .whole 1)]
    oldProperties := none
    physicalId := some "orders" }

/-- The declaration of the event. -/
def twoOrders : TopicDeclaration :=
  { session :=
      { clusterArn := "arn:aws:kafka:eu-west-1:1:cluster/streaming/7"
        secretName := "client"
        logLevel := none }
    spec := Spec.plain "orders" 2 1 }

/-- The topic with its only partition. -/
def orders : Description := ⟨"orders", [⟨0, some 1, [1]⟩]⟩

/-- Every cluster holds the topic. -/
def ordersOnly : Brokers := fun _ => ⟨[], [orders]⟩

/-- The session with the cluster of the topic. -/
def streamingHandle : Handle :=
  { cluster := Session.streaming
    brokers := Rehearsal.World.usualCluster.endpoints
    requestMs := 30000 }

theorem opened_streaming :
    ((openSession (.ofSettings {}) twoOrders.session).serve (brokerService Session.reachable)
      ordersOnly).1 = .ok streamingHandle := by
  have parts : ((openSession (.ofSettings {}) twoOrders.session).serve
      (brokerService Session.reachable) ordersOnly).1.map
        (fun handle => (handle.cluster, handle.brokers, handle.requestMs)) =
      .ok (streamingHandle.cluster, streamingHandle.brokers, streamingHandle.requestMs) := by
    decide +kernel
  generalize ((openSession (.ofSettings {}) twoOrders.session).serve
    (brokerService Session.reachable) ordersOnly).1 = opened at parts
  cases opened with
  | error failure => cases parts
  | ok handle =>
      cases handle
      cases parts
      rfl

theorem expands_expansion :
    Expands Session.reachable {} expansion ordersOnly twoOrders streamingHandle orders where
  kind := by decide +kernel
  asked := rfl
  decoded := by decide +kernel
  named := by decide +kernel
  allowed := by decide +kernel
  patient := rfl
  opened := opened_streaming
  present := by decide +kernel
  spread := by decide
  replicas := by decide +kernel
  fewer := by decide

/-- Of three invocations one completes, and the topic ends with two partitions. -/
theorem expansions_complete_or_refused_orders :
    0 < 3 ∧ Expands Session.reachable {} expansion ordersOnly twoOrders streamingHandle orders ∧
      Concludes (brokerService Session.reachable)
        (fun outcomes left =>
          (∃ number, outcomes number =
            .ok (Answer.complete "orders" (output twoOrders.spec))) ∧
          ((left Session.streaming).topic? "orders").map Description.partitionCount = some 2)
        (fun _ : Fin 3 => (Engine.respond {} expansion).run) ordersOnly := by
  have twice : ((put ordersOnly Session.streaming (grown orders 2) Session.streaming).topic?
      "orders").map Description.partitionCount = some 2 := by decide +kernel
  refine ⟨by decide, expands_expansion, ?_⟩
  refine (expansions_complete_or_refused (by decide) expands_expansion).mono ?_
  rintro outcomes left ⟨-, completed, same, -⟩
  refine ⟨completed, ?_⟩
  rw [same]
  exact twice

/-- The turns of two invocations: both describe the topic, and then both ask for the partitions. -/
def overtaking : List (Fin 2) := [0, 0, 0, 0, 1, 1, 1, 1, 0, 1]

/-- **It is not true that both invocations complete**: the second one is refused after the first one
has grown the topic that both have described. -/
theorem expansion_overtaken :
    Expands Session.reachable {} expansion ordersOnly twoOrders streamingHandle orders ∧
      ¬ Concludes (brokerService Session.reachable)
        (fun outcomes left =>
          (∀ number, ∃ answer, outcomes number = .ok answer ∧ answer.isComplete = true) ∧
          ((left Session.streaming).topic? "orders").map Description.partitionCount = some 2)
        (fun _ : Fin 2 => (Engine.respond {} expansion).run) ordersOnly := by
  refine ⟨expands_expansion, fun concludes => ?_⟩
  have ended : ∀ number, ((Dialogue.playOut (brokerService Session.reachable) overtaking
      (fun _ => (Engine.respond {} expansion).run) ordersOnly).1 number).value?.isSome := by
    decide +kernel
  have refused : (((Dialogue.playOut (brokerService Session.reachable) overtaking
      (fun _ => (Engine.respond {} expansion).run) ordersOnly).1 1).value?.map
        fun outcome => outcome.map Answer.physicalId) =
      some (.error ⟨.validation, "InvalidPartitions: orders"⟩) := by decide +kernel
  obtain ⟨outcomes, same, complete, -⟩ := concludes.exists_values overtaking ended
  obtain ⟨answer, completed, -⟩ := complete 1
  rw [same 1, completed] at refused
  cases refused

end Provision.Topic
