import Mathlib.Logic.Function.Basic
import Provision.Proofs.Dialogue.Service
import Provision.Rehearsal.Broker
import Provision.Session.Handle

/-!
# Brokers as a service

Every cluster holds entries and topics, and a call is carried out at once on what its cluster
holds. The control plane and the store of secrets always reply the same. Topics have leaders as
soon as they exist, so describing one changes nothing.

Opening a session changes nothing and depends on the fixed replies alone
(`exists_unaffected_openSession`), and a refused call changes nothing either (`after_of_refused`). A
call within a session is one exchange, after which the flow goes on with the answer
(`leaves_request_bind`), and a call whose answer is lost fails the flow unless its continuation
catches that (`fragile_request_bind`).
-/

set_option autoImplicit false

namespace Provision.Session

open Dialogue (AdminCall ConnectOptions Request)
open Rehearsal (Broker)

/-! ## Brokers -/

/-- No topic of the broker waits for leaders, and none ever will. -/
structure Settled (broker : Broker) : Prop where
  waiting : broker.waiting = []
  leaderDelay : broker.leaderDelay = some 0

theorem Settled.putTopic {broker : Broker} (settled : Settled broker) (topic : Topic.Description) :
    Settled (broker.putTopic topic) := by
  unfold Broker.putTopic
  split <;> exact ⟨settled.waiting, settled.leaderDelay⟩

theorem Settled.awaited {broker : Broker} (settled : Settled broker) (name : String) :
    broker.awaited name = broker := by
  unfold Broker.awaited
  rw [settled.waiting]
  rfl

/-- Calls leave a settled broker settled. -/
theorem Settled.perform {broker : Broker} (settled : Settled broker) (call : AdminCall) :
    Settled (broker.perform call).2 := by
  cases call with
  | createAcl entry =>
      show Settled (broker.putAcl entry)
      unfold Broker.putAcl
      split <;> exact ⟨settled.waiting, settled.leaderDelay⟩
  | deleteAcls filter => exact ⟨settled.waiting, settled.leaderDelay⟩
  | listAcls filter => exact settled
  | createTopic spec =>
      unfold Broker.perform
      dsimp only
      split
      · exact settled
      · unfold Broker.createTopic
        rw [settled.leaderDelay]
        exact settled.putTopic _
  | createPartitions name total =>
      unfold Broker.perform
      dsimp only
      split
      · exact settled
      · split
        · exact settled
        · exact settled.putTopic _
  | deleteTopic name =>
      unfold Broker.perform
      dsimp only
      split
      · exact settled
      · exact ⟨settled.waiting, settled.leaderDelay⟩
  | describePartitions name =>
      show Settled (broker.awaited name)
      rw [settled.awaited]
      exact settled

/-- What a cluster holds. -/
structure Contents where
  acls : List Acl.Entry
  topics : List Topic.Description

namespace Contents

/-- The settled broker with the contents. -/
def broker (contents : Contents) : Broker :=
  { acls := contents.acls, topics := contents.topics }

/-- Carries out a call on the contents. -/
def perform (contents : Contents) (call : AdminCall) :
    Except AdminFailure call.Result × Contents :=
  ((contents.broker.perform call).1,
    { acls := (contents.broker.perform call).2.acls
      topics := (contents.broker.perform call).2.topics })

theorem settled_broker (contents : Contents) : Settled contents.broker := ⟨rfl, rfl⟩

/-- The contents are all that calls change of a settled broker. -/
theorem broker_perform (contents : Contents) (call : AdminCall) :
    (contents.broker.perform call).2 = (contents.perform call).2.broker := by
  have settled := contents.settled_broker.perform call
  unfold perform
  cases after : (contents.broker.perform call).2 with
  | mk acls topics waiting leaderDelay =>
      rw [after] at settled
      cases settled.waiting
      cases settled.leaderDelay
      rfl

/-- A refused call changes nothing. -/
theorem perform_refused {contents : Contents} {call : AdminCall} {refusal : AdminFailure}
    (refused : (contents.perform call).1 = .error refusal) :
    (contents.perform call).2 = contents := by
  unfold perform at refused ⊢
  cases call with
  | createAcl entry => cases refused
  | deleteAcls filter => cases refused
  | listAcls filter => cases refused
  | createTopic spec =>
      unfold Broker.perform at refused ⊢
      dsimp only at refused ⊢
      split
      · rfl
      · rename_i absent
        rw [if_neg absent] at refused
        cases refused
  | createPartitions name total =>
      unfold Broker.perform at refused ⊢
      dsimp only at refused ⊢
      split at refused
      · rfl
      · split at refused
        · rename_i enough
          rw [if_pos enough]
          rfl
        · cases refused
  | deleteTopic name =>
      unfold Broker.perform at refused ⊢
      dsimp only at refused ⊢
      split at refused
      · rfl
      · cases refused
  | describePartitions name => cases refused

end Contents

/-- What every cluster holds. -/
abbrev Brokers := Cluster.Reference → Contents

/-- The brokers after a call. -/
def after (brokers : Brokers) (cluster : Cluster.Reference) (call : AdminCall) : Brokers :=
  Function.update brokers cluster ((brokers cluster).perform call).2

theorem after_of_refused {brokers : Brokers} {cluster : Cluster.Reference} {call : AdminCall}
    {refusal : AdminFailure} (refused : ((brokers cluster).perform call).1 = .error refusal) :
    after brokers cluster call = brokers := by
  unfold after
  rw [Contents.perform_refused refused, Function.update_eq_self]

/-- Carries out calls on the brokers, and replies the same to every other request. -/
def brokerService (replies : (request : Request) → request.Reply) : Service Brokers
  | .admin cluster call, brokers => (((brokers cluster).perform call).1, after brokers cluster call)
  | .describeCluster cluster, brokers => (replies (.describeCluster cluster), brokers)
  | .getSecret name, brokers => (replies (.getSecret name), brokers)
  | .connect options, brokers => (replies (.connect options), brokers)
  | request, brokers => (replies request, brokers)

variable {replies : (request : Request) → request.Reply} {α : Type}

/-! ## Opening a session -/

theorem unaffected_describeCluster (cluster : Cluster.Reference) :
    Flow.Unaffected (brokerService replies) (Flow.describeCluster cluster)
      (replies (.describeCluster cluster)) :=
  fun _ => ⟨rfl, rfl⟩

theorem unaffected_getSecret (name : String) :
    Flow.Unaffected (brokerService replies) (Flow.getSecret name) (replies (.getSecret name)) :=
  fun _ => ⟨rfl, rfl⟩

/-- What the reply to an attempt to connect comes to. -/
def connected (cluster : Cluster.Reference) (limit : Nat) :
    Option (Except AdminFailure Unit) → Outcome Unit
  | some (.ok _) => .ok ()
  | some (.error refusal) => .error refusal.toFailure
  | none =>
      .error (.transient
        ("连接集群 " ++ cluster.name ++ " 超时（" ++ Number.decimal limit ++ " 毫秒）"))

theorem connect_run (cluster : Cluster.Reference) (limit : Nat) (options : ConnectOptions) :
    (connect cluster limit options).run =
      .askWithin limit (.connect options) fun reply => .done (connected cluster limit reply) := by
  show Dialogue.askWithin _ _ _ = _
  congr 1
  funext reply
  rcases reply with _ | (_ | _) <;> rfl

theorem unaffected_connect (cluster : Cluster.Reference) (limit : Nat)
    (options : ConnectOptions) :
    Flow.Unaffected (brokerService replies) (connect cluster limit options)
      (connected cluster limit (some (replies (.connect options)))) := by
  unfold Flow.Unaffected
  rw [connect_run]
  exact fun _ => ⟨rfl, rfl⟩

/-- Opening a session changes nothing, and what it comes to does not depend on the brokers, whatever
becomes of them in the meantime. -/
theorem exists_unaffected_openSession (opening : Opening) (properties : Properties) :
    ∃ outcome, Flow.Unaffected (brokerService replies) (openSession opening properties)
      outcome := by
  unfold openSession
  refine Flow.exists_unaffected_bind (Flow.unaffected_ofOutcome _) fun cluster => ?_
  refine Flow.exists_unaffected_bind (unaffected_describeCluster cluster) fun description => ?_
  refine Flow.exists_unaffected_bind (Flow.unaffected_ofOutcome _) fun _ => ?_
  refine Flow.exists_unaffected_bind (unaffected_getSecret _) fun secret => ?_
  refine Flow.exists_unaffected_bind (Flow.unaffected_ofOutcome _) fun credentials => ?_
  refine Flow.exists_unaffected_bind (unaffected_connect _ _ _) fun _ => ?_
  exact ⟨_, Flow.unaffected_ofOutcome _⟩

/-- Opening a session is steady. -/
theorem exists_steady_openSession (opening : Opening) (properties : Properties) :
    ∃ outcome, Flow.Steady (brokerService replies) (openSession opening properties) outcome :=
  (exists_unaffected_openSession opening properties).imp fun _ unaffected => unaffected.steady

/-- A session is with the cluster that the properties refer to, and has the time limit of the
settings. -/
theorem yields_openSession (opening : Opening) (properties : Properties) :
    (openSession opening properties).Yields fun handle =>
      properties.validate = .ok handle.cluster ∧
        handle.requestMs = opening.limits.requestMs := by
  unfold openSession
  refine Flow.yields_ofOutcome_bind fun cluster referred => ?_
  refine Flow.yields_bind fun description => Flow.yields_bind fun _ => ?_
  refine Flow.yields_bind fun secret => Flow.yields_bind fun credentials => ?_
  exact Flow.yields_bind fun _ => Flow.yields_pure ⟨referred, rfl⟩

/-! ## What is lost -/

theorem fragile_describeCluster (cluster : Cluster.Reference) :
    (Flow.describeCluster cluster).Fragile := by
  refine ⟨?_, fun _ => trivial⟩
  intro reply loss
  cases reply with
  | ok description => cases loss
  | error failure => exact ⟨failure, rfl⟩

theorem fragile_getSecret (name : String) : (Flow.getSecret name).Fragile := by
  refine ⟨?_, fun _ => trivial⟩
  intro reply loss
  cases reply with
  | ok secret => cases loss
  | error failure => exact ⟨failure, rfl⟩

theorem fragile_connect (cluster : Cluster.Reference) (limit : Nat) (options : ConnectOptions) :
    (connect cluster limit options).Fragile := by
  unfold Flow.Fragile
  rw [connect_run]
  refine ⟨?_, fun _ => trivial⟩
  intro reply loss
  rcases reply with _ | (refusal | _)
  · exact ⟨_, rfl⟩
  · exact ⟨refusal.toFailure, rfl⟩
  · exact (loss _ rfl).elim

theorem fragile_openSession (opening : Opening) (properties : Properties) :
    (openSession opening properties).Fragile := by
  unfold openSession
  refine Flow.fragile_bind (Flow.fragile_ofOutcome _) fun cluster => ?_
  refine Flow.fragile_bind (fragile_describeCluster cluster) fun description => ?_
  refine Flow.fragile_bind (Flow.fragile_ofOutcome _) fun _ => ?_
  refine Flow.fragile_bind (fragile_getSecret _) fun secret => ?_
  refine Flow.fragile_bind (Flow.fragile_ofOutcome _) fun credentials => ?_
  exact Flow.fragile_bind (fragile_connect _ _ _) fun _ => Flow.fragile_pure _

/-- A flow can be tried again if what follows the opening of its session can. -/
theorem resumable_openSession_bind {β : Type} {opening : Opening} {properties : Properties}
    {follow : Handle → Flow β} {holds : β → Prop}
    (follows : ∀ handle, Flow.Resumable (brokerService replies) (follow handle) holds) :
    Flow.Resumable (brokerService replies) (openSession opening properties >>= follow) holds := by
  obtain ⟨outcome, steady⟩ := exists_steady_openSession opening properties
  exact Flow.resumable_bind (fragile_openSession opening properties) steady follows

/-! ## Calls within a session -/

variable {β : Type} {handle : Handle} {call : AdminCall} {brokers reached : Brokers}

/-- What the reply to a call comes to: no reply counts as a refusal. -/
def replied (handle : Handle) (call : AdminCall) :
    Option (Except AdminFailure call.Result) → Except AdminFailure call.Result
  | some result => result
  | none => .error (Handle.unanswered call handle.requestMs)

theorem run_request_bind (follow : Except AdminFailure call.Result → Flow β) :
    (ExceptT.lift (handle.request call) >>= follow).run =
      .askWithin handle.requestMs (.admin handle.cluster call) fun reply =>
        (follow (replied handle call reply)).run := by
  show Dialogue.askWithin _ _ _ = _
  congr 1
  funext reply
  cases reply <;> rfl

/-- A call whose refusal fails the flow goes on with the result. -/
theorem perform_bind (follow : call.Result → Flow β) :
    handle.perform call >>= follow =
      ExceptT.lift (handle.request call) >>= fun answer =>
        match answer with
        | .ok result => follow result
        | .error refusal => throw refusal.toFailure := by
  show Dialogue.askWithin _ _ _ = Dialogue.askWithin _ _ _
  congr 1
  funext reply
  rcases reply with _ | (_ | _) <;> rfl

/-- A call goes on from the brokers after it with the answer. -/
theorem leaves_request_bind {follow : Except AdminFailure call.Result → Flow β}
    {outcome : Outcome β} {left : Brokers}
    (follows : Flow.Leaves (brokerService replies)
      (follow ((brokers handle.cluster).perform call).1) (after brokers handle.cluster call)
      outcome left)
    (small : after brokers handle.cluster call = brokers ∨
      left = after brokers handle.cluster call) :
    Flow.Leaves (brokerService replies) (ExceptT.lift (handle.request call) >>= follow) brokers
      outcome left := by
  refine ⟨?_, ?_⟩
  · unfold Flow.serve
    rw [run_request_bind]
    exact follows.serves
  · unfold Flow.Passes
    rw [run_request_bind]
    rintro reached (same | later)
    · exact .inl same
    · rcases follows.passes reached later with here | last
      · rcases small with nothing | nothing
        · exact .inl (here.trans nothing)
        · exact .inr (here.trans nothing.symm)
      · exact .inr last

/-- A call is fragile if what follows fails on every loss. -/
theorem fragile_request_bind {follow : Except AdminFailure call.Result → Flow β}
    (stops : ∀ refusal, refusal.isLoss = true → ∃ failure, follow (.error refusal) = throw failure)
    (goesOn : ∀ answer, (follow answer).Fragile) :
    Flow.Fragile (ExceptT.lift (handle.request call) >>= follow) := by
  unfold Flow.Fragile
  rw [run_request_bind]
  refine ⟨?_, fun reply => goesOn _⟩
  intro reply loss
  rcases reply with _ | (refusal | result)
  · obtain ⟨failure, stopped⟩ := stops (Handle.unanswered call handle.requestMs) rfl
    refine ⟨failure, ?_⟩
    show (follow (.error _)).run = _
    rw [stopped]
    rfl
  · obtain ⟨failure, stopped⟩ := stops refusal (loss _ rfl)
    refine ⟨failure, ?_⟩
    show (follow (.error _)).run = _
    rw [stopped]
    rfl
  · exact (loss _ rfl).elim

/-- A lost reply is none of the refusals that a flow goes on after. -/
theorem kind_ne_of_isLoss {refusal : AdminFailure} {kind : AdminFailureKind}
    (loss : refusal.isLoss = true) (network : kind ≠ .networkException)
    (time : kind ≠ .requestTimedOut) : (refusal.kind == kind) = false := by
  refine beq_eq_false_iff_ne.mpr ?_
  rintro rfl
  unfold AdminFailure.isLoss at loss
  rw [Bool.or_eq_true_iff, beq_iff_eq, beq_iff_eq] at loss
  exact loss.elim network time

/-- A call is fragile if what follows goes on after one kind of refusal only, and that is no
loss. -/
theorem fragile_request_bind_unless (kind : AdminFailureKind)
    {follow : Except AdminFailure call.Result → Flow β} {instead : Flow β}
    (network : kind ≠ .networkException) (time : kind ≠ .requestTimedOut)
    (refused : ∀ refusal, follow (.error refusal) =
      if refusal.kind == kind then instead else throw refusal.toFailure)
    (goesOn : ∀ result, (follow (.ok result)).Fragile) (otherwise : instead.Fragile) :
    Flow.Fragile (ExceptT.lift (handle.request call) >>= follow) := by
  refine fragile_request_bind ?_ ?_
  · intro refusal loss
    refine ⟨refusal.toFailure, ?_⟩
    rw [refused, kind_ne_of_isLoss loss network time]
    rfl
  · intro answer
    cases answer with
    | ok result => exact goesOn result
    | error refusal =>
        rw [refused]
        split
        · exact otherwise
        · exact trivial

theorem fragile_perform_bind {follow : call.Result → Flow β}
    (goesOn : ∀ result, (follow result).Fragile) :
    (handle.perform call >>= follow).Fragile := by
  rw [perform_bind]
  refine fragile_request_bind (fun refusal _ => ⟨refusal.toFailure, rfl⟩) ?_
  intro answer
  cases answer with
  | ok result => exact goesOn result
  | error refusal => exact trivial

/-- A call that is carried out goes on from the brokers after it with the result. -/
theorem leaves_perform_bind {follow : call.Result → Flow β} {result : call.Result}
    {outcome : Outcome β} {left : Brokers}
    (performed : ((brokers handle.cluster).perform call).1 = .ok result)
    (follows : Flow.Leaves (brokerService replies) (follow result)
      (after brokers handle.cluster call) outcome left)
    (small : after brokers handle.cluster call = brokers ∨
      left = after brokers handle.cluster call) :
    Flow.Leaves (brokerService replies) (handle.perform call >>= follow) brokers outcome left := by
  rw [perform_bind]
  refine leaves_request_bind ?_ small
  rw [performed]
  exact follows

/-- A call that is refused fails the flow. -/
theorem leaves_perform_bind_error {follow : call.Result → Flow β} {refusal : AdminFailure}
    (refused : ((brokers handle.cluster).perform call).1 = .error refusal) :
    Flow.Leaves (brokerService replies) (handle.perform call >>= follow) brokers
      (.error refusal.toFailure) brokers := by
  have nothing := after_of_refused refused
  rw [perform_bind]
  refine leaves_request_bind ?_ (.inl nothing)
  rw [refused, nothing]
  exact Flow.leaves_ofOutcome _ _

/-- Opening a session leaves the brokers as they are. -/
theorem serve_eq_of_opened {opening : Opening} {properties : Properties}
    (opened : ((openSession opening properties).serve (brokerService replies) brokers).1 =
      .ok handle) :
    (openSession opening properties).serve (brokerService replies) brokers =
      (.ok handle, brokers) := by
  obtain ⟨found, steady⟩ : ∃ outcome, Flow.Steady (brokerService replies)
      (openSession opening properties) outcome := exists_steady_openSession opening properties
  have served := (steady brokers).serves
  rw [served] at opened
  rw [served, ← opened]

/-- A session that opens is followed by what is done in it. -/
theorem leaves_openSession_bind {opening : Opening} {properties : Properties}
    {follow : Handle → Flow β} {outcome : Outcome β} {left : Brokers}
    (opened : ((openSession opening properties).serve (brokerService replies) brokers).1 =
      .ok handle)
    (follows : Flow.Leaves (brokerService replies) (follow handle) brokers outcome left) :
    Flow.Leaves (brokerService replies) (openSession opening properties >>= follow) brokers outcome
      left := by
  obtain ⟨found, steady⟩ : ∃ outcome, Flow.Steady (brokerService replies)
      (openSession opening properties) outcome := exists_steady_openSession opening properties
  rw [(steady brokers).serves] at opened
  cases opened
  exact Flow.leaves_bind (steady brokers) follows (.inl rfl)

end Provision.Session
