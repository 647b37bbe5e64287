import Provision.Proofs.Lifecycle.Validation
import Provision.Proofs.Session.Brokers

/-!
# The calls of a session

What a flow that succeeds has called brokers for, along with its value and the state that it leaves
(`Flow.Achieves`), with one law for each way to build a flow. Opening a session calls for nothing,
and a session knows the endpoints of the cluster that its properties refer to
(`Session.achieves_openSession_bind`). What every request keeps holds of all states on the way
(`Dialogue.Passes.keeps`).
-/

set_option autoImplicit false

namespace Provision

open Dialogue (AdminCall Request)
open Session (AdminFailure Brokers Handle Opening after brokerService openSession)

/-! ## Calls -/

/-- The call to a broker that the request is. -/
def Dialogue.Request.call? : Request → Option (Cluster.Reference × AdminCall)
  | .admin cluster call => some (cluster, call)
  | _ => none

/-- Calls to brokers, in their order. -/
abbrev Dialogue.Calls := List (Cluster.Reference × AdminCall)

section Calls

variable {State α β : Type} {service : Service State}

namespace Dialogue

/-- The calls to brokers of a dialogue whose every reply arrives. -/
def calls (service : Service State) : Dialogue α → State → Calls
  | .done _, _ => []
  | .ask request next, state =>
      request.call?.toList ++
        (next (service request state).1).calls service (service request state).2
  | .askWithin _ request next, state =>
      request.call?.toList ++
        (next (some (service request state).1)).calls service (service request state).2
  | .pause _ next, state => (next ()).calls service state
  | .clock next, state => (next 0).calls service state

theorem calls_bind (dialogue : Dialogue α) (follow : α → Dialogue β) (state : State) :
    (dialogue.bind follow).calls service state =
      dialogue.calls service state ++
        (follow (dialogue.serve service state).1).calls service
          (dialogue.serve service state).2 := by
  induction dialogue generalizing state with
  | done value => rfl
  | ask request next ih =>
      show _ ++ ((next _).bind follow).calls service _ = (_ ++ _) ++ _
      rw [ih, List.append_assoc]
      rfl
  | askWithin limit request next ih =>
      show _ ++ ((next _).bind follow).calls service _ = (_ ++ _) ++ _
      rw [ih, List.append_assoc]
      rfl
  | pause duration next ih => exact ih () state
  | clock next ih => exact ih 0 state

/-- What every request keeps holds of all states on the way. -/
theorem Passes.keeps {dialogue : Dialogue α} {state reached : State} {holds : State → Prop}
    (kept : ∀ request state, holds state → holds (service request state).2) (first : holds state)
    (passes : dialogue.Passes service state reached) : holds reached := by
  induction dialogue generalizing state with
  | done value =>
      obtain rfl : reached = state := passes
      exact first
  | ask request next ih =>
      rcases passes with rfl | later
      · exact first
      · exact ih _ (kept request state first) later
  | askWithin limit request next ih =>
      rcases passes with rfl | later
      · exact first
      · exact ih _ (kept request state first) later
  | pause duration next ih => exact ih () first passes
  | clock next ih => exact ih 0 first passes

end Dialogue

namespace Flow

/-- If the flow succeeds from the state, its value, the state that it leaves and its calls are as
the predicate says. -/
def Achieves (service : Service State) (flow : Flow α) (state : State)
    (holds : α → State → Dialogue.Calls → Prop) : Prop :=
  ∀ value, (flow.serve service state).1 = .ok value →
    holds value (flow.serve service state).2 (Dialogue.calls service flow.run state)

variable {state : State} {flow : Flow α} {follow : α → Flow β}

theorem achieves_pure {value : α} {holds : α → State → Dialogue.Calls → Prop}
    (here : holds value state []) : (pure value : Flow α).Achieves service state holds := by
  rintro found ⟨⟩
  exact here

theorem achieves_bind {holds : β → State → Dialogue.Calls → Prop}
    (first : flow.Achieves service state fun value left calls =>
      (follow value).Achieves service left fun last after rest =>
        holds last after (calls ++ rest)) :
    (flow >>= follow).Achieves service state holds := by
  intro last succeeds
  cases served : flow.serve service state with
  | mk outcome left =>
      cases outcome with
      | error failure =>
          rw [serve_bind_error served] at succeeds
          cases succeeds
      | ok value =>
          have later := first value (by rw [served])
          rw [served] at later
          rw [serve_bind_ok served] at succeeds ⊢
          have calls : Dialogue.calls service (flow >>= follow).run state =
              Dialogue.calls service flow.run state ++
                Dialogue.calls service (follow value).run left := by
            unfold serve at served
            rw [run_bind, Dialogue.calls_bind, served]
          rw [calls]
          exact later last succeeds

theorem Achieves.mono {holds weaker : α → State → Dialogue.Calls → Prop}
    (achieves : flow.Achieves service state holds)
    (implies : ∀ value left calls, holds value left calls → weaker value left calls) :
    flow.Achieves service state weaker :=
  fun value succeeds => implies _ _ _ (achieves value succeeds)

/-- A flow succeeds only with what is known. -/
theorem achieves_ofOutcome_bind {known : Outcome α}
    {holds : β → State → Dialogue.Calls → Prop}
    (follows : ∀ value, known = .ok value → (follow value).Achieves service state holds) :
    (ofOutcome known >>= follow).Achieves service state holds := by
  cases known with
  | error failure => exact fun _ succeeds => nomatch succeeds
  | ok value => exact follows value rfl

end Flow

end Calls

/-! ## Sessions -/

namespace Session

variable {replies : (request : Request) → request.Reply} {α β : Type} {brokers : Brokers}

/-- What a session knows of its cluster: the reference, and the endpoints from the description. -/
structure Knows (replies : (request : Request) → request.Reply) (properties : Properties)
    (handle : Handle) : Prop where
  referred : properties.validate = .ok handle.cluster
  described : ∃ description, replies (.describeCluster handle.cluster) = .ok description ∧
    handle.brokers = description.endpoints

/-- Sessions with one cluster know the same endpoints. -/
theorem Knows.alike {properties others : Properties} {handle other : Handle}
    (knows : Knows replies properties handle) (knew : Knows replies others other)
    (together : Cluster.Reference.parse others.clusterArn =
      Cluster.Reference.parse properties.clusterArn) :
    other.cluster = handle.cluster ∧ other.brokers = handle.brokers := by
  have parsed := Properties.parse_of_validate knows.referred
  have alike := Properties.parse_of_validate knew.referred
  have same : other.cluster = handle.cluster :=
    Except.ok.inj (alike.symm.trans (together.trans parsed))
  obtain ⟨description, described, brokers⟩ := knows.described
  obtain ⟨found, again, others⟩ := knew.described
  rw [same, described] at again
  obtain rfl := Except.ok.inj again
  exact ⟨same, others.trans brokers.symm⟩

/-- A question that is no call to a broker changes nothing. -/
theorem achieves_question_bind (request : Request) {outcomeOf : request.Reply → Outcome α}
    {follow : α → Flow β} {holds : β → Brokers → Dialogue.Calls → Prop}
    (fixed : brokerService replies request brokers = (replies request, brokers))
    (silent : request.call? = none)
    (follows : ∀ value, outcomeOf (replies request) = .ok value →
      (follow value).Achieves (brokerService replies) brokers holds) :
    Flow.Achieves (brokerService replies)
      (ExceptT.mk (.ask request fun reply => .done (outcomeOf reply)) >>= follow) brokers
      holds := by
  refine Flow.achieves_bind fun value answered => ?_
  unfold Flow.serve at answered ⊢
  simp only [ExceptT.run_mk, Dialogue.serve, Dialogue.calls, fixed, silent] at answered ⊢
  exact follows value answered

theorem achieves_connect_bind {cluster : Cluster.Reference} {limit : Nat}
    {options : Dialogue.ConnectOptions} {follow : Unit → Flow α}
    {holds : α → Brokers → Dialogue.Calls → Prop}
    (follows : (follow ()).Achieves (brokerService replies) brokers holds) :
    (connect cluster limit options >>= follow).Achieves (brokerService replies) brokers holds := by
  refine Flow.achieves_bind fun value _ => ?_
  unfold Flow.serve
  rw [connect_run]
  exact follows

/-- Opening a session changes nothing and calls for nothing. -/
theorem achieves_openSession_bind {opening : Opening} {properties : Properties}
    {follow : Handle → Flow α} {holds : α → Brokers → Dialogue.Calls → Prop}
    (follows : ∀ handle, Knows replies properties handle →
      (follow handle).Achieves (brokerService replies) brokers holds) :
    (openSession opening properties >>= follow).Achieves (brokerService replies) brokers holds := by
  unfold openSession
  simp only [Flow.bind_assoc]
  refine Flow.achieves_ofOutcome_bind fun cluster referred => ?_
  refine achieves_question_bind (.describeCluster cluster) rfl rfl fun description described => ?_
  refine Flow.achieves_ofOutcome_bind fun _ _ => ?_
  refine achieves_question_bind (.getSecret properties.secretName) rfl rfl fun secret _ => ?_
  refine Flow.achieves_ofOutcome_bind fun credentials _ => achieves_connect_bind ?_
  exact follows _ ⟨referred, description, described, rfl⟩

variable {handle : Handle} {call : AdminCall}

/-- A session that opens is one with the cluster that is referred to. -/
theorem cluster_eq_of_opened {opening : Opening} {properties : Properties}
    {cluster : Cluster.Reference} (referred : properties.validate = .ok cluster)
    (opened : ((openSession opening properties).serve (brokerService replies) brokers).1 =
      .ok handle) :
    handle.cluster = cluster := by
  have knows : (openSession opening properties).Achieves (brokerService replies) brokers
      fun handle _ _ => Knows replies properties handle := by
    rw [← Flow.bind_pure (openSession opening properties)]
    exact achieves_openSession_bind fun handle knows => Flow.achieves_pure knows
  exact Except.ok.inj ((knows handle opened).referred.symm.trans referred)

theorem achieves_request_bind {follow : Except AdminFailure call.Result → Flow α}
    {holds : α → Brokers → Dialogue.Calls → Prop}
    (follows : (follow ((brokers handle.cluster).perform call).1).Achieves (brokerService replies)
      (after brokers handle.cluster call)
      fun value left calls => holds value left ((handle.cluster, call) :: calls)) :
    Flow.Achieves (brokerService replies) (ExceptT.lift (handle.request call) >>= follow) brokers
      holds := by
  unfold Flow.Achieves Flow.serve
  rw [run_request_bind]
  exact follows

/-- A call that is carried out goes on from the brokers after it. -/
theorem achieves_perform_bind {result : call.Result} {follow : call.Result → Flow α}
    {holds : α → Brokers → Dialogue.Calls → Prop}
    (performed : ((brokers handle.cluster).perform call).1 = .ok result)
    (follows : (follow result).Achieves (brokerService replies) (after brokers handle.cluster call)
      fun value left calls => holds value left ((handle.cluster, call) :: calls)) :
    (handle.perform call >>= follow).Achieves (brokerService replies) brokers holds := by
  rw [perform_bind]
  refine achieves_request_bind ?_
  rw [performed]
  exact follows

end Session

end Provision
