import Provision.Proofs.Dialogue.Interference
import Provision.Proofs.Session.Brokers

/-!
# Sessions side by side

Opening a session does not look at what the brokers hold, so what follows it is disturbed only by
what disturbs it alone (`undisturbed_openSession_bind`). A call within a session is one turn: others
may have moved the brokers before it, and it is carried out on what they have made of them
(`withstands_request_bind`).
-/

set_option autoImplicit false

namespace Provision.Session

open Dialogue (AdminCall Request)

variable {replies : (request : Request) → request.Reply} {β : Type} {brokers : Brokers}

/-- What follows the opening of a session starts with the session, whatever others do meanwhile. -/
theorem undisturbed_openSession_bind {opening : Opening} {properties : Properties}
    {follow : Handle → Flow β}
    (follows : ∀ handle, Flow.Undisturbed (brokerService replies) (follow handle) brokers) :
    Flow.Undisturbed (brokerService replies) (openSession opening properties >>= follow)
      brokers := by
  obtain ⟨outcome, unaffected⟩ : ∃ outcome, Flow.Unaffected (brokerService replies)
      (openSession opening properties) outcome := exists_unaffected_openSession opening properties
  exact Flow.undisturbed_bind_of_unaffected unaffected fun handle _ => follows handle

variable {handle : Handle} {call : AdminCall} {passing : Brokers → Prop}
  {holds : Outcome β → Brokers → Prop}

/-- A call goes on from whatever it is carried out on. -/
theorem withstands_request_bind {follow : Except AdminFailure call.Result → Flow β}
    (follows : ∀ found, Moves passing brokers found →
      Moves passing found (after found handle.cluster call) ∧
        Flow.Withstands (brokerService replies) passing holds
          (follow ((found handle.cluster).perform call).1) (after found handle.cluster call)) :
    Flow.Withstands (brokerService replies) passing holds
      (ExceptT.lift (handle.request call) >>= follow) brokers := by
  unfold Flow.Withstands
  rw [run_request_bind]
  exact follows

/-- A call that is always carried out goes on with its result. -/
theorem withstands_perform_bind {follow : call.Result → Flow β} (result : Brokers → call.Result)
    (performed : ∀ found, Moves passing brokers found →
      ((found handle.cluster).perform call).1 = .ok (result found))
    (follows : ∀ found, Moves passing brokers found →
      Moves passing found (after found handle.cluster call) ∧
        Flow.Withstands (brokerService replies) passing holds (follow (result found))
          (after found handle.cluster call)) :
    Flow.Withstands (brokerService replies) passing holds (handle.perform call >>= follow)
      brokers := by
  rw [perform_bind]
  refine withstands_request_bind fun found moved => ?_
  rw [performed found moved]
  exact follows found moved

/-- A refused call changes nothing, so a call may change the brokers if the flow ends with it. -/
theorem culminates_request_bind {follow : Except AdminFailure call.Result → Flow β}
    (carriedOut : ∀ result, ∃ value, follow (.ok result) = pure value)
    (refused : ∀ refusal, Flow.Culminates (brokerService replies) (follow (.error refusal))) :
    Flow.Culminates (brokerService replies) (ExceptT.lift (handle.request call) >>= follow) := by
  unfold Flow.Culminates
  rw [run_request_bind]
  intro found
  show _ ∨ ∃ outcome, (follow ((found handle.cluster).perform call).1).run = .done outcome ∧ _
  cases answer : ((found handle.cluster).perform call).1 with
  | ok result =>
      obtain ⟨value, same⟩ := carriedOut result
      rw [same]
      exact .inr ⟨.ok value, rfl, value, rfl⟩
  | error refusal =>
      left
      refine ⟨after_of_refused answer, ?_⟩
      show Dialogue.Culminates _ _ (follow ((found handle.cluster).perform call).1).run
      rw [answer]
      exact refused refusal

/-- What follows a call that changes nothing may still change the brokers. -/
theorem culminates_lookup_bind {follow : call.Result → Flow β}
    (nothing : ∀ found : Brokers, after found handle.cluster call = found)
    (follows : ∀ result, Flow.Culminates (brokerService replies) (follow result)) :
    Flow.Culminates (brokerService replies) (handle.perform call >>= follow) := by
  have looked : ∀ next : Except AdminFailure call.Result → Flow β,
      (∀ answer, Flow.Culminates (brokerService replies) (next answer)) →
        Flow.Culminates (brokerService replies)
          (ExceptT.lift (handle.request call) >>= next) := by
    intro next culminates
    unfold Flow.Culminates
    rw [run_request_bind]
    exact fun found => .inl ⟨nothing found, culminates _⟩
  rw [perform_bind]
  refine looked _ fun answer => ?_
  cases answer with
  | ok result => exact follows result
  | error refusal => exact Flow.culminates_ofOutcome (.error refusal.toFailure)

theorem culminates_perform_bind_pure {view : call.Result → β} :
    Flow.Culminates (brokerService replies)
      (handle.perform call >>= fun result => pure (view result)) := by
  rw [perform_bind]
  exact culminates_request_bind (fun result => ⟨view result, rfl⟩) fun refusal =>
    Flow.culminates_ofOutcome (.error refusal.toFailure)

end Provision.Session
