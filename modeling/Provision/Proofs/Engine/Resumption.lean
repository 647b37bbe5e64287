import Mathlib.Control.Monad.Basic
import Provision.Proofs.Engine.Identity
import Provision.Rehearsal.Stage

/-!
# Events that are taken up again

An event that could not be handled is left pending without a checkpoint, and the continuation has
written the identifier into it. A check of that continuation asks what the answer to the event has
asked, in the same order, and comes to the same (`resumption_faithful`). So nothing is lost with the
first attempt: the check is the answer, given once more.

Every handler looks at the identifier in its own way. Those that answer the event again find the
same identifier in it (`check_begin`), and the others start their steps from an empty checkpoint as
if there had been none.
-/

set_option autoImplicit false

namespace Provision

open Lifecycle (Answer Check Continuation Event Handler ResourceKind)
open Time (Timestamp)

variable {event : Event} {id : String}

namespace Lifecycle

/-- The check without the failure that it notes. -/
def Check.unnoted (check : Check) : Check :=
  { check with lastError := none }

/-- A handler that answers an event again is not misled by the identifier written into it. -/
theorem Handler.check_begin_repeating {physicalId : Event → Outcome String}
    {respond : Event → Flow Answer} {startedAt : Timestamp}
    (same : respond { event with physicalId := some id } = respond event) :
    (Handler.repeating physicalId respond).check
        (Continuation.begin event (Answer.pending id []) startedAt) =
      Check.ofAnswer <$> (Handler.repeating physicalId respond).respond event := by
  show Check.ofAnswer <$> respond { event with physicalId := some id } =
    Check.ofAnswer <$> respond event
  rw [same]

end Lifecycle

/-! ## Handlers that answer the event again -/

namespace Acl

theorem check_begin (opening : Session.Opening) (startedAt : Timestamp)
    (named : physicalId event = .ok id) :
    (handler opening).check (Continuation.begin event (Answer.pending id []) startedAt) =
      Check.ofAnswer <$> (handler opening).respond event := by
  refine Handler.check_begin_repeating ?_
  have kept : physicalId { event with physicalId := some id } = .ok id := Event.idOr_withId named
  unfold respond
  rw [kept, named]
  rfl

end Acl

namespace Topic

theorem check_begin (opening : Session.Opening) (leaders : Settings.Leaders)
    (startedAt : Timestamp) (named : physicalId leaders event = .ok id) :
    (handler opening leaders).check (Continuation.begin event (Answer.pending id []) startedAt) =
      Check.ofAnswer <$> (handler opening leaders).respond event := by
  refine Handler.check_begin_repeating ?_
  have kept : physicalId leaders { event with physicalId := some id } = .ok id :=
    Event.idOr_withId named
  unfold respond
  rw [kept, named]
  rfl

end Topic

/-! ## Handlers that go on step by step -/

namespace Connectivity

/-- The check that a checkpoint amounts to is the one that its answer amounts to. -/
theorem ofAnswer_answerFor (id : String) (target : Target) (reached : Checkpoint) :
    Check.ofAnswer (answerFor id target reached) = checkFor target reached := by
  unfold answerFor checkFor
  split <;> rfl

theorem check_begin (resubmission : Settings.Resubmission) (startedAt : Timestamp)
    (named : physicalId event = .ok id) :
    (handler resubmission).check (Continuation.begin event (Answer.pending id []) startedAt) =
      Check.ofAnswer <$> (handler resubmission).respond event := by
  generalize begun : Continuation.begin event (Answer.pending id []) startedAt = continuation
  have asked : continuation.event.request = event.request := by rw [← begun]; rfl
  have same : declaredTarget continuation.event = declaredTarget event := by rw [← begun]; rfl
  have empty : continuation.checkpoint = [] := by rw [← begun]; rfl
  show check resubmission.afterStalePolls continuation =
    Check.ofAnswer <$> respond resubmission.afterStalePolls event
  by_cases deletes : event.request = .delete
  · rw [check_of_delete (asked.trans deletes), respond_of_delete deletes]
    rfl
  have changes : continuation.event.request ≠ .delete := by rwa [asked]
  cases declared : declaredTarget event with
  | error failure =>
      rw [check_of_undeclared changes (same.trans declared), respond_of_undeclared deletes declared]
      rfl
  | ok target =>
      -- The empty checkpoint stands for the initial one, from which the answer starts.
      have read : Checkpoint.ofProperties continuation.checkpoint target =
          .ok (Checkpoint.initial target) := by rw [empty]; rfl
      rw [check_eq changes (same.trans declared) read, respond_eq deletes named declared,
        Flow.map_eq, Flow.bind_assoc]
      congr 1
      funext reached
      rw [← ofAnswer_answerFor id]
      rfl

end Connectivity

namespace Namespace

variable {threshold : Nat}

theorem ofAnswer_answerFor (id : String) (reached : Progress) :
    Check.ofAnswer (answerFor id reached) = checkFor reached := by
  cases reached <;> rfl

/-- A step for an event that has been given its identifier is a step for the event. -/
theorem advance_withId {checkpoint : Properties} (named : physicalId event = .ok id) :
    advance threshold { event with physicalId := some id } checkpoint =
      advance threshold event checkpoint := by
  unfold advance
  rw [physicalId_withId named, named]
  rfl

theorem check_begin (resubmission : Settings.Resubmission) (startedAt : Timestamp)
    (named : physicalId event = .ok id) :
    (handler resubmission).check (Continuation.begin event (Answer.pending id []) startedAt) =
      Check.ofAnswer <$> (handler resubmission).respond event := by
  show check resubmission.afterStalePolls _ =
    Check.ofAnswer <$> respond resubmission.afterStalePolls event
  have same : advance resubmission.afterStalePolls
      (Continuation.begin event (Answer.pending id []) startedAt).event [] =
        advance resubmission.afterStalePolls event [] := advance_withId named
  rw [check_eq_advance, respond_of_physicalId named, Flow.map_eq, Flow.bind_assoc,
    show (Continuation.begin event (Answer.pending id []) startedAt).checkpoint = [] from rfl, same]
  congr 1
  funext reached
  rw [← ofAnswer_answerFor id]
  rfl

end Namespace

/-! ## The controller -/

namespace Engine

variable {settings : Settings.Engine} {kind : ResourceKind}

/-- The check of a continuation without a checkpoint is the answer to its event, whichever handler
it goes to. -/
theorem check_begin (settings : Settings.Engine) (startedAt : Timestamp)
    (derived : (handlerOf settings kind).physicalId event = .ok id) :
    (handlerOf settings kind).check (Continuation.begin event (Answer.pending id []) startedAt) =
      Check.ofAnswer <$> (handlerOf settings kind).respond event := by
  cases kind with
  | acl => exact Acl.check_begin _ startedAt derived
  | topic => exact Topic.check_begin _ _ startedAt derived
  | connectivityUpdate => exact Connectivity.check_begin _ startedAt derived
  | warehouseNamespace => exact Namespace.check_begin _ startedAt derived

/-- The caller of a check is told what the caller of the answer has been told. -/
theorem unnoted_checked {handler : Handler} {startedAt : Timestamp}
    (derived : handler.physicalId event = .ok id) (outcome : Outcome Answer) :
    Check.unnoted <$> checked (Continuation.begin event (Answer.pending id []) startedAt)
        (Check.ofAnswer <$> outcome) =
      Check.ofAnswer <$> answered handler event outcome := by
  cases outcome with
  | ok answer =>
      show Except.ok (Check.ofAnswer answer).unnoted = Except.ok (Check.ofAnswer answer)
      unfold Check.ofAnswer
      split <;> rfl
  | error failure =>
      show Check.unnoted <$> checked _ (.error failure) = _
      cases transient : failure.isTransient with
      | true =>
          rw [checked_of_transient transient, answered_of_transient transient derived]
          rfl
      | false =>
          rw [checked_of_terminal transient, answered_of_terminal transient]
          rfl

/-- **Where there is no checkpoint, the check is the answer to the event, given once more.** The
handler asks the same of the services, in the same order, and comes to the same, although the
identifier has been written into the event. So it is with the controller, which also leaves an event
that cannot be handled yet with just that continuation. -/
theorem resumption_faithful (startedAt : Timestamp)
    (derived : (handlerOf settings kind).physicalId event = .ok id) :
    (handlerOf settings kind).check (Continuation.begin event (Answer.pending id []) startedAt) =
        Check.ofAnswer <$> (handlerOf settings kind).respond event ∧
      (ResourceKind.ofName event.resourceType = .ok kind →
        Check.unnoted <$> check settings
            (Continuation.begin event (Answer.pending id []) startedAt) =
          Check.ofAnswer <$> respond settings event ∧
        ∀ log failure, ((handlerOf settings kind).respond event).Ends log (.error failure) →
          failure.isTransient = true →
          (attempt settings event startedAt .unanswered).Ends log
            (.pending (Continuation.begin event (Answer.pending id []) startedAt))) := by
  have again := check_begin settings startedAt derived
  refine ⟨again, fun named => ?_⟩
  have routed : route settings event = .ok (handlerOf settings kind) := route_of_ofName named
  have routedAgain :
      route settings (Continuation.begin event (Answer.pending id []) startedAt).event =
        .ok (handlerOf settings kind) := routed
  constructor
  · show (Check.unnoted <$> check settings _).run = (Check.ofAnswer <$> respond settings event).run
    rw [Flow.run_map, Flow.run_map, check_run routedAgain, respond_run routed, again, Flow.run_map,
      Dialogue.bind_assoc, Dialogue.bind_assoc, Dialogue.bind_assoc]
    congr 1
    funext outcome
    exact congrArg Dialogue.done (unnoted_checked derived outcome)
  · intro log failure fails transient
    rw [attempt_unanswered routed]
    refine Dialogue.ends_bind_done.mpr ⟨.error failure, fails, ?_⟩
    rw [answered_of_transient transient derived]
    rfl

/-- A topic is to be updated, and the identifier of the event is empty. -/
def unnamed : Event :=
  { astray .update with physicalId := some "" }

/-- The update is found under the declared name, fails for the time being and is taken up again. -/
theorem resumption_faithful_throttled :
    (handlerOf {} .topic).physicalId unnamed = .ok "orders" ∧
      (handlerOf {} .topic).check
          (Continuation.begin unnamed (Answer.pending "orders" []) Rehearsal.beginning) =
        Check.ofAnswer <$> (handlerOf {} .topic).respond unnamed ∧
      (attempt {} unnamed Rehearsal.beginning .unanswered).Ends throttled
        (.pending
          (Continuation.begin unnamed (Answer.pending "orders" []) Rehearsal.beginning)) := by
  have derived : (handlerOf {} .topic).physicalId unnamed = .ok "orders" := by decide +kernel
  have fails : ((handlerOf {} .topic).respond unnamed).Ends throttled
      (.error (.transient "throttled")) := Flow.ends_error_of_replay (by decide +kernel)
  obtain ⟨same, controlled⟩ := resumption_faithful Rehearsal.beginning derived
  obtain ⟨-, retried⟩ := controlled (by decide +kernel)
  exact ⟨derived, same, retried throttled _ fails rfl⟩

end Engine

end Provision
