import Provision.Engine.Controller
import Provision.Proofs.Dialogue.Transcript

/-!
# Runs of an event

The handling of an event is a run of attempts. The first attempt answers the event, every later
one checks the continuation that the attempt before has left behind, and the run is over with the
first attempt that completes or fails. What the services reply is arbitrary throughout, so a
property of all runs holds whatever they do.

The controller only changes the outcome of a handler, never what is asked (`attempt_unanswered`,
`attempt_pending`). All continuations of a run are about the same event, up to the identifier that
its answer has given it (`Run.event_eq`).
-/

set_option autoImplicit false

namespace Provision.Engine

open Lifecycle (Answer Check Continuation Event Handler ResourceKind)
open Time (Timestamp)

/-! ## Standings -/

/-- Where the handling of an event stands. -/
inductive Standing where
  | unanswered
  | pending (continuation : Continuation)
  | completed (physicalId : String) (data : Properties)
  | failed (failure : Failure)

namespace Standing

/-- Whether another attempt is due. -/
def isOpen : Standing → Bool
  | .unanswered | .pending _ => true
  | .completed _ _ | .failed _ => false

/-- The continuation of a pending event. -/
def continuation? : Standing → Option Continuation
  | .pending continuation => some continuation
  | _ => none

/-- Where an event stands after its answer. -/
def ofAnswer (event : Event) (startedAt : Timestamp) : Outcome Answer → Standing
  | .ok answer =>
      if answer.isComplete then .completed answer.physicalId answer.data
      else .pending (Continuation.begin event answer startedAt)
  | .error failure => .failed failure

/-- Where an event stands after a check. -/
def ofCheck (continuation : Continuation) : Outcome Check → Standing
  | .ok result =>
      if result.isComplete then .completed continuation.physicalId result.data
      else .pending (continuation.advance result)
  | .error failure => .failed failure

end Standing

/-- The attempt that is due; nothing once the run is over. -/
def attempt (settings : Settings.Engine) (event : Event) (startedAt : Timestamp) :
    Standing → Dialogue Standing
  | .unanswered =>
      (respond settings event).run.bind fun outcome => .done (.ofAnswer event startedAt outcome)
  | .pending continuation =>
      (check settings continuation).run.bind fun outcome => .done (.ofCheck continuation outcome)
  | ended => .done ended

/-! ## What the controller makes of a handler's outcome -/

/-- The answer for the caller: a transient failure leaves the event pending. -/
def answered (handler : Handler) (event : Event) : Outcome Answer → Outcome Answer
  | .ok answer => .ok answer
  | .error failure =>
      if failure.isTransient then (Answer.pending · []) <$> handler.physicalId event
      else .error failure

/-- The check for the caller: a transient failure keeps the checkpoint. -/
def checked (continuation : Continuation) : Outcome Check → Outcome Check
  | .ok result => .ok result
  | .error failure =>
      if failure.isTransient then
        .ok
          { isComplete := false
            data := []
            checkpoint := continuation.checkpoint
            lastError := some failure.display }
      else .error failure

variable {settings : Settings.Engine} {event : Event} {startedAt : Timestamp} {handler : Handler}

/-- A transient failure of the answer leaves the event pending without a checkpoint. -/
theorem answered_of_transient {failure : Failure} {id : String}
    (transient : failure.isTransient = true) (derived : handler.physicalId event = .ok id) :
    answered handler event (.error failure) = .ok (Answer.pending id []) := by
  simp only [answered, transient, if_true, derived]
  rfl

theorem answered_of_terminal {failure : Failure} (terminal : failure.isTransient = false) :
    answered handler event (.error failure) = .error failure := by
  simp only [answered, terminal]
  rfl

/-- A transient failure of a check keeps the checkpoint and is noted. -/
theorem checked_of_transient {failure : Failure} (transient : failure.isTransient = true)
    (continuation : Continuation) :
    checked continuation (.error failure) =
      .ok
        { isComplete := false
          data := []
          checkpoint := continuation.checkpoint
          lastError := some failure.display } := by
  simp only [checked, transient, if_true]

theorem checked_of_terminal {failure : Failure} (terminal : failure.isTransient = false)
    (continuation : Continuation) :
    checked continuation (.error failure) = .error failure := by
  simp only [checked, terminal]
  rfl

/-- An event of a known kind goes to the handler of that kind. -/
theorem route_of_ofName {kind : ResourceKind}
    (named : ResourceKind.ofName event.resourceType = .ok kind) :
    route settings event = .ok (handlerOf settings kind) := by
  unfold route
  rw [named]
  rfl

/-- The identifier of an event has no part in the choice of its handler. -/
theorem route_withId (settings : Settings.Engine) (event : Event) (id : Option String) :
    route settings { event with physicalId := id } = route settings event := rfl

/-- An event of no known kind is refused before anything is asked. -/
theorem respond_of_unrouted {failure : Failure}
    (unrouted : route settings event = .error failure) :
    respond settings event = Flow.ofOutcome (.error failure) := by
  unfold respond
  rw [unrouted, Flow.ofOutcome_error_bind]

theorem check_of_unrouted {continuation : Continuation} {failure : Failure}
    (unrouted : route settings continuation.event = .error failure) :
    check settings continuation = Flow.ofOutcome (.error failure) := by
  unfold check
  rw [unrouted, Flow.ofOutcome_error_bind]

theorem respond_run (routed : route settings event = .ok handler) :
    (respond settings event).run =
      (handler.respond event).run.bind fun outcome => .done (answered handler event outcome) := by
  unfold respond
  rw [routed, Flow.ofOutcome_ok_bind, Flow.run_bind]
  show Dialogue.bind (Dialogue.bind (handler.respond event).run _) _ = _
  rw [Dialogue.bind_assoc]
  congr 1
  funext outcome
  cases outcome with
  | ok answer => rfl
  | error failure =>
      by_cases transient : failure.isTransient = true
      · cases derived : handler.physicalId event <;>
          simp only [Function.comp, answered, Dialogue.bind, transient, if_true, derived] <;> rfl
      · simp only [Function.comp, answered, Dialogue.bind, transient]
        rfl

theorem check_run {continuation : Continuation}
    (routed : route settings continuation.event = .ok handler) :
    (check settings continuation).run =
      (handler.check continuation).run.bind fun outcome =>
        .done (checked continuation outcome) := by
  unfold check
  rw [routed, Flow.ofOutcome_ok_bind, Flow.run_bind]
  show Dialogue.bind (Dialogue.bind (handler.check continuation).run _) _ = _
  rw [Dialogue.bind_assoc]
  congr 1
  funext outcome
  cases outcome with
  | ok result => rfl
  | error failure =>
      by_cases transient : failure.isTransient = true
      · simp only [Function.comp, checked, Dialogue.bind, transient, if_true]
        rfl
      · simp only [Function.comp, checked, Dialogue.bind, transient]
        rfl

/-- The caller is told what the controller makes of an outcome of the handler. -/
theorem respond_ends_iff (routed : route settings event = .ok handler) {log : List Exchange}
    {told : Outcome Answer} :
    (respond settings event).Ends log told ↔
      ∃ found, (handler.respond event).Ends log found ∧ told = answered handler event found := by
  unfold Flow.Ends
  rw [respond_run routed]
  exact Dialogue.ends_bind_done

theorem check_ends_iff {continuation : Continuation}
    (routed : route settings continuation.event = .ok handler) {log : List Exchange}
    {told : Outcome Check} :
    (check settings continuation).Ends log told ↔
      ∃ found, (handler.check continuation).Ends log found ∧ told = checked continuation found := by
  unfold Flow.Ends
  rw [check_run routed]
  exact Dialogue.ends_bind_done

/-- The first attempt asks what the handler asks to answer the event. -/
theorem attempt_unanswered (routed : route settings event = .ok handler) :
    attempt settings event startedAt .unanswered =
      (handler.respond event).run.bind fun outcome =>
        .done (.ofAnswer event startedAt (answered handler event outcome)) := by
  show Dialogue.bind _ _ = _
  rw [respond_run routed, Dialogue.bind_assoc]
  rfl

/-- A later attempt asks what the handler asks to check the continuation. -/
theorem attempt_pending {continuation : Continuation}
    (routed : route settings continuation.event = .ok handler) :
    attempt settings event startedAt (.pending continuation) =
      (handler.check continuation).run.bind fun outcome =>
        .done (.ofCheck continuation (checked continuation outcome)) := by
  show Dialogue.bind _ _ = _
  rw [check_run routed, Dialogue.bind_assoc]
  rfl

/-! ## Runs -/

/-- A run of attempts on an event: the transcript of each attempt, and where it has led. -/
inductive Run (settings : Settings.Engine) (event : Event) (startedAt : Timestamp) :
    List (List Exchange) → Standing → Prop where
  | start : Run settings event startedAt [] .unanswered
  | step {logs : List (List Exchange)} {standing after : Standing} {log : List Exchange}
      (run : Run settings event startedAt logs standing) (isOpen : standing.isOpen = true)
      (ends : (attempt settings event startedAt standing).Ends log after) :
      Run settings event startedAt (logs ++ [log]) after

/-- Where attempts with the given transcripts lead, with the clock at zero. -/
def replay (settings : Settings.Engine) (event : Event) (startedAt : Timestamp) :
    List (List Exchange) → Standing → Option Standing
  | [], standing => some standing
  | log :: rest, standing =>
      if standing.isOpen then
        ((attempt settings event startedAt standing).replay log).bind
          (replay settings event startedAt rest)
      else none

/-- Attempts that can be replayed go on with the run. -/
theorem Run.replay {earlier logs : List (List Exchange)} {before after : Standing}
    (run : Run settings event startedAt earlier before)
    (reached : Engine.replay settings event startedAt logs before = some after) :
    Run settings event startedAt (earlier ++ logs) after := by
  induction logs generalizing earlier before with
  | nil =>
      cases reached
      rw [List.append_nil]
      exact run
  | cons log rest ih =>
      rw [List.append_cons]
      unfold Engine.replay at reached
      split at reached
      · rename_i isOpen
        obtain ⟨middle, attempted, follows⟩ := Option.bind_eq_some_iff.mp reached
        exact ih (run.step isOpen (Dialogue.ends_of_replay attempted)) follows
      · cases reached

/-- A run that can be replayed. -/
theorem exists_run {logs : List (List Exchange)}
    (reaches : (replay settings event startedAt logs .unanswered).isSome = true) :
    ∃ standing, Run settings event startedAt logs standing := by
  obtain ⟨standing, reached⟩ := Option.isSome_iff_exists.mp reaches
  exact ⟨standing, Run.start.replay reached⟩

/-- The continuation is about the event, under some identifier. -/
def Concerns (event : Event) (continuation : Continuation) : Prop :=
  ∃ id, continuation.event = { event with physicalId := some id } ∧ continuation.physicalId = id

theorem Concerns.route_eq {continuation : Continuation} (concerns : Concerns event continuation) :
    route settings continuation.event = route settings event := by
  obtain ⟨id, same, -⟩ := concerns
  rw [same, route_withId]

theorem concerns_of_ofAnswer {continuation : Continuation} {outcome : Outcome Answer}
    (same : Standing.ofAnswer event startedAt outcome = .pending continuation) :
    Concerns event continuation := by
  cases outcome with
  | error failure => cases same
  | ok answer =>
      by_cases complete : answer.isComplete = true
      · simp only [Standing.ofAnswer, complete, if_true] at same
        cases same
      · simp only [Standing.ofAnswer, complete] at same
        cases same
        exact ⟨answer.physicalId, rfl, rfl⟩

theorem concerns_of_ofCheck {before after : Continuation} {outcome : Outcome Check}
    (concerns : Concerns event before) (same : Standing.ofCheck before outcome = .pending after) :
    Concerns event after := by
  cases outcome with
  | error failure => cases same
  | ok result =>
      by_cases complete : result.isComplete = true
      · simp only [Standing.ofCheck, complete, if_true] at same
        cases same
      · simp only [Standing.ofCheck, complete] at same
        cases same
        exact concerns

/-- **Every continuation of a run is about the run's event.** -/
theorem Run.concerns {logs : List (List Exchange)} {standing : Standing}
    (run : Run settings event startedAt logs standing) :
    ∀ continuation, standing = .pending continuation → Concerns event continuation := by
  induction run with
  | start => intro continuation same; cases same
  | step run isOpen ends ih =>
      rintro continuation rfl
      rename_i standing log
      cases standing with
      | unanswered =>
          obtain ⟨outcome, -, same⟩ := Dialogue.ends_bind_done.mp ends
          exact concerns_of_ofAnswer same.symm
      | pending before =>
          obtain ⟨outcome, -, same⟩ := Dialogue.ends_bind_done.mp ends
          exact concerns_of_ofCheck (ih before rfl) same.symm
      | completed id data => cases isOpen
      | failed failure => cases isOpen

end Provision.Engine
