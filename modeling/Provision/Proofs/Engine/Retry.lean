import Provision.Proofs.Dialogue.Service
import Provision.Proofs.Engine.Run
import Provision.Proofs.Lifecycle.Identifier

/-!
# Attempts that are interrupted

Attempts on an event may lose replies and then leave the event pending, with whatever they have
done so far. `Retries` collects the states of the service that any number of such attempts can lead
to.

A handler is repeatable for an event if its checks answer the event once more, and if that answer
can be tried again after any loss (`Repeatable`). An attempt that is not interrupted then ends as
the very first one would have ended, and leaves what that one would have left, no matter how many
attempts were interrupted before (`Retries.alike`).
-/

set_option autoImplicit false

namespace Provision.Engine

open Lifecycle (Answer Check CompletesAs Continuation Event Handler)
open Time (Timestamp)

/-- The controller leaves what the handler leaves, and tells the caller what it makes of the
handler's outcome. -/
theorem serve_respond {State : Type} {service : Service State} {settings : Settings.Engine}
    {event : Event} {handler : Handler} (routed : route settings event = .ok handler)
    (state : State) :
    (respond settings event).serve service state =
      (answered handler event ((handler.respond event).serve service state).1,
        ((handler.respond event).serve service state).2) := by
  unfold Flow.serve
  rw [respond_run routed, Dialogue.serve_bind]
  rfl

/-- What the handling of an event has come to; nothing as long as another attempt is due. -/
def Standing.verdict : Standing → Option (Outcome (String × Properties))
  | .unanswered | .pending _ => none
  | .completed id data => some (.ok (id, data))
  | .failed failure => some (.error failure)

variable {State : Type} {service : Service State} {settings : Settings.Engine} {event : Event}
  {startedAt : Timestamp} {handler : Handler} {initial state : State} {standing : Standing}

/-- The state of the service, and where the event stands, after attempts that have left the event
pending. -/
inductive Retries (service : Service State) (settings : Settings.Engine) (event : Event)
    (startedAt : Timestamp) (initial : State) : State → Standing → Prop where
  | start : Retries service settings event startedAt initial initial .unanswered
  | again {state after : State} {standing : Standing} {continuation : Continuation}
      (earlier : Retries service settings event startedAt initial state standing)
      (suffers : Dialogue.Suffers service (attempt settings event startedAt standing) state
        (.pending continuation) after) :
      Retries service settings event startedAt initial after (.pending continuation)

/-- The state and the standing that attempts with the given fates of their requests lead to. -/
def retried (service : Service State) (settings : Settings.Engine) (event : Event)
    (startedAt : Timestamp) :
    List (List Dialogue.Fate) → State → Standing → Option (State × Standing)
  | [], state, standing => some (state, standing)
  | fates :: rest, state, standing =>
      match (attempt settings event startedAt standing).endure service fates state with
      | (.pending continuation, after) =>
          retried service settings event startedAt rest after (.pending continuation)
      | _ => none

/-- Attempts with given fates are a way to leave the event pending. -/
theorem Retries.retried {plan : List (List Dialogue.Fate)} {after : State} {last : Standing}
    (retries : Retries service settings event startedAt initial state standing)
    (reached : Engine.retried service settings event startedAt plan state standing =
      some (after, last)) :
    Retries service settings event startedAt initial after last := by
  induction plan generalizing state standing with
  | nil =>
      cases reached
      exact retries
  | cons fates rest ih =>
      have suffers :=
        Dialogue.suffers_endure service (attempt settings event startedAt standing) fates state
      unfold Engine.retried at reached
      split at reached
      · rename_i ended
        rw [ended] at suffers
        exact ih (retries.again suffers) reached
      · cases reached

/-! ## Handlers that answer once more -/

/-- A check of the event answers it once more, and that answer can be tried again. -/
structure Repeatable (service : Service State) (handler : Handler) (event : Event) : Prop where
  check_eq : ∀ continuation,
    handler.check continuation = Check.ofAnswer <$> handler.respond continuation.event
  respond_withId : ∀ id, handler.physicalId event = .ok id →
    handler.respond { event with physicalId := some id } = handler.respond event
  respond_nameless : ∀ failure, handler.physicalId event = .error failure →
    handler.respond event = Flow.ofOutcome (.error failure)
  resumable : ∀ id, handler.physicalId event = .ok id →
    Flow.Resumable service (handler.respond event) (CompletesAs id)

/-- A handler is repeatable if it asks nothing before the identifier is known and keeps the
identifier that an event has been given. -/
theorem repeatable_repeating {physicalId : Event → Outcome String} {respond : Event → Flow Answer}
    {follow : Event → String → Flow Answer}
    (respond_eq : ∀ event, respond event = Flow.ofOutcome (physicalId event) >>= follow event)
    (kept : ∀ id, physicalId event = .ok id →
      physicalId { event with physicalId := some id } = .ok id)
    (follow_eq : ∀ id, follow { event with physicalId := some id } = follow event)
    (resumable : ∀ id, physicalId event = .ok id →
      Flow.Resumable service (respond event) (CompletesAs id)) :
    Repeatable service (.repeating physicalId respond) event where
  check_eq := fun _ => rfl
  respond_withId := by
    intro id named
    have here : physicalId event = .ok id := named
    show respond _ = respond event
    rw [respond_eq, respond_eq, kept id here, here, follow_eq]
  respond_nameless := by
    intro failure nameless
    have here : physicalId event = .error failure := nameless
    show respond event = _
    rw [respond_eq, here, Flow.ofOutcome_error_bind]
  resumable := resumable

namespace Repeatable

variable (repeatable : Repeatable service handler event)
include repeatable

/-- An answer is finished, and it has the identifier of the event. -/
theorem completesAs {answer : Answer} {log : List Exchange}
    (ends : (handler.respond event).Ends log (.ok answer)) :
    ∃ id, handler.physicalId event = .ok id ∧ CompletesAs id answer := by
  cases named : handler.physicalId event with
  | ok id => exact ⟨id, rfl, (repeatable.resumable id named).yields log answer ends⟩
  | error failure =>
      rw [repeatable.respond_nameless failure named] at ends
      cases (Flow.ends_ofOutcome.mp ends).2

/-- Whatever is lost, the answer is the same from the state that is left. -/
theorem serve_eq {outcome : Outcome Answer} {after : State}
    (suffers : Dialogue.Suffers service (handler.respond event).run state outcome after) :
    (handler.respond event).serve service after = (handler.respond event).serve service state := by
  cases named : handler.physicalId event with
  | ok id =>
      have resumable := repeatable.resumable id named
      exact resumable.recovers state after (suffers.passes resumable.fragile)
  | error failure =>
      rw [repeatable.respond_nameless failure named] at suffers ⊢
      cases suffers
      rfl

end Repeatable

/-! ## What interrupted attempts leave -/

/-- The event waits for another attempt, whose answer is the one that the first attempt would have
given. -/
structure Awaits (service : Service State) (handler : Handler) (event : Event) (initial : State)
    (state : State) (continuation : Continuation) : Prop where
  named : handler.physicalId event = .ok continuation.physicalId
  event_eq : continuation.event = { event with physicalId := some continuation.physicalId }
  serve_eq : (handler.respond event).serve service state =
    (handler.respond event).serve service initial

/-- A check of an event that waits answers the event once more. -/
theorem Awaits.check_run {continuation : Continuation}
    (repeatable : Repeatable service handler event)
    (awaits : Awaits service handler event initial state continuation) :
    (handler.check continuation).run =
      (handler.respond event).run.bind fun outcome => .done (Check.ofAnswer <$> outcome) := by
  rw [repeatable.check_eq, awaits.event_eq, repeatable.respond_withId _ awaits.named]
  show Dialogue.bind _ _ = _
  congr 1
  funext outcome
  cases outcome <;> rfl

/-- An attempt that checks an event that waits answers it once more. -/
theorem Awaits.attempt_eq {continuation : Continuation}
    (routed : route settings event = .ok handler) (repeatable : Repeatable service handler event)
    (awaits : Awaits service handler event initial state continuation) :
    attempt settings event startedAt (.pending continuation) =
      (handler.respond event).run.bind fun outcome =>
        .done (.ofCheck continuation (checked continuation (Check.ofAnswer <$> outcome))) := by
  have same : route settings continuation.event = .ok handler := by
    rw [awaits.event_eq, route_withId, routed]
  rw [attempt_pending same, awaits.check_run repeatable, Dialogue.bind_assoc]
  rfl

/-- The first attempt leaves an event that waits, if it leaves it pending. -/
theorem awaits_of_first {continuation : Continuation} {after : State}
    (routed : route settings event = .ok handler) (repeatable : Repeatable service handler event)
    (suffers : Dialogue.Suffers service (attempt settings event startedAt .unanswered) initial
      (.pending continuation) after) :
    Awaits service handler event initial after continuation := by
  rw [attempt_unanswered routed] at suffers
  obtain ⟨outcome, responds, same⟩ := Dialogue.suffers_bind_done suffers
  have alike := repeatable.serve_eq responds
  cases outcome with
  | ok answer =>
      obtain ⟨log, ends⟩ := responds.ends
      obtain ⟨id, -, data, rfl⟩ := repeatable.completesAs ends
      cases same
  | error failure =>
      cases transient : failure.isTransient with
      | false =>
          rw [answered_of_terminal transient] at same
          cases same
      | true =>
          cases named : handler.physicalId event with
          | ok id =>
              rw [answered_of_transient transient named] at same
              cases same
              exact ⟨named, rfl, alike⟩
          | error underivable =>
              simp only [answered, transient, if_true, named] at same
              cases same

/-- A later attempt leaves an event that waits, if it leaves it pending. -/
theorem Awaits.again {before continuation : Continuation} {after : State}
    (routed : route settings event = .ok handler) (repeatable : Repeatable service handler event)
    (awaits : Awaits service handler event initial state before)
    (suffers : Dialogue.Suffers service (attempt settings event startedAt (.pending before)) state
      (.pending continuation) after) :
    Awaits service handler event initial after continuation := by
  rw [awaits.attempt_eq routed repeatable] at suffers
  obtain ⟨outcome, responds, same⟩ := Dialogue.suffers_bind_done suffers
  have alike := (repeatable.serve_eq responds).trans awaits.serve_eq
  cases outcome with
  | ok answer =>
      obtain ⟨log, ends⟩ := responds.ends
      obtain ⟨id, -, data, rfl⟩ := repeatable.completesAs ends
      cases same
  | error failure =>
      have failed : Check.ofAnswer <$> (.error failure : Outcome Answer) = .error failure := rfl
      rw [failed] at same
      cases transient : failure.isTransient with
      | false =>
          rw [checked_of_terminal transient] at same
          cases same
      | true =>
          rw [checked_of_transient transient] at same
          cases same
          exact ⟨awaits.named, awaits.event_eq, alike⟩

/-- After any interrupted attempts the event waits for the answer of the first one. -/
theorem Retries.awaits (routed : route settings event = .ok handler)
    (repeatable : Repeatable service handler event)
    (retries : Retries service settings event startedAt initial state standing) :
    (standing = .unanswered ∧ state = initial) ∨
      ∃ continuation, standing = .pending continuation ∧
        Awaits service handler event initial state continuation := by
  induction retries with
  | start => exact .inl ⟨rfl, rfl⟩
  | again earlier suffers ih =>
      refine .inr ⟨_, rfl, ?_⟩
      rcases ih with ⟨rfl, rfl⟩ | ⟨before, rfl, awaits⟩
      · exact awaits_of_first routed repeatable suffers
      · exact awaits.again routed repeatable suffers

/-! ## The attempt that is not interrupted -/

/-- A finished answer comes to the same, be it given at once or with a check. -/
theorem verdict_eq {continuation : Continuation} {outcome : Outcome Answer}
    (named : handler.physicalId event = .ok continuation.physicalId)
    (complete : ∀ answer, outcome = .ok answer → CompletesAs continuation.physicalId answer) :
    (Standing.ofCheck continuation (checked continuation (Check.ofAnswer <$> outcome))).verdict =
      (Standing.ofAnswer event startedAt (answered handler event outcome)).verdict := by
  cases outcome with
  | ok answer =>
      obtain ⟨data, rfl⟩ := complete answer rfl
      rfl
  | error failure =>
      show (Standing.ofCheck continuation (checked continuation (.error failure))).verdict = _
      cases transient : failure.isTransient with
      | false =>
          rw [checked_of_terminal transient, answered_of_terminal transient]
          rfl
      | true =>
          rw [checked_of_transient transient, answered_of_transient transient named]
          rfl

/-- **After any interrupted attempts, an attempt that is not interrupted comes to what the first one
would have come to, and leaves the service in the same state.** -/
theorem Retries.alike (routed : route settings event = .ok handler)
    (repeatable : Repeatable service handler event)
    (retries : Retries service settings event startedAt initial state standing) :
    ((attempt settings event startedAt standing).serve service state).1.verdict =
        ((attempt settings event startedAt .unanswered).serve service initial).1.verdict ∧
      ((attempt settings event startedAt standing).serve service state).2 =
        ((attempt settings event startedAt .unanswered).serve service initial).2 := by
  rcases retries.awaits routed repeatable with ⟨rfl, rfl⟩ | ⟨continuation, rfl, awaits⟩
  · exact ⟨rfl, rfl⟩
  · have same : (handler.respond event).run.serve service state =
        (handler.respond event).run.serve service initial := awaits.serve_eq
    rw [awaits.attempt_eq routed repeatable, attempt_unanswered routed, Dialogue.serve_bind,
      Dialogue.serve_bind, same]
    refine ⟨verdict_eq awaits.named ?_, rfl⟩
    intro answer responded
    obtain ⟨log, ends⟩ := (Dialogue.suffers_serve service (handler.respond event).run initial).ends
    rw [responded] at ends
    obtain ⟨id, named, complete⟩ := repeatable.completesAs ends
    cases named.symm.trans awaits.named
    exact complete

end Provision.Engine
