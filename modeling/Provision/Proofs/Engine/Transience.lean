import Mathlib.Control.Monad.Basic
import Provision.Proofs.Engine.Identity
import Provision.Rehearsal.Stage

/-!
# What becomes of failures

The controller sorts the failures of its handlers. A transient one never reaches the caller: the
event stays pending under its identifier, or keeps the checkpoint that it had, and the failure is
noted. Any other failure goes back as it is (`failures_sorted`).

To leave an event pending the controller has to identify it once more. That cannot go wrong, since
a handler that cannot identify an event asks nothing and is done with it at once
(`respond_of_nameless`), and what is wrong with a declaration is no transient failure.
-/

set_option autoImplicit false

namespace Provision.Engine

open Lifecycle (Answer Check Continuation Event Handler ResourceKind)

variable {settings : Settings.Engine} {event : Event} {continuation : Continuation}
  {kind : ResourceKind} {log : List Exchange} {failure : Failure} {handler : Handler}

/-! ## Events that cannot be identified -/

theorem validates_physicalId (settings : Settings.Engine) (kind : ResourceKind) (event : Event) :
    Validates ((handlerOf settings kind).physicalId event) := by
  cases kind with
  | acl => exact Acl.validates_physicalId event
  | topic => exact Topic.validates_physicalId _ event
  | connectivityUpdate => exact Connectivity.validates_physicalId event
  | warehouseNamespace => exact Namespace.validates_physicalId event

/-- An event that cannot be identified fails at once for just that reason, unless there is nothing
to delete. -/
theorem respond_of_nameless
    (nameless : (handlerOf settings kind).physicalId event = .error failure) :
    (handlerOf settings kind).respond event = Flow.ofOutcome (.error failure) ∨
      ∃ answer, (handlerOf settings kind).respond event = pure answer := by
  cases kind with
  | acl => exact .inl (Acl.respond_of_nameless _ nameless)
  | topic => exact .inl (Topic.respond_of_nameless _ nameless)
  | connectivityUpdate =>
      by_cases deletes : event.request = .delete
      · exact .inr ⟨_, Connectivity.respond_of_delete deletes⟩
      · exact .inl (Connectivity.respond_of_nameless deletes nameless)
  | warehouseNamespace =>
      by_cases deletes : event.request = .delete
      · exact .inr ⟨_, Namespace.respond_of_nameless_delete deletes nameless⟩
      · exact .inl (Namespace.respond_of_nameless deletes nameless)

/-- An event whose handling has failed for the time being can be identified. -/
theorem exists_physicalId_of_transient
    (fails : ((handlerOf settings kind).respond event).Ends log (.error failure))
    (transient : failure.isTransient = true) :
    ∃ id, (handlerOf settings kind).physicalId event = .ok id := by
  cases derived : (handlerOf settings kind).physicalId event with
  | ok id => exact ⟨id, rfl⟩
  | error nameless =>
      have terminal := (validates_physicalId settings kind event).terminal derived
      obtain refused | ⟨answer, answers⟩ := respond_of_nameless derived
      · rw [refused] at fails
        obtain ⟨-, same⟩ := Flow.ends_ofOutcome.mp fails
        cases same
        rw [terminal] at transient
        cases transient
      · rw [answers] at fails
        cases (Flow.ends_pure.mp fails).2

/-! ## What the caller is told -/

theorem validates_route (settings : Settings.Engine) (event : Event) :
    Validates (route settings event) := by
  refine Validates.map ?_
  unfold ResourceKind.ofName
  dsimp only
  split
  · exact .ok _
  · exact .invalid _

/-- What the caller of an answer is told is no transient failure. -/
theorem terminal_of_respond (fails : (respond settings event).Ends log (.error failure)) :
    failure.isTransient = false := by
  cases routed : route settings event with
  | error unknown =>
      rw [respond_of_unrouted routed] at fails
      obtain ⟨-, same⟩ := Flow.ends_ofOutcome.mp fails
      cases same
      exact (validates_route settings event).terminal routed
  | ok handler =>
      obtain ⟨kind, -, rfl⟩ := exists_kind_of_route routed
      obtain ⟨found, responded, told⟩ := (respond_ends_iff routed).mp fails
      cases found with
      | ok answer => cases told
      | error original =>
          cases transient : original.isTransient with
          | false =>
              rw [answered_of_terminal transient] at told
              cases told
              exact transient
          | true =>
              obtain ⟨id, derived⟩ := exists_physicalId_of_transient responded transient
              rw [answered_of_transient transient derived] at told
              cases told

theorem terminal_of_check (fails : (check settings continuation).Ends log (.error failure)) :
    failure.isTransient = false := by
  cases routed : route settings continuation.event with
  | error unknown =>
      rw [check_of_unrouted routed] at fails
      obtain ⟨-, same⟩ := Flow.ends_ofOutcome.mp fails
      cases same
      exact (validates_route settings continuation.event).terminal routed
  | ok handler =>
      obtain ⟨found, -, told⟩ := (check_ends_iff routed).mp fails
      cases found with
      | ok result => cases told
      | error original =>
          cases transient : original.isTransient with
          | false =>
              rw [checked_of_terminal transient] at told
              cases told
              exact transient
          | true =>
              rw [checked_of_transient transient] at told
              cases told

/-- A check that only notes a failure changes nothing but the count of attempts and the note. -/
theorem advance_of_noted {noted : Check}
    (few : continuation.polling.attempt + 1 < Number.wordSize 32)
    (kept : noted.checkpoint = continuation.checkpoint) :
    continuation.advance noted =
      { continuation with
        polling :=
          { continuation.polling with
            attempt := continuation.polling.attempt + 1
            lastError := noted.lastError } } := by
  have counted : Number.wrapped 32 (continuation.polling.attempt + 1) =
      continuation.polling.attempt + 1 :=
    Number.wrapped_of_lt few
  unfold Continuation.advance
  rw [counted, kept]

/-- **The caller never sees a transient failure, and sees every other failure as it is.** An event
whose handling fails for the time being is pending under its identifier, which can always be derived
then, and without a checkpoint. A check that fails for the time being keeps the checkpoint and notes
the failure, so that the continuation goes on with one more attempt and the note, and is otherwise
the same. -/
theorem failures_sorted (settings : Settings.Engine) (event : Event)
    (continuation : Continuation) :
    (∀ log failure, (respond settings event).Ends log (.error failure) →
      failure.isTransient = false) ∧
    (∀ log failure, (check settings continuation).Ends log (.error failure) →
      failure.isTransient = false) ∧
    (∀ failure, route settings event = .error failure →
      respond settings event = Flow.ofOutcome (.error failure)) ∧
    (∀ failure, route settings continuation.event = .error failure →
      check settings continuation = Flow.ofOutcome (.error failure)) ∧
    (∀ handler, route settings event = .ok handler →
      (∀ log told, (respond settings event).Ends log told ↔
        ∃ found, (handler.respond event).Ends log found ∧
          told = answered handler event found) ∧
      ∀ log failure, (handler.respond event).Ends log (.error failure) →
        (failure.isTransient = true → ∃ id, handler.physicalId event = .ok id ∧
          answered handler event (.error failure) = .ok (Answer.pending id [])) ∧
        (failure.isTransient = false →
          answered handler event (.error failure) = .error failure)) ∧
    ∀ handler, route settings continuation.event = .ok handler →
      (∀ log told, (check settings continuation).Ends log told ↔
        ∃ found, (handler.check continuation).Ends log found ∧
          told = checked continuation found) ∧
      ∀ failure,
        (failure.isTransient = true →
          ∃ noted, checked continuation (.error failure) = .ok noted ∧
            noted.isComplete = false ∧ noted.checkpoint = continuation.checkpoint ∧
            noted.lastError = some failure.display ∧
            (continuation.polling.attempt + 1 < Number.wordSize 32 →
              continuation.advance noted =
                { continuation with
                  polling :=
                    { continuation.polling with
                      attempt := continuation.polling.attempt + 1
                      lastError := some failure.display } })) ∧
        (failure.isTransient = false →
          checked continuation (.error failure) = .error failure) := by
  refine ⟨fun log failure => terminal_of_respond, fun log failure => terminal_of_check,
    fun failure => respond_of_unrouted, fun failure => check_of_unrouted, ?answers, ?checks⟩
  case answers =>
    intro handler routed
    obtain ⟨kind, -, rfl⟩ := exists_kind_of_route routed
    refine ⟨fun log told => respond_ends_iff routed, fun log failure fails => ⟨?_, ?_⟩⟩
    · intro transient
      obtain ⟨id, derived⟩ := exists_physicalId_of_transient fails transient
      exact ⟨id, derived, answered_of_transient transient derived⟩
    · exact answered_of_terminal
  case checks =>
    intro handler routed
    refine ⟨fun log told => check_ends_iff routed, fun failure => ⟨?_, ?_⟩⟩
    · intro transient
      exact ⟨_, checked_of_transient transient continuation, rfl, rfl, rfl,
        fun few => advance_of_noted few rfl⟩
    · intro terminal
      exact checked_of_terminal terminal continuation

/-- A creation that has been checked seven times, and has a checkpoint. -/
def awaited : Continuation :=
  { event := { astray .create with physicalId := some "orders" }
    polling :=
      { physicalId := "orders", startedAt := Rehearsal.beginning, attempt := 7, lastError := none }
    checkpoint := [("submitted", .bool true)] }

/-- The control plane cannot be reached, neither for the first answer nor for a later check. -/
theorem failures_sorted_throttled :
    (respond {} (astray .create)).Ends throttled (.ok (Answer.pending "orders" [])) ∧
      ∃ noted, (check {} awaited).Ends throttled (.ok noted) ∧
        noted.lastError = some "瞬时错误: throttled" ∧
        awaited.advance noted =
          { awaited with
            polling :=
              { awaited.polling with attempt := 8, lastError := some "瞬时错误: throttled" } } := by
  have answers : ((handlerOf {} .topic).respond (astray .create)).Ends throttled
      (.error (.transient "throttled")) := Flow.ends_error_of_replay (by decide +kernel)
  have checks : ((handlerOf {} .topic).check awaited).Ends throttled
      (.error (.transient "throttled")) := Flow.ends_error_of_replay (by decide +kernel)
  obtain ⟨-, -, -, -, answered, checked⟩ := failures_sorted {} (astray .create) awaited
  obtain ⟨told, failed⟩ := answered (handlerOf {} .topic) (route_of_ofName (by decide +kernel))
  obtain ⟨id, derived, pending⟩ := (failed throttled _ answers).1 rfl
  have named : (handlerOf {} .topic).physicalId (astray .create) = .ok "orders" := by
    decide +kernel
  cases named.symm.trans derived
  obtain ⟨toldAgain, noticed⟩ := checked (handlerOf {} .topic) (route_of_ofName (by decide +kernel))
  obtain ⟨noted, keeps, -, -, note, advances⟩ := (noticed (.transient "throttled")).1 rfl
  refine ⟨(told throttled _).mpr ⟨_, answers, pending.symm⟩, noted,
    (toldAgain throttled _).mpr ⟨_, checks, keeps.symm⟩, note, ?_⟩
  exact advances (by decide)

end Provision.Engine
