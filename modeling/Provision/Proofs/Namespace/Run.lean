import Provision.Proofs.Engine.Run
import Provision.Proofs.Lifecycle.Identifier
import Provision.Proofs.Namespace.Step

/-!
# Runs of a namespace

Every attempt on a declared namespace is one step (`attempt_leads`). The step starts from the
checkpoint that the standing carries: the empty one for the answer, and the one in the
continuation for a check. A step that fails for the time being leaves that checkpoint as it was.
-/

set_option autoImplicit false

namespace Provision.Namespace

open Engine (Concerns Standing attempt)
open Lifecycle (Answer Check Continuation Event ResourceKind)
open Time (Timestamp)

/-- The next attempt starts from the checkpoint. -/
inductive Carries (spec : Spec) : Standing → Properties → Prop where
  | unanswered : Carries spec .unanswered []
  | pending {continuation : Continuation} (named : continuation.physicalId = spec.name) :
      Carries spec (.pending continuation) continuation.checkpoint

/-- Where a step from a checkpoint leads. -/
inductive Leads (spec : Spec) (checkpoint : Properties) : Outcome Progress → Standing → Prop where
  | completes (data : Properties) :
      Leads spec checkpoint (.ok (.finished data)) (.completed spec.name data)
  | goesOn {reached : Properties} {continuation : Continuation}
      (carries : Carries spec (.pending continuation) reached) :
      Leads spec checkpoint (.ok (.pending reached)) (.pending continuation)
  | retries {failure : Failure} {continuation : Continuation}
      (transient : failure.isTransient = true)
      (carries : Carries spec (.pending continuation) checkpoint) :
      Leads spec checkpoint (.error failure) (.pending continuation)
  | fails {failure : Failure} (terminal : failure.isTransient = false) :
      Leads spec checkpoint (.error failure) (.failed failure)

variable {settings : Settings.Engine} {event : Event} {startedAt : Timestamp} {spec : Spec}
  {checkpoint : Properties} {standing after : Standing} {log : List Exchange}

theorem Carries.isOpen (carries : Carries spec standing checkpoint) : standing.isOpen = true := by
  cases carries <;> rfl

/-! ## What is asked for an event -/

/-- The identifier of a new namespace is the declared name. -/
theorem physicalId_of_create (asked : event.request = .create)
    (declared : declaration event = .ok spec) : physicalId event = .ok spec.name := by
  unfold physicalId
  rw [Event.idOr_of_create asked, declared]
  rfl

/-- An event that has been given its identifier keeps it. -/
theorem physicalId_withId {id : String} (named : physicalId event = .ok id) :
    physicalId { event with physicalId := some id } = .ok id :=
  Event.idOr_withId named

/-- A step for an event that is about its own name goes on to the declared namespace. -/
theorem advance_eq {threshold : Nat} (changes : event.request ≠ .delete)
    (named : physicalId event = .ok spec.name) (declared : declaration event = .ok spec) :
    advance threshold event checkpoint = converge threshold spec checkpoint := by
  unfold advance
  rw [named, Flow.ofOutcome_ok_bind, declared]
  cases asked : event.request with
  | create => rfl
  | update =>
      have same : (spec.name != spec.name) = false := bne_self_eq_false spec.name
      simp only [Flow.ofOutcome_ok_bind, same]
      rfl
  | delete => exact absurd asked changes

/-- The answer that a step amounts to. -/
def answerFor (id : String) : Progress → Answer
  | .finished data => .complete id data
  | .pending checkpoint => .pending id checkpoint

/-- The check that a step amounts to. -/
def checkFor : Progress → Check
  | .finished data => .complete data
  | .pending checkpoint => .pending checkpoint

/-- An event that is identified is answered with what one step reaches. -/
theorem respond_of_physicalId {threshold : Nat} {id : String}
    (named : physicalId event = .ok id) :
    respond threshold event =
      advance threshold event [] >>= fun reached => pure (answerFor id reached) := by
  unfold respond
  rw [named]
  show advance threshold event [] >>= _ = _
  congr 1
  funext reached
  cases reached <;> rfl

/-- A change that cannot be identified is refused for just that. -/
theorem respond_of_nameless {threshold : Nat} {failure : Failure}
    (changes : event.request ≠ .delete) (nameless : physicalId event = .error failure) :
    respond threshold event = Flow.ofOutcome (.error failure) := by
  unfold respond
  rw [nameless]
  dsimp only
  rw [if_neg fun same => changes (beq_iff_eq.mp same)]
  rfl

/-- A deletion that cannot be identified has nothing to delete. -/
theorem respond_of_nameless_delete {threshold : Nat} {failure : Failure}
    (deletes : event.request = .delete) (nameless : physicalId event = .error failure) :
    respond threshold event = pure (Answer.complete (event.physicalId.getD "") []) := by
  unfold respond
  rw [nameless]
  dsimp only
  rw [if_pos (beq_iff_eq.mpr deletes)]

/-- A check tells what one step reaches. -/
theorem check_eq_advance {threshold : Nat} (continuation : Continuation) :
    check threshold continuation =
      advance threshold continuation.event continuation.checkpoint >>= fun reached =>
        pure (checkFor reached) := by
  unfold check
  congr 1
  funext reached
  cases reached <;> rfl

/-- The answer to an event is one step from the empty checkpoint. -/
theorem respond_eq {threshold : Nat} (changes : event.request ≠ .delete)
    (named : physicalId event = .ok spec.name) (declared : declaration event = .ok spec) :
    respond threshold event =
      converge threshold spec [] >>= fun reached => pure (answerFor spec.name reached) := by
  rw [respond_of_physicalId named, advance_eq changes named declared]

/-- A check is one step from the checkpoint in the continuation. -/
theorem check_eq {threshold : Nat} {continuation : Continuation}
    (changes : continuation.event.request ≠ .delete)
    (named : physicalId continuation.event = .ok spec.name)
    (declared : declaration continuation.event = .ok spec) :
    check threshold continuation =
      converge threshold spec continuation.checkpoint >>= fun reached =>
        pure (checkFor reached) := by
  rw [check_eq_advance, advance_eq changes named declared]

/-! ## Where attempts lead -/

theorem leads_of_answer {reached : Outcome Progress} (named : physicalId event = .ok spec.name) :
    Leads spec [] reached
      (.ofAnswer event startedAt (Engine.answered (handler settings.namespaces) event
        (answerFor spec.name <$> reached))) := by
  cases reached with
  | ok reached =>
      cases reached with
      | finished data => exact .completes data
      | pending checkpoint => exact .goesOn (.pending rfl)
  | error failure =>
      show Leads spec _ _ (.ofAnswer event startedAt (Engine.answered _ event (.error failure)))
      cases transient : failure.isTransient with
      | true =>
          rw [Engine.answered_of_transient transient named]
          exact .retries transient (.pending rfl)
      | false =>
          rw [Engine.answered_of_terminal transient]
          exact .fails transient

theorem leads_of_check {continuation : Continuation} {reached : Outcome Progress}
    (named : continuation.physicalId = spec.name) :
    Leads spec continuation.checkpoint reached
      (.ofCheck continuation (Engine.checked continuation (checkFor <$> reached))) := by
  cases reached with
  | ok reached =>
      cases reached with
      | finished data =>
          show Leads spec _ _ (.completed continuation.physicalId data)
          rw [named]
          exact .completes data
      | pending checkpoint => exact .goesOn (.pending named)
  | error failure =>
      show Leads spec _ _ (.ofCheck continuation (Engine.checked _ (.error failure)))
      cases transient : failure.isTransient with
      | true =>
          rw [Engine.checked_of_transient transient]
          exact .retries transient (.pending named)
      | false =>
          rw [Engine.checked_of_terminal transient]
          exact .fails transient

/-- **Every attempt is one step from the checkpoint that the standing carries.** -/
theorem attempt_leads (kind : ResourceKind.ofName event.resourceType = .ok .warehouseNamespace)
    (changes : event.request ≠ .delete) (declared : declaration event = .ok spec)
    (named : event.request = .update → physicalId event = .ok spec.name)
    (concerns : ∀ continuation, standing = .pending continuation → Concerns event continuation)
    (carries : Carries spec standing checkpoint)
    (ends : (attempt settings event startedAt standing).Ends log after) :
    ∃ reached,
      Flow.Ends (converge settings.namespaces.afterStalePolls spec checkpoint) log reached ∧
        Leads spec checkpoint reached after := by
  have routed : Engine.route settings event = .ok (handler settings.namespaces) :=
    Engine.route_of_ofName kind
  have derived : physicalId event = .ok spec.name := by
    cases asked : event.request with
    | create => exact physicalId_of_create asked declared
    | update => exact named asked
    | delete => exact absurd asked changes
  cases carries with
  | unanswered =>
      rw [Engine.attempt_unanswered routed] at ends
      obtain ⟨outcome, responded, rfl⟩ := Dialogue.ends_bind_done.mp ends
      have stepped : Flow.Ends (respond settings.namespaces.afterStalePolls event) log outcome :=
        responded
      rw [respond_eq changes derived declared] at stepped
      obtain ⟨reached, taken, rfl⟩ := Flow.ends_bind_pure.mp stepped
      exact ⟨reached, taken, leads_of_answer derived⟩
  | pending about =>
      obtain ⟨id, same, rfl⟩ := concerns _ rfl
      rw [about] at same
      rw [Engine.attempt_pending ((concerns _ rfl).route_eq.trans routed)] at ends
      obtain ⟨outcome, checked, rfl⟩ := Dialogue.ends_bind_done.mp ends
      have stepped : Flow.Ends (check settings.namespaces.afterStalePolls _) log outcome := checked
      rw [check_eq (by rw [same]; exact changes)
        (by rw [same]; exact physicalId_withId derived) (by rw [same]; exact declared)] at stepped
      obtain ⟨reached, taken, rfl⟩ := Flow.ends_bind_pure.mp stepped
      exact ⟨reached, taken, leads_of_check about⟩

end Provision.Namespace
