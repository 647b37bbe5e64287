import Provision.Proofs.Connectivity.Step
import Provision.Proofs.Engine.Run
import Provision.Proofs.Json.Decoding
import Provision.Proofs.Lifecycle.Validation

/-!
# Runs of a connectivity change

Every attempt on a connectivity change is one step (`attempt_leads`). The step starts from the
checkpoint that the standing carries: the initial one for the answer, and the one in the
continuation for a check. A step that fails for the time being leaves that checkpoint as it was,
and a step that goes on hands its own checkpoint over to the next attempt.
-/

set_option autoImplicit false

namespace Provision.Connectivity

open Engine (Concerns Standing attempt)
open Lifecycle (Answer Check Continuation Event ResourceKind)
open Time (Timestamp)

/-- The next attempt starts from the checkpoint. -/
inductive Carries (target : Target) : Standing → Checkpoint → Prop where
  | unanswered : Carries target .unanswered (Checkpoint.initial target)
  | pending {continuation : Continuation} {checkpoint : Checkpoint} (fits : checkpoint.Fits)
      (read : Checkpoint.ofProperties continuation.checkpoint target = .ok checkpoint) :
      Carries target (.pending continuation) checkpoint

/-- Where a step from a checkpoint leads. -/
inductive Leads (target : Target) (checkpoint : Checkpoint) :
    Outcome Checkpoint → Standing → Prop where
  | completes {reached : Checkpoint} {id : String} (stable : reached.phase = .stable) :
      Leads target checkpoint (.ok reached) (.completed id (output target reached))
  | goesOn {reached : Checkpoint} {continuation : Continuation} (unstable : reached.phase ≠ .stable)
      (written : continuation.checkpoint = reached.toProperties) :
      Leads target checkpoint (.ok reached) (.pending continuation)
  | retries {failure : Failure} {continuation : Continuation}
      (transient : failure.isTransient = true)
      (carries : Carries target (.pending continuation) checkpoint) :
      Leads target checkpoint (.error failure) (.pending continuation)
  | fails {failure : Failure} (terminal : failure.isTransient = false) :
      Leads target checkpoint (.error failure) (.failed failure)

variable {settings : Settings.Engine} {event : Event} {startedAt : Timestamp} {target : Target}
  {checkpoint : Checkpoint} {standing after : Standing} {log : List Exchange}

theorem Carries.fits (carries : Carries target standing checkpoint) : checkpoint.Fits := by
  cases carries with
  | unanswered => exact Checkpoint.initial_fits target
  | pending fits read => exact fits

theorem Carries.isOpen (carries : Carries target standing checkpoint) :
    standing.isOpen = true := by
  cases carries <;> rfl

/-- A continuation with a written checkpoint carries it. -/
theorem carries_of_written {continuation : Continuation} (fits : checkpoint.Fits)
    (written : continuation.checkpoint = checkpoint.toProperties) :
    Carries target (.pending continuation) checkpoint :=
  .pending fits (written ▸ Checkpoint.ofProperties_toProperties fits target)

/-- A continuation without a checkpoint carries the initial one. -/
theorem carries_of_empty {continuation : Continuation} (empty : continuation.checkpoint = []) :
    Carries target (.pending continuation) (Checkpoint.initial target) := by
  refine .pending (Checkpoint.initial_fits target) ?_
  rw [empty]
  rfl

/-! ## What is asked for an event -/

theorem declaredTarget_withId (event : Event) (id : Option String) :
    declaredTarget { event with physicalId := id } = declaredTarget event := rfl

/-- A declared target refers to a cluster. -/
theorem reference_of_declaredTarget (declared : declaredTarget event = .ok target) :
    ∃ cluster, target.reference = .ok cluster := by
  obtain ⟨found, -, refers⟩ := exists_of_bind_eq_ok declared
  obtain ⟨cluster, referred, same⟩ := exists_of_bind_eq_ok refers
  cases same
  exact ⟨cluster, referred⟩

theorem physicalId_of_declaredTarget (declared : declaredTarget event = .ok target) :
    ∃ id, physicalId event = .ok id := by
  obtain ⟨cluster, referred⟩ := reference_of_declaredTarget declared
  unfold physicalId Event.idOr
  cases event.givenId? with
  | some id => exact ⟨id, rfl⟩
  | none =>
      rw [declared]
      show ∃ id, (do let cluster ← target.reference; pure ("connectivity/" ++ cluster.name)) = _
      rw [referred]
      exact ⟨_, rfl⟩

/-- The answer that a checkpoint amounts to. -/
def answerFor (id : String) (target : Target) (reached : Checkpoint) : Answer :=
  if reached.phase == .stable then .complete id (output target reached)
  else .pending id reached.toProperties

/-- The check that a checkpoint amounts to. -/
def checkFor (target : Target) (reached : Checkpoint) : Check :=
  if reached.phase == .stable then .complete (output target reached)
  else .pending reached.toProperties

/-- The answer to an event is one step from the initial checkpoint. -/
theorem respond_eq {threshold : Nat} {id : String} (changes : event.request ≠ .delete)
    (derived : physicalId event = .ok id) (declared : declaredTarget event = .ok target) :
    respond threshold event =
      step threshold target (Checkpoint.initial target) >>= fun reached =>
        pure (answerFor id target reached) := by
  unfold respond answerFor
  rw [if_neg fun same => changes (beq_iff_eq.mp same), derived, Flow.ofOutcome_ok_bind, declared,
    Flow.ofOutcome_ok_bind]
  simp only [apply_ite]

/-- A check is one step from the checkpoint in the continuation. -/
theorem check_eq {threshold : Nat} {continuation : Continuation}
    (changes : continuation.event.request ≠ .delete)
    (declared : declaredTarget continuation.event = .ok target)
    (read : Checkpoint.ofProperties continuation.checkpoint target = .ok checkpoint) :
    check threshold continuation =
      step threshold target checkpoint >>= fun reached => pure (checkFor target reached) := by
  unfold check checkFor
  rw [if_neg fun same => changes (beq_iff_eq.mp same), declared, Flow.ofOutcome_ok_bind, read,
    Flow.ofOutcome_ok_bind]
  simp only [apply_ite]

/-! ## Where attempts lead -/

theorem leads_of_answer {id : String} {reached : Outcome Checkpoint} {settings : Settings.Engine}
    (derived : physicalId event = .ok id) :
    Leads target (Checkpoint.initial target) reached
      (.ofAnswer event startedAt (Engine.answered (handler settings.connectivity) event
        (answerFor id target <$> reached))) := by
  cases reached with
  | ok reached =>
      show Leads target _ _ (.ofAnswer event startedAt (.ok (answerFor id target reached)))
      unfold answerFor
      by_cases stable : reached.phase = .stable
      · rw [if_pos (beq_iff_eq.mpr stable)]
        exact .completes stable
      · rw [if_neg fun same => stable (beq_iff_eq.mp same)]
        exact .goesOn stable rfl
  | error failure =>
      show Leads target _ _ (.ofAnswer event startedAt (Engine.answered _ event (.error failure)))
      cases transient : failure.isTransient with
      | true =>
          rw [Engine.answered_of_transient transient derived]
          exact .retries transient (carries_of_empty rfl)
      | false =>
          rw [Engine.answered_of_terminal transient]
          exact .fails transient

theorem leads_of_check {continuation : Continuation} {reached : Outcome Checkpoint}
    (carries : Carries target (.pending continuation) checkpoint) :
    Leads target checkpoint reached
      (.ofCheck continuation (Engine.checked continuation (checkFor target <$> reached))) := by
  cases reached with
  | ok reached =>
      show Leads target _ _ (.ofCheck continuation (.ok (checkFor target reached)))
      unfold checkFor
      by_cases stable : reached.phase = .stable
      · rw [if_pos (beq_iff_eq.mpr stable)]
        exact .completes stable
      · rw [if_neg fun same => stable (beq_iff_eq.mp same)]
        exact .goesOn stable rfl
  | error failure =>
      show Leads target _ _ (.ofCheck continuation (Engine.checked _ (.error failure)))
      cases transient : failure.isTransient with
      | true =>
          rw [Engine.checked_of_transient transient]
          cases carries with
          | pending fits read => exact .retries transient (.pending fits read)
      | false =>
          rw [Engine.checked_of_terminal transient]
          exact .fails transient

/-- **Every attempt is one step from the checkpoint that the standing carries.** -/
theorem attempt_leads (kind : ResourceKind.ofName event.resourceType = .ok .connectivityUpdate)
    (changes : event.request ≠ .delete) (declared : declaredTarget event = .ok target)
    (concerns : ∀ continuation, standing = .pending continuation → Concerns event continuation)
    (carries : Carries target standing checkpoint)
    (ends : (attempt settings event startedAt standing).Ends log after) :
    ∃ reached,
      Flow.Ends (step settings.connectivity.afterStalePolls target checkpoint) log reached ∧
        Leads target checkpoint reached after := by
  have routed : Engine.route settings event = .ok (handler settings.connectivity) :=
    Engine.route_of_ofName kind
  cases carries with
  | unanswered =>
      obtain ⟨id, derived⟩ := physicalId_of_declaredTarget declared
      rw [Engine.attempt_unanswered routed] at ends
      obtain ⟨outcome, responded, rfl⟩ := Dialogue.ends_bind_done.mp ends
      have stepped : Flow.Ends (respond settings.connectivity.afterStalePolls event) log outcome :=
        responded
      rw [respond_eq changes derived declared] at stepped
      obtain ⟨reached, taken, rfl⟩ := Flow.ends_bind_pure.mp stepped
      exact ⟨reached, taken, leads_of_answer derived⟩
  | pending fits read =>
      obtain ⟨id, same, -⟩ := concerns _ rfl
      rw [Engine.attempt_pending ((concerns _ rfl).route_eq.trans routed)] at ends
      obtain ⟨outcome, checked, rfl⟩ := Dialogue.ends_bind_done.mp ends
      have stepped : Flow.Ends (check settings.connectivity.afterStalePolls _) log outcome :=
        checked
      rw [check_eq (by rw [same]; exact changes) (by rw [same]; exact declared) read] at stepped
      obtain ⟨reached, taken, rfl⟩ := Flow.ends_bind_pure.mp stepped
      exact ⟨reached, taken, leads_of_check (.pending fits read)⟩

/-! ## What holds along a run -/

/-- **What every step keeps true of the history and the checkpoint holds as long as a run goes
on.** A step that fails for the time being only makes the history longer. -/
theorem run_invariant {holds : List Exchange → Checkpoint → Prop} {cluster : Cluster.Reference}
    {logs : List (List Exchange)}
    (kind : ResourceKind.ofName event.resourceType = .ok .connectivityUpdate)
    (changes : event.request ≠ .delete) (declared : declaredTarget event = .ok target)
    (referred : target.reference = .ok cluster) (start : holds [] (Checkpoint.initial target))
    (step : ∀ history checkpoint log reached, holds history checkpoint →
      Taken settings.connectivity.afterStalePolls cluster target.desired checkpoint log
        (.ok reached) → reached.phase ≠ .stable → holds (history ++ log) reached)
    (keep : ∀ history checkpoint log failure, holds history checkpoint →
      Taken settings.connectivity.afterStalePolls cluster target.desired checkpoint log
        (.error failure) → failure.isTransient = true → holds (history ++ log) checkpoint)
    (run : Engine.Run settings event startedAt logs standing) (isOpen : standing.isOpen = true) :
    ∃ checkpoint, Carries target standing checkpoint ∧ holds logs.flatten checkpoint := by
  induction run with
  | start => exact ⟨_, .unanswered, start⟩
  | step run wasOpen ends ih =>
      obtain ⟨checkpoint, carries, held⟩ := ih wasOpen
      obtain ⟨outcome, stepped, leads⟩ :=
        attempt_leads kind changes declared run.concerns carries ends
      have taken := step_taken referred stepped
      rw [List.flatten_concat]
      cases leads with
      | completes stable => cases isOpen
      | goesOn unstable written =>
          exact ⟨_, carries_of_written (taken.fits carries.fits) written,
            step _ _ _ _ held taken unstable⟩
      | retries transient carried => exact ⟨_, carried, keep _ _ _ _ held taken transient⟩
      | fails terminal => cases isOpen

/-! ## Events that are refused at once -/

/-- A change that cannot be identified is refused for just that. -/
theorem respond_of_nameless {threshold : Nat} {failure : Failure}
    (changes : event.request ≠ .delete) (nameless : physicalId event = .error failure) :
    respond threshold event = Flow.ofOutcome (.error failure) := by
  unfold respond
  rw [if_neg fun same => changes (beq_iff_eq.mp same), nameless, Flow.ofOutcome_error_bind]

/-- An event whose target is not declared well is refused before anything is asked. -/
theorem respond_of_undeclared {threshold : Nat} {failure : Failure}
    (changes : event.request ≠ .delete) (undeclared : declaredTarget event = .error failure) :
    respond threshold event = Flow.ofOutcome (.error failure) := by
  unfold respond
  rw [if_neg fun same => changes (beq_iff_eq.mp same), undeclared]
  unfold physicalId Event.idOr
  rw [undeclared]
  cases event.givenId? <;> rfl

/-- A check of an event whose target is not declared well is refused before anything is asked. -/
theorem check_of_undeclared {threshold : Nat} {continuation : Continuation} {failure : Failure}
    (changes : continuation.event.request ≠ .delete)
    (undeclared : declaredTarget continuation.event = .error failure) :
    check threshold continuation = Flow.ofOutcome (.error failure) := by
  unfold check
  rw [if_neg fun same => changes (beq_iff_eq.mp same), undeclared]
  rfl

/-- The first attempt on such an event is the last one. -/
theorem attempt_of_undeclared {failure : Failure}
    (kind : ResourceKind.ofName event.resourceType = .ok .connectivityUpdate)
    (changes : event.request ≠ .delete) (undeclared : declaredTarget event = .error failure)
    (ends : (attempt settings event startedAt .unanswered).Ends log after) :
    log = [] ∧ after = .failed failure := by
  rw [Engine.attempt_unanswered (Engine.route_of_ofName kind)] at ends
  obtain ⟨outcome, responded, rfl⟩ := Dialogue.ends_bind_done.mp ends
  have refused : Flow.Ends (respond settings.connectivity.afterStalePolls event) log outcome :=
    responded
  rw [respond_of_undeclared changes undeclared] at refused
  obtain ⟨rfl, rfl⟩ := Flow.ends_ofOutcome.mp refused
  rw [Engine.answered_of_terminal ((validates_declaredTarget event).terminal undeclared)]
  exact ⟨rfl, rfl⟩

theorem run_of_undeclared {failure : Failure} {logs : List (List Exchange)}
    (kind : ResourceKind.ofName event.resourceType = .ok .connectivityUpdate)
    (changes : event.request ≠ .delete) (undeclared : declaredTarget event = .error failure)
    (run : Engine.Run settings event startedAt logs standing) (isOpen : standing.isOpen = true) :
    standing = .unanswered := by
  induction run with
  | start => rfl
  | step run wasOpen ends ih =>
      rw [ih wasOpen] at ends
      rw [(attempt_of_undeclared kind changes undeclared ends).2] at isOpen
      cases isOpen

/-! ## Deletions -/

/-- A deletion is answered without a look at the cluster. -/
theorem respond_of_delete {threshold : Nat} (deletes : event.request = .delete) :
    respond threshold event = pure (Answer.complete (event.physicalId.getD "") []) := by
  unfold respond
  rw [if_pos (beq_iff_eq.mpr deletes)]

theorem check_of_delete {threshold : Nat} {continuation : Continuation}
    (deletes : continuation.event.request = .delete) :
    check threshold continuation = pure (Check.complete []) := by
  unfold check
  rw [if_pos (beq_iff_eq.mpr deletes)]

/-- The first attempt on a deletion is the last one, and it asks nothing. -/
theorem attempt_of_delete (kind : ResourceKind.ofName event.resourceType = .ok .connectivityUpdate)
    (deletes : event.request = .delete)
    (ends : (attempt settings event startedAt .unanswered).Ends log after) :
    log = [] ∧ after = .completed (event.physicalId.getD "") [] := by
  rw [Engine.attempt_unanswered (Engine.route_of_ofName kind)] at ends
  obtain ⟨outcome, responded, rfl⟩ := Dialogue.ends_bind_done.mp ends
  have answers : Flow.Ends (respond settings.connectivity.afterStalePolls event) log outcome :=
    responded
  rw [respond_of_delete deletes] at answers
  obtain ⟨rfl, rfl⟩ := Flow.ends_pure.mp answers
  exact ⟨rfl, rfl⟩

theorem run_of_delete {logs : List (List Exchange)}
    (kind : ResourceKind.ofName event.resourceType = .ok .connectivityUpdate)
    (deletes : event.request = .delete)
    (run : Engine.Run settings event startedAt logs standing) (isOpen : standing.isOpen = true) :
    logs = [] ∧ standing = .unanswered := by
  induction run with
  | start => exact ⟨rfl, rfl⟩
  | step run wasOpen ends ih =>
      rw [(ih wasOpen).2] at ends
      rw [(attempt_of_delete kind deletes ends).2] at isOpen
      cases isOpen

end Provision.Connectivity
