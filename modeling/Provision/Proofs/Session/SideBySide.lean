import Provision.Proofs.Acl.Interference
import Provision.Proofs.Engine.Run
import Provision.Proofs.Session.Recovery
import Provision.Proofs.Topic.Interference

/-!
# One event answered several times at once

The same event may be answered by several invocations of the engine at the same time. If it is about
an entry, or creates or deletes a topic, then in every interleaving of their calls each of them
answers what a single one would have answered, and together they leave the brokers as that one would
have left them (`answers_alike`). What the brokers held before is arbitrary.
-/

set_option autoImplicit false

namespace Provision.Session

open Dialogue (Concludes Request)
open Engine (respond)
open Lifecycle (Answer Event ResourceKind)

/-- The event is about an entry, or it creates a topic whose leaders are not waited for, or it
deletes a topic. -/
inductive Shareable (settings : Settings.Engine) (event : Event) : Prop where
  | entry (kind : ResourceKind.ofName event.resourceType = .ok .acl)
  | creation (kind : ResourceKind.ofName event.resourceType = .ok .topic)
      (asked : event.request = .create)
      (patient : ∀ declared, Topic.declaration settings.leaders event.properties = .ok declared →
        declared.spec.waitForLeaders = false)
  | deletion (kind : ResourceKind.ofName event.resourceType = .ok .topic)
      (asked : event.request = .delete)

variable {replies : (request : Request) → request.Reply} {settings : Settings.Engine}
  {event : Event}

/-- The handler of such an event is not disturbed by answers to it elsewhere. -/
theorem Shareable.exists_undisturbed (shareable : Shareable settings event) (brokers : Brokers) :
    ∃ handler, Engine.route settings event = .ok handler ∧
      Flow.Undisturbed (brokerService replies) (handler.respond event) brokers := by
  cases shareable with
  | entry kind =>
      exact ⟨_, Engine.route_of_ofName kind, Acl.undisturbed_respond _ event brokers⟩
  | creation kind asked patient =>
      refine ⟨_, Engine.route_of_ofName kind, ?_⟩
      show Flow.Undisturbed _ (Topic.respond _ settings.leaders event) _
      unfold Topic.respond
      rw [asked]
      exact Flow.undisturbed_bind_of_unaffected (Flow.unaffected_ofOutcome _) fun _ _ =>
        Topic.undisturbed_create patient
  | deletion kind asked =>
      refine ⟨_, Engine.route_of_ofName kind, ?_⟩
      show Flow.Undisturbed _ (Topic.respond _ settings.leaders event) _
      unfold Topic.respond
      rw [asked]
      exact Flow.undisturbed_bind_of_unaffected (Flow.unaffected_ofOutcome _) fun _ _ =>
        Topic.undisturbed_delete

/-- **However the calls of several invocations are interleaved, each invocation ends, answers what a
single one answers, and the brokers are left as a single one leaves them.** -/
theorem answers_alike {n : Nat} (some : 0 < n) (shareable : Shareable settings event)
    (brokers : Brokers) :
    Concludes (brokerService replies)
      (fun outcomes left =>
        (∀ number, outcomes number =
          ((respond settings event).serve (brokerService replies) brokers).1) ∧
        left = ((respond settings event).serve (brokerService replies) brokers).2)
      (fun _ : Fin n => (respond settings event).run) brokers := by
  obtain ⟨handler, routed, undisturbed⟩ := shareable.exists_undisturbed brokers
  refine Dialogue.concludes_of_undisturbed some ?_
  rw [Engine.respond_run routed]
  exact Dialogue.undisturbed_bind_done undisturbed

/-! ## An update that takes back what another has created -/

/-- Reading is to be denied where it was allowed. The removal of the old entry also selects the new
one, since it pays no regard to permissions. -/
def denial : Event :=
  { handover with
    properties := (readerProperties "User:shop").dropLast ++ [("permissionType", .text "Deny")] }

/-- The entry that denies reading. -/
def denied : Acl.Entry := { reader "User:shop" with permission := .deny }

/-- Three invocations may take each other's entry away, and the new entry alone is there in the
end. -/
theorem answers_alike_denial :
    0 < 3 ∧ ResourceKind.ofName denial.resourceType = .ok .acl ∧
      (Acl.Filter.forRemoval (reader "User:shop")).selects denied = true ∧
      Concludes (brokerService reachable)
        (fun outcomes left =>
          (∀ number, (outcomes number).map Answer.physicalId = .ok "reader") ∧
          (left streaming).acls = [denied])
        (fun _ : Fin 3 => (respond {} denial).run) shopReads := by
  have kind : ResourceKind.ofName denial.resourceType = .ok .acl := by decide +kernel
  have answered : ((respond {} denial).serve (brokerService reachable) shopReads).1.map
      Answer.physicalId = .ok "reader" := by decide +kernel
  have replaced : (((respond {} denial).serve (brokerService reachable) shopReads).2
      streaming).acls = [denied] := by decide +kernel
  refine ⟨by decide, kind, by decide +kernel, ?_⟩
  refine (answers_alike (by decide) (.entry kind) shopReads).mono ?_
  rintro outcomes left ⟨alike, same⟩
  refine ⟨fun number => ?_, ?_⟩
  · rw [alike number]
    exact answered
  · rw [same]
    exact replaced

end Provision.Session
