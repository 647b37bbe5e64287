import Provision.Proofs.Session.Interference
import Provision.Proofs.Topic.Recovery

/-!
# Topics that are created and deleted side by side

Between the description of a topic and the call that creates or deletes it, the same answer given
elsewhere may have done so first. The call is then refused, and the refusal is taken for what it is:
a topic that exists is described again and confirmed, and one that does not exist has been deleted.
Creations from one event therefore do not disturb each other, and neither do deletions
(`undisturbed_create`, `undisturbed_delete`).
-/

set_option autoImplicit false

namespace Provision.Topic

open Dialogue (Request)
open Lifecycle (Answer Event)
open Session (AdminFailure Brokers Contents Handle Opening TopicDeclaration after brokerService)

variable {replies : (request : Request) → request.Reply} {handle : Handle}
  {brokers left : Brokers} {passing : Brokers → Prop} {spec : Spec} {current : Description}
  {leaders : Settings.Leaders} {β : Type} {holds : Outcome β → Brokers → Prop}

/-! ## Calls -/

/-- A description tells of what others have made of the brokers by then. -/
theorem withstands_describe_bind {name : String} {follow : Option Description → Flow β}
    (follows : ∀ found, Moves passing brokers found →
      Flow.Withstands (brokerService replies) passing holds
        (follow ((found handle.cluster).topic? name)) found) :
    Flow.Withstands (brokerService replies) passing holds (describe handle name >>= follow)
      brokers := by
  refine Session.withstands_perform_bind (fun found => (found handle.cluster).topic? name)
    (fun _ _ => congrArg Prod.fst (Contents.perform_describePartitions _ _)) fun found moved => ?_
  rw [after_describePartitions]
  exact ⟨.refl _ _, follows found moved⟩

/-! ## Creation -/

/-- A creation is refused if another one has been faster, and then it confirms the other's topic. -/
theorem withstands_createAbsent (fits : spec.Fits)
    (absent : (brokers handle.cluster).topic? spec.name = none) :
    Flow.Withstands (brokerService replies) (· = put brokers handle.cluster (created spec))
      (fun outcome found => outcome = .ok () ∧
        found = put brokers handle.cluster (created spec))
      (createAbsent handle spec) brokers := by
  have present := topic?_put_created brokers handle.cluster spec
  refine Session.withstands_request_bind fun found moved => ?_
  rcases moved with rfl | rfl
  · rw [after_createTopic absent, Contents.perform_createTopic absent]
    exact ⟨.inr rfl, rfl, rfl⟩
  · have refused := congrArg Prod.fst (Contents.perform_createTopic_refused present)
    rw [Session.after_of_refused refused, refused]
    refine ⟨.refl _ _, withstands_describe_bind fun later more => ?_⟩
    obtain rfl := more.settled
    rw [present]
    exact ⟨confirm_of_shows (shows_created fits), rfl⟩

theorem undisturbed_ensure (handle : Handle) (fits : spec.Fits) (brokers : Brokers) :
    Flow.Undisturbed (brokerService replies) (ensure handle spec) brokers := by
  cases there : (brokers handle.cluster).topic? spec.name with
  | some current =>
      refine ⟨fun _ => False, confirm spec current, brokers, fun found moved => ?_⟩
      refine withstands_describe_bind fun later more => ?_
      obtain rfl := (moved.trans more).still
      rw [there]
      exact ⟨rfl, rfl⟩
  | none =>
      have present := topic?_put_created brokers handle.cluster spec
      refine ⟨(· = put brokers handle.cluster (created spec)), .ok (),
        put brokers handle.cluster (created spec), fun found moved => ?_⟩
      refine withstands_describe_bind fun later more => ?_
      rcases moved.trans more with rfl | rfl
      · rw [there]
        exact withstands_createAbsent fits there
      · rw [present]
        exact ⟨confirm_of_shows (shows_created fits), rfl⟩

variable {opening : Opening} {event : Event} {id : String}

/-- Creations that do not wait for leaders do not disturb each other. -/
theorem undisturbed_create
    (patient : ∀ declared, declaration leaders event.properties = .ok declared →
      declared.spec.waitForLeaders = false) :
    Flow.Undisturbed (brokerService replies) (create opening leaders event) brokers := by
  cases decoded : declaration leaders event.properties with
  | error failure =>
      unfold create
      rw [decoded]
      exact Flow.undisturbed_of_unaffected (Flow.unaffected_ofOutcome (.error failure))
  | ok declared =>
      rw [create_eq decoded (patient declared decoded)]
      refine Session.undisturbed_openSession_bind fun handle => ?_
      exact Flow.undisturbed_bind_pure
        (undisturbed_ensure handle (declaration_fits decoded) brokers)

/-! ## Deletion -/

theorem undisturbed_deleteOn (handle : Handle) (id : String) (brokers : Brokers) :
    Flow.Undisturbed (brokerService replies) (deleteOn handle id) brokers := by
  cases there : (brokers handle.cluster).topic? id with
  | none =>
      refine ⟨fun _ => False, .ok (Answer.complete id []), brokers, fun found moved => ?_⟩
      refine withstands_describe_bind fun later more => ?_
      obtain rfl := (moved.trans more).still
      rw [there]
      exact ⟨rfl, rfl⟩
  | some current =>
      have absent := topic?_removed brokers handle.cluster id
      refine ⟨(· = removed brokers handle.cluster id), .ok (Answer.complete id []),
        removed brokers handle.cluster id, fun found moved => ?_⟩
      refine withstands_describe_bind fun later more => ?_
      rcases moved.trans more with rfl | rfl
      · rw [there]
        refine Session.withstands_request_bind fun last again => ?_
        rcases again with rfl | rfl
        · rw [after_deleteTopic there, Contents.perform_deleteTopic there]
          exact ⟨.inr rfl, rfl, rfl⟩
        · have refused := congrArg Prod.fst (Contents.perform_deleteTopic_refused absent)
          rw [Session.after_of_refused refused, refused]
          exact ⟨.refl _ _, rfl, rfl⟩
      · rw [absent]
        exact ⟨rfl, rfl⟩

/-- Deletions do not disturb each other. -/
theorem undisturbed_delete :
    Flow.Undisturbed (brokerService replies) (delete opening leaders event id) brokers := by
  unfold delete
  cases declaration leaders event.properties with
  | error failure => exact Flow.undisturbed_of_unaffected (Flow.unaffected_ofOutcome (.ok _))
  | ok declared =>
      exact Session.undisturbed_openSession_bind fun handle =>
        undisturbed_deleteOn handle id brokers

end Provision.Topic
