import Provision.Proofs.Engine.Refusal

/-!
# Deletions of what was never declared

A declaration that is not valid cannot have created anything, so that a deletion of it has nothing
to do: no service is asked, and the deletion completes. It does so as soon as the event can be
identified, by the identifier that it carries or by the one that its properties give. An entry is
identified by properties that can be decoded, valid or not, and a topic only by a valid
declaration. A deletion of an entry or a topic that cannot be identified is refused, also without
asking, whereas one of a namespace completes all the same (`deletions_unasked`).
-/

set_option autoImplicit false

namespace Provision

open Lifecycle (Answer Event Handler ResourceKind)
open Engine (Declares)
open Session (AclDeclaration TopicDeclaration)

namespace Lifecycle.Event

variable {event : Event} {derived : Outcome String}

/-- The event carries no identifier, or an empty one. -/
def Unnamed (event : Event) : Prop := event.physicalId.getD "" = ""

theorem idOr_of_unnamed (unnamed : event.Unnamed) : event.idOr derived = derived := by
  have ungiven : event.givenId? = none := by
    cases carried : event.physicalId with
    | none => simp only [givenId?, carried]
    | some id =>
        have empty : id = "" := by
          rw [Unnamed, carried] at unnamed
          exact unnamed
        simp only [givenId?, carried, empty, bne_self_eq_false, Bool.false_and,
          Bool.false_eq_true, if_false]
  simp only [idOr, ungiven]

theorem idOr_of_named (deletes : event.request = .delete) (named : ¬ event.Unnamed) :
    event.idOr derived = .ok (event.physicalId.getD "") := by
  cases carried : event.physicalId with
  | none =>
      rw [Unnamed, carried] at named
      exact absurd rfl named
  | some id =>
      rw [Unnamed, carried] at named
      refine idOr_of_carried ?_ carried named
      rw [deletes]
      decide

end Lifecycle.Event

/-! ## Handlers -/

/-- The deletion completes and asks nothing, under the identifier that the event carries if it
carries one. -/
def Flow.Skips (flow : Flow Answer) (event : Event) : Prop :=
  ∃ id, flow = pure (Answer.complete id []) ∧
    (¬ event.Unnamed → id = event.physicalId.getD "")

/-- Neither the event nor its properties identify what is to be deleted. -/
def Engine.Unidentified (event : Event) : ResourceKind → Prop
  | .acl => event.Unnamed ∧
      ∀ declared, AclDeclaration.decode (.object event.properties) ≠ .ok declared
  | .topic => event.Unnamed
  | .connectivityUpdate => False
  | .warehouseNamespace => False

open Engine (Unidentified)

variable {settings : Settings.Engine} {event : Event} {id : String}

theorem Lifecycle.Event.eq_of_idOr {derived : Outcome String} (deletes : event.request = .delete)
    (identified : event.idOr derived = .ok id) (named : ¬ event.Unnamed) :
    id = event.physicalId.getD "" :=
  Except.ok.inj (identified.symm.trans (idOr_of_named deletes named))

namespace Acl

/-- A deletion that can be identified skips what is not declared well. -/
theorem skips_of_identified (opening : Session.Opening) (deletes : event.request = .delete)
    (undeclared : ¬ Declares settings event.properties .acl)
    (identified : physicalId event = .ok id) : (respond opening event).Skips event := by
  refine ⟨id, ?_, Event.eq_of_idOr deletes identified⟩
  unfold respond
  rw [identified, Flow.ofOutcome_ok_bind, deletes]
  show delete opening event id = _
  unfold delete
  cases checked : declaration event with
  | error failure => rfl
  | ok declared => exact absurd (declares_of_declaration checked) undeclared

/-- A deletion of an entry is identified by what it carries or by properties that can be decoded. -/
theorem exists_physicalId_iff (deletes : event.request = .delete) :
    (∃ id, physicalId event = .ok id) ↔ ¬ Unidentified event .acl := by
  by_cases unnamed : event.Unnamed
  · unfold physicalId
    rw [Event.idOr_of_unnamed unnamed]
    constructor
    · rintro ⟨id, identified⟩ ⟨-, undecoded⟩
      obtain ⟨declared, decoded, -⟩ := exists_of_bind_eq_ok identified
      exact undecoded declared (Event.decodeProperties_eq_ok.mp decoded)
    · intro identified
      have decodes : ∃ declared,
          AclDeclaration.decode (.object event.properties) = .ok declared := by
        by_contra undecoded
        exact identified ⟨unnamed, not_exists.mp undecoded⟩
      obtain ⟨declared, decoded⟩ := decodes
      have found : event.declared AclDeclaration.decode = .ok declared :=
        Event.decodeProperties_eq_ok.mpr decoded
      exact ⟨declared.entry.physicalId, by rw [found]; rfl⟩
  · have identified : physicalId event = .ok (event.physicalId.getD "") :=
      Event.idOr_of_named deletes unnamed
    exact iff_of_true ⟨_, identified⟩ fun unidentified => unnamed unidentified.1

end Acl

namespace Topic

/-- A deletion that can be identified skips what is not declared well. -/
theorem skips_of_identified (opening : Session.Opening) (deletes : event.request = .delete)
    (undeclared : ¬ Declares settings event.properties .topic)
    (identified : physicalId settings.leaders event = .ok id) :
    (respond opening settings.leaders event).Skips event := by
  refine ⟨id, ?_, Event.eq_of_idOr deletes identified⟩
  unfold respond
  rw [identified, Flow.ofOutcome_ok_bind, deletes]
  show delete opening settings.leaders event id = _
  unfold delete
  cases checked : declaration settings.leaders event.properties with
  | error failure => rfl
  | ok declared => exact absurd (declares_of_declaration checked) undeclared

/-- A deletion of a topic is identified by what it carries or by a valid declaration. -/
theorem exists_physicalId_iff (deletes : event.request = .delete)
    (undeclared : ¬ Declares settings event.properties .topic) :
    (∃ id, physicalId settings.leaders event = .ok id) ↔ ¬ Unidentified event .topic := by
  constructor
  · rintro ⟨id, identified⟩ unnamed
    unfold physicalId at identified
    rw [Event.idOr_of_unnamed unnamed] at identified
    obtain ⟨declared, checked, -⟩ := exists_of_bind_eq_ok identified
    exact undeclared (declares_of_declaration checked)
  · intro named
    exact ⟨_, Event.idOr_of_named deletes named⟩

end Topic

namespace Namespace

/-- A deletion that carries no identifier skips what is not declared well. -/
theorem skips_of_unnamed (threshold : Nat) (deletes : event.request = .delete)
    (undeclared : ¬ Declares settings event.properties .warehouseNamespace)
    (unnamed : event.Unnamed) : (respond threshold event).Skips event := by
  cases identified : physicalId event with
  | error failure =>
      exact ⟨_, respond_of_nameless_delete deletes identified, fun _ => rfl⟩
  | ok id =>
      unfold physicalId at identified
      rw [Event.idOr_of_unnamed unnamed] at identified
      cases checked : declaration event with
      | error failure =>
          rw [checked] at identified
          cases identified
      | ok spec => exact absurd (declares_of_declaration checked) undeclared

end Namespace

/-! ## The controller -/

namespace Engine

variable {kind : ResourceKind}

/-- The controller completes what the handler completes without asking. -/
theorem skips_of_handler (known : ResourceKind.ofName event.resourceType = .ok kind)
    (skips : ((handlerOf settings kind).respond event).Skips event) :
    (respond settings event).Skips event := by
  obtain ⟨id, same, carried⟩ := skips
  refine ⟨id, ?_, carried⟩
  have told : (respond settings event).run = (pure (Answer.complete id []) : Flow _).run := by
    rw [respond_run (route_of_ofName known), same]
    rfl
  exact told

/-- What a handler does with an event it can identify decides the deletion. -/
theorem unasked_of_handler (known : ResourceKind.ofName event.resourceType = .ok kind)
    (identified : (∃ id, (handlerOf settings kind).physicalId event = .ok id) ↔
      ¬ Unidentified event kind)
    (validates : Validates ((handlerOf settings kind).physicalId event))
    (nameless : ∀ failure, (handlerOf settings kind).physicalId event = .error failure →
      (handlerOf settings kind).respond event = Flow.ofOutcome (.error failure))
    (skips : ∀ id, (handlerOf settings kind).physicalId event = .ok id →
      ((handlerOf settings kind).respond event).Skips event) :
    (¬ Unidentified event kind → (respond settings event).Skips event) ∧
    (Unidentified event kind → (respond settings event).Refuses Failure.IsInvalid) := by
  cases found : (handlerOf settings kind).physicalId event with
  | ok id =>
      refine ⟨fun _ => skips_of_handler known (skips id found), fun unidentified => ?_⟩
      exact absurd unidentified (identified.mp ⟨id, found⟩)
  | error failure =>
      constructor
      · intro named
        obtain ⟨id, same⟩ := identified.mpr named
        cases found.symm.trans same
      · intro _
        refine refuses_of_handler known (fun failure => Failure.IsInvalid.isFinal) ?_
        exact ⟨failure, validates failure found, nameless failure found⟩

/-- **A deletion of what was never declared well asks nothing: it completes if it can be identified,
and is refused otherwise.** Only a namespace is deleted by the identifier alone. -/
theorem deletions_unasked (known : ResourceKind.ofName event.resourceType = .ok kind)
    (deletes : event.request = .delete) (undeclared : ¬ Declares settings event.properties kind)
    (unnamed : kind = .warehouseNamespace → event.Unnamed) :
    (¬ Unidentified event kind → (respond settings event).Skips event) ∧
    (Unidentified event kind → (respond settings event).Refuses Failure.IsInvalid) := by
  cases kind with
  | acl =>
      exact unasked_of_handler known (Acl.exists_physicalId_iff deletes)
        (Acl.validates_physicalId event) (fun _ => Acl.respond_of_nameless _)
        (fun _ => Acl.skips_of_identified _ deletes undeclared)
  | topic =>
      exact unasked_of_handler known (Topic.exists_physicalId_iff deletes undeclared)
        (Topic.validates_physicalId _ event) (fun _ => Topic.respond_of_nameless _)
        (fun _ => Topic.skips_of_identified _ deletes undeclared)
  | connectivityUpdate =>
      refine ⟨fun _ => skips_of_handler known ?_, False.elim⟩
      exact ⟨_, Connectivity.respond_of_delete deletes, fun _ => rfl⟩
  | warehouseNamespace =>
      refine ⟨fun _ => skips_of_handler known ?_, False.elim⟩
      exact Namespace.skips_of_unnamed _ deletes undeclared (unnamed rfl)

/-! ## Deletions that declare nothing -/

/-- A deletion without properties. -/
def blank (resourceType : String) (physicalId : Option String) : Event :=
  { request := .delete, resourceType, properties := [], oldProperties := none, physicalId }

/-- No properties declare nothing. -/
theorem not_declares_nil (settings : Settings.Engine) :
    ¬ Declares settings [] .acl ∧ ¬ Declares settings [] .topic ∧
      ¬ Declares settings [] .warehouseNamespace := by
  have entry : (AclDeclaration.decode (.object [])).toOption.isNone = true := rfl
  have topic : (TopicDeclaration.decode (.object [])).toOption.isNone = true := rfl
  have spec : (Namespace.Spec.codec.decode (.object [])).toOption.isNone = true := rfl
  refine ⟨?_, ?_, ?_⟩
  · rintro ⟨declared, cluster, decoded, -⟩
    rw [decoded] at entry
    cases entry
  · rintro ⟨declared, cluster, decoded, -⟩
    rw [decoded] at topic
    cases topic
  · rintro ⟨declared, decoded, -⟩
    rw [decoded] at spec
    cases spec

/-- An entry and a namespace are skipped, and a topic without an identifier is refused. -/
theorem deletions_unasked_blank :
    (respond {} (blank "Acl" (some "entry"))).Skips (blank "Acl" (some "entry")) ∧
    (respond {} (blank "Namespace" none)).Skips (blank "Namespace" none) ∧
    (respond {} (blank "Topic" none)).Refuses Failure.IsInvalid := by
  obtain ⟨entry, topic, spec⟩ := not_declares_nil {}
  have acl : ResourceKind.ofName (blank "Acl" (some "entry")).resourceType = .ok .acl := rfl
  have warehouse : ResourceKind.ofName (blank "Namespace" none).resourceType =
      .ok .warehouseNamespace := rfl
  have unnamed : (blank "Namespace" none).Unnamed := rfl
  have nameless : ResourceKind.ofName (blank "Topic" none).resourceType = .ok .topic := rfl
  refine ⟨?_, ?_, ?_⟩
  · refine (deletions_unasked acl rfl entry fun other => nomatch other).1 ?_
    rintro ⟨empty, -⟩
    exact absurd (show "entry" = "" from empty) (by decide)
  · exact (deletions_unasked warehouse rfl spec fun _ => unnamed).1 not_false
  · exact (deletions_unasked nameless rfl topic fun other => nomatch other).2 rfl

/-- Not every deletion of what was never declared well completes. -/
theorem deletion_refused :
    ¬ ∀ (settings : Settings.Engine) (event : Event) (kind : ResourceKind),
      ResourceKind.ofName event.resourceType = .ok kind → event.request = .delete →
      ¬ Declares settings event.properties kind →
      kind = .acl ∨ kind = .topic ∨ kind = .warehouseNamespace ∧ event.Unnamed →
      ∃ answer, respond settings event = pure answer ∧ answer.isComplete = true := by
  intro completes
  obtain ⟨answer, same, -⟩ := completes {} (blank "Topic" none) .topic rfl rfl
    (not_declares_nil {}).2.1 (.inr (.inl rfl))
  have refused : ((respond {} (blank "Topic" none)).run.replay []).map (·.toOption.isNone) =
      some true := rfl
  rw [same] at refused
  cases refused

end Engine

end Provision
