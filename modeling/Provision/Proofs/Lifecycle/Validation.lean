import Provision.Acl.Lifecycle
import Provision.Connectivity.Lifecycle
import Provision.Namespace.Lifecycle
import Provision.Proofs.Json.Decoding
import Provision.Topic.Lifecycle

/-!
# What can be wrong with a declaration

A declaration is decoded and then checked, part by part. Whatever is wrong with it, the failure is
one of validation (`Validates`), and so is the failure to derive an identifier from it. The laws
follow the parts: properties, references, entries, topics, targets and namespaces.
-/

set_option autoImplicit false

namespace Provision

open Lifecycle (Event)

/-- Whatever is wrong with the outcome is a failure of validation. -/
def Validates {α : Type} (outcome : Outcome α) : Prop :=
  ∀ failure, outcome = .error failure → failure.kind = .validation

namespace Validates

variable {α β : Type} {outcome : Outcome α}

theorem ok (value : α) : Validates (.ok value) := by
  intro failure same
  cases same

theorem invalid (message : String) :
    Validates (.error (Failure.validation message) : Outcome α) := by
  intro failure same
  cases same
  rfl

theorem bind {follow : α → Outcome β} (first : Validates outcome)
    (second : ∀ value, Validates (follow value)) : Validates (outcome >>= follow) := by
  cases outcome with
  | ok value => exact second value
  | error failure =>
      intro found same
      cases same
      exact first failure rfl

theorem map {view : α → β} (first : Validates outcome) : Validates (view <$> outcome) :=
  bind first fun value => ok (view value)

/-- What is refused on a condition validates if the rest does. -/
theorem refuse {condition : Prop} [Decidable condition] {message : String}
    (rest : Validates outcome) :
    Validates (if condition then .error (Failure.validation message) else outcome) := by
  split
  · exact invalid message
  · exact rest

/-- A failure of validation goes back to the caller. -/
theorem terminal {failure : Failure} (validates : Validates outcome)
    (fails : outcome = .error failure) : failure.isTransient = false := by
  have kind := validates failure fails
  unfold Failure.isTransient
  rw [kind]
  rfl

end Validates

/-! ## Parts of declarations -/

namespace Lifecycle.Event

theorem validates_decodeProperties {α : Type} (decode : Json → Except Json.DecodeFault α)
    (properties : Properties) : Validates (decodeProperties decode properties) := by
  unfold decodeProperties
  split
  · exact .ok _
  · exact .invalid _

theorem validates_idOr {event : Event} {derived : Outcome String} (validates : Validates derived) :
    Validates (event.idOr derived) := by
  unfold idOr
  split
  · exact .ok _
  · exact validates

end Lifecycle.Event

theorem Cluster.Reference.validates_parse (given : String) : Validates (parse given) := by
  unfold parse
  dsimp only
  split
  · refine .refuse <| .refuse ?resource
    split
    · exact .ok _
    · exact .invalid _
  · exact .invalid _

theorem Session.Properties.validates_validate (properties : Session.Properties) :
    Validates properties.validate := by
  unfold validate
  refine (Cluster.Reference.validates_parse _).bind fun cluster => ?_
  split
  · exact .invalid _
  · exact .ok _

/-- Valid session properties refer to their cluster. -/
theorem Session.Properties.parse_of_validate {properties : Session.Properties}
    {cluster : Cluster.Reference} (valid : properties.validate = .ok cluster) :
    Cluster.Reference.parse properties.clusterArn = .ok cluster := by
  unfold validate at valid
  obtain ⟨found, parsed, checks⟩ := exists_of_bind_eq_ok valid
  dsimp only at checks
  split at checks
  · cases checks
  · cases checks
    exact parsed

theorem Topic.Spec.validates_validate (spec : Topic.Spec) : Validates spec.validate := by
  unfold validate
  refine .refuse <| .refuse <| .refuse ?counts
  exact .refuse <| .refuse <| .refuse <| .ok ()

theorem Namespace.Spec.validates_validate (spec : Namespace.Spec) : Validates spec.validate := by
  unfold validate
  refine .refuse <| .refuse <| .refuse ?role
  split
  · split
    · exact .ok ()
    · exact .invalid _
  · exact .ok ()

theorem Acl.Entry.validates_validate (entry : Acl.Entry) : Validates entry.validate := by
  unfold validate
  exact .refuse <| .refuse <| .refuse <| .refuse <| .ok ()

/-! ## Declarations -/

theorem Acl.validates_declaration (event : Event) : Validates (declaration event) := by
  unfold declaration Event.declared
  refine (Event.validates_decodeProperties _ _).bind fun declared => ?_
  refine Validates.bind ?_ fun _ => .ok _
  unfold Session.AclDeclaration.validate
  refine (Acl.Entry.validates_validate _).bind fun _ => ?_
  exact (Session.Properties.validates_validate _).bind fun _ => .ok _

theorem Topic.validates_declaration (leaders : Settings.Leaders) (properties : Properties) :
    Validates (declaration leaders properties) := by
  unfold declaration
  refine (Event.validates_decodeProperties _ _).bind fun given => ?_
  refine (Topic.Spec.validates_validate _).bind fun _ => ?_
  exact (Session.Properties.validates_validate _).bind fun _ => .ok _

theorem Connectivity.validates_declaredTarget (event : Event) :
    Validates (declaredTarget event) := by
  unfold declaredTarget Event.declared
  refine (Event.validates_decodeProperties _ _).bind fun target => ?_
  exact (Cluster.Reference.validates_parse _).bind fun _ => .ok _

theorem Namespace.validates_declaration (event : Event) : Validates (declaration event) := by
  unfold declaration Event.declared
  refine (Event.validates_decodeProperties _ _).bind fun spec => ?_
  exact (Namespace.Spec.validates_validate _).bind fun _ => .ok _

/-! ## Identifiers -/

theorem Acl.validates_physicalId (event : Event) : Validates (physicalId event) := by
  refine Event.validates_idOr ?_
  unfold Event.declared
  exact (Event.validates_decodeProperties _ _).bind fun _ => .ok _

theorem Topic.validates_physicalId (leaders : Settings.Leaders) (event : Event) :
    Validates (physicalId leaders event) := by
  refine Event.validates_idOr ?_
  exact (Topic.validates_declaration _ _).bind fun _ => .ok _

theorem Connectivity.validates_physicalId (event : Event) : Validates (physicalId event) := by
  refine Event.validates_idOr ?_
  refine (Connectivity.validates_declaredTarget event).bind fun target => ?_
  exact (Cluster.Reference.validates_parse _).bind fun _ => .ok _

theorem Namespace.validates_physicalId (event : Event) : Validates (physicalId event) :=
  Event.validates_idOr (Namespace.validates_declaration event).map

end Provision
