import Provision.Proofs.Connectivity.Run
import Provision.Proofs.Namespace.Run
import Provision.Proofs.Topic.Recovery

/-!
# The identifier of a resource

An answer carries the identifier that is derived from its event, whatever the services reply: when
it is finished and when it is pending, and also when the event is tried again after a failure. Every
handler takes the identifier on its own way (`Identifies`), and all of them agree with the
derivation.

A later event keeps the identifier that it carries. A creation is identified by its declaration
alone (`declaredId`), so that trying it again never gives its resource another identifier. Along a
run the identifier therefore stays the same (`identifier_kept`).
-/

set_option autoImplicit false

namespace Provision

open Lifecycle (Answer Event Handler ResourceKind)
open Session (AclDeclaration TopicDeclaration)

namespace Lifecycle

/-- Every answer that the handler gives to the event carries the identifier of the event. -/
def Handler.Identifies (handler : Handler) (event : Event) : Prop :=
  (handler.respond event).Yields fun answer => handler.physicalId event = .ok answer.physicalId

/-- A deletion carries the identifier of what is to be deleted. -/
def Event.NamesDeleted (event : Event) : Prop :=
  event.request = .delete → ∃ id, event.physicalId = some id ∧ id ≠ ""

variable {event : Event} {derived : Outcome String} {id : String}

/-- A handler identifies an event if it refuses one without an identifier and otherwise answers with
that identifier. -/
theorem Handler.identifies_of_yields {handler : Handler}
    (refuses : ∀ failure, handler.physicalId event = .error failure →
      handler.respond event = Flow.ofOutcome (.error failure))
    (yields : ∀ id, handler.physicalId event = .ok id →
      (handler.respond event).Yields fun answer => answer.physicalId = id) :
    handler.Identifies event := by
  unfold Handler.Identifies
  cases derived : handler.physicalId event with
  | error failure =>
      rw [refuses failure derived]
      exact Flow.yields_error failure _
  | ok id =>
      intro log answer ends
      rw [yields id derived log answer ends]

/-- A later event is identified by what it carries. -/
theorem Event.idOr_of_carried (later : event.request ≠ .create)
    (carried : event.physicalId = some id) (named : id ≠ "") : event.idOr derived = .ok id := by
  have given : event.givenId? = some id := by
    unfold Event.givenId?
    rw [carried]
    refine if_pos ?_
    rw [Bool.and_eq_true, bne_iff_ne, bne_iff_ne]
    exact ⟨named, later⟩
  unfold Event.idOr
  rw [given]

theorem Event.NamesDeleted.exists_idOr (named : event.NamesDeleted)
    (asked : event.request = .delete) :
    ∃ id, event.physicalId = some id ∧ event.idOr derived = .ok id := by
  obtain ⟨id, carried, nonempty⟩ := named asked
  have later : event.request ≠ .create := by
    rw [asked]
    decide
  exact ⟨id, carried, Event.idOr_of_carried later carried nonempty⟩

end Lifecycle

/-! ## Entries -/

namespace Acl

variable {opening : Session.Opening} {event : Event} {id : String}

theorem yields_create :
    (create opening event id).Yields fun answer => answer.physicalId = id := by
  unfold create
  refine Flow.yields_bind fun declared => ?_
  refine Flow.yields_bind fun handle => ?_
  refine Flow.yields_bind fun entry => ?_
  exact Flow.yields_bind fun _ => Flow.yields_pure rfl

theorem yields_update :
    (update opening event id).Yields fun answer => answer.physicalId = id := by
  unfold update
  refine Flow.yields_bind fun declared => ?_
  refine Flow.yields_bind fun before => ?_
  refine Flow.yields_bind fun handle => ?_
  refine Flow.yields_bind fun entry => ?_
  cases before with
  | none => exact Flow.yields_bind fun _ => Flow.yields_pure rfl
  | some old => exact Flow.yields_bind fun _ => Flow.yields_bind fun _ => Flow.yields_pure rfl

theorem yields_delete :
    (delete opening event id).Yields fun answer => answer.physicalId = id := by
  unfold delete
  cases declaration event with
  | error failure => exact Flow.yields_pure rfl
  | ok declared =>
      refine Flow.yields_bind fun handle => ?_
      refine Flow.yields_bind fun entry => ?_
      exact Flow.yields_bind fun _ => Flow.yields_pure rfl

/-- An entry that cannot be identified is refused for just that. -/
theorem respond_of_nameless (opening : Session.Opening) {failure : Failure}
    (nameless : physicalId event = .error failure) :
    respond opening event = Flow.ofOutcome (.error failure) := by
  unfold respond
  rw [nameless, Flow.ofOutcome_error_bind]

theorem identifies (opening : Session.Opening) (event : Event) :
    (handler opening).Identifies event := by
  refine Handler.identifies_of_yields ?_ ?_
  · exact fun failure => respond_of_nameless opening
  · intro id named
    have here : physicalId event = .ok id := named
    show (respond opening event).Yields _
    unfold respond
    rw [here, Flow.ofOutcome_ok_bind]
    cases event.request with
    | create => exact yields_create
    | update => exact yields_update
    | delete => exact yields_delete

end Acl

/-! ## Topics -/

namespace Topic

variable {opening : Session.Opening} {leaders : Settings.Leaders} {event : Event} {id : String}
  {declared : TopicDeclaration}

theorem yields_create (decoded : declaration leaders event.properties = .ok declared) :
    (create opening leaders event).Yields fun answer => answer.physicalId = declared.spec.name := by
  unfold create
  rw [decoded, Flow.ofOutcome_ok_bind]
  refine Flow.yields_bind fun handle => ?_
  refine Flow.yields_bind fun found => ?_
  cases found with
  | none => exact Flow.yields_bind fun _ => Flow.yields_bind fun _ => Flow.yields_pure rfl
  | some current => exact Flow.yields_bind fun _ => Flow.yields_bind fun _ => Flow.yields_pure rfl

theorem yields_update :
    (update opening leaders event id).Yields fun answer => answer.physicalId = id := by
  unfold update
  cases decoded : declaration leaders event.properties with
  | error failure => exact Flow.yields_error failure _
  | ok declared =>
      rw [Flow.ofOutcome_ok_bind]
      dsimp only
      cases allowed : checkUpdate event declared.spec id with
      | error failure => exact Flow.yields_error failure _
      | ok value =>
          rw [Flow.ofOutcome_ok_bind]
          refine Flow.yields_bind fun handle => ?_
          refine Flow.yields_bind fun found => ?_
          cases found with
          | none =>
              -- The topic is created under its declared name, which is the identifier.
              rw [← name_eq_of_checkUpdate allowed]
              exact yields_create decoded
          | some current =>
              exact Flow.yields_bind fun _ => Flow.yields_bind fun _ => Flow.yields_pure rfl

theorem yields_delete :
    (delete opening leaders event id).Yields fun answer => answer.physicalId = id := by
  unfold delete
  cases declaration leaders event.properties with
  | error failure => exact Flow.yields_pure rfl
  | ok declared =>
      refine Flow.yields_bind fun handle => ?_
      refine Flow.yields_bind fun found => ?_
      cases found with
      | none => exact Flow.yields_pure rfl
      | some current =>
          refine Flow.yields_bind fun reply => ?_
          cases reply with
          | ok result => exact Flow.yields_pure rfl
          | error refusal =>
              dsimp only
              split
              · exact Flow.yields_pure rfl
              · exact Flow.yields_error _ _

/-- A topic that cannot be identified is refused for just that. -/
theorem respond_of_nameless (opening : Session.Opening) {failure : Failure}
    (nameless : physicalId leaders event = .error failure) :
    respond opening leaders event = Flow.ofOutcome (.error failure) := by
  unfold respond
  rw [nameless, Flow.ofOutcome_error_bind]

theorem identifies (opening : Session.Opening) (leaders : Settings.Leaders) (event : Event) :
    (handler opening leaders).Identifies event := by
  refine Handler.identifies_of_yields ?_ ?_
  · exact fun failure => respond_of_nameless opening
  · intro id named
    have here : physicalId leaders event = .ok id := named
    show (respond opening leaders event).Yields _
    unfold respond
    rw [here, Flow.ofOutcome_ok_bind]
    cases asked : event.request with
    | create =>
        cases decoded : declaration leaders event.properties with
        | error failure =>
            show (create opening leaders event).Yields _
            unfold create
            rw [decoded]
            exact Flow.yields_error failure _
        | ok declared =>
            rw [← name_eq_of_create asked here decoded]
            exact yields_create decoded
    | update => exact yields_update
    | delete => exact yields_delete

end Topic

/-! ## Connectivity changes -/

namespace Connectivity

theorem identifies (resubmission : Settings.Resubmission) {event : Event}
    (named : event.NamesDeleted) : (handler resubmission).Identifies event := by
  show (respond resubmission.afterStalePolls event).Yields fun answer =>
    physicalId event = .ok answer.physicalId
  by_cases asked : event.request = .delete
  · obtain ⟨id, carried, identified⟩ := named.exists_idOr asked
    unfold respond
    rw [if_pos (beq_iff_eq.mpr asked), carried]
    exact Flow.yields_pure identified
  · cases derived : physicalId event with
    | error failure =>
        rw [respond_of_nameless asked derived]
        exact Flow.yields_error failure _
    | ok id =>
        unfold respond
        rw [if_neg fun same => asked (beq_iff_eq.mp same), derived, Flow.ofOutcome_ok_bind]
        refine Flow.yields_bind fun target => ?_
        refine Flow.yields_bind fun reached => ?_
        split
        · exact Flow.yields_pure rfl
        · exact Flow.yields_pure rfl

end Connectivity

/-! ## Namespaces -/

namespace Namespace

theorem identifies (resubmission : Settings.Resubmission) {event : Event}
    (named : event.NamesDeleted) : (handler resubmission).Identifies event := by
  show (respond resubmission.afterStalePolls event).Yields fun answer =>
    physicalId event = .ok answer.physicalId
  cases derived : physicalId event with
  | ok id =>
      rw [respond_of_physicalId derived]
      refine Flow.yields_bind fun progress => ?_
      cases progress with
      | finished data => exact Flow.yields_pure rfl
      | pending checkpoint => exact Flow.yields_pure rfl
  | error failure =>
      by_cases asked : event.request = .delete
      · obtain ⟨id, -, identified⟩ := named.exists_idOr asked
        cases derived.symm.trans identified
      · rw [respond_of_nameless asked derived]
        exact Flow.yields_error failure _

end Namespace

/-! ## The controller -/

namespace Engine

open Time (Timestamp)

variable {settings : Settings.Engine} {event : Event} {startedAt : Timestamp} {handler : Handler}
  {log : List Exchange} {answer : Answer} {id : String}

/-- Every handler identifies its events. -/
theorem identifies_handlerOf (settings : Settings.Engine) (kind : ResourceKind)
    (named : event.NamesDeleted) : (handlerOf settings kind).Identifies event := by
  cases kind with
  | acl => exact Acl.identifies _ event
  | topic => exact Topic.identifies _ _ event
  | connectivityUpdate => exact Connectivity.identifies _ named
  | warehouseNamespace => exact Namespace.identifies _ named

/-- An event that is routed goes to the handler of its kind. -/
theorem exists_kind_of_route (routed : route settings event = .ok handler) :
    ∃ kind, ResourceKind.ofName event.resourceType = .ok kind ∧
      handler = handlerOf settings kind := by
  unfold route at routed
  cases named : ResourceKind.ofName event.resourceType with
  | error failure =>
      rw [named] at routed
      cases routed
  | ok kind =>
      rw [named] at routed
      cases routed
      exact ⟨kind, rfl, rfl⟩

theorem physicalId_of_route (routed : route settings event = .ok handler) :
    physicalId settings event = handler.physicalId event := by
  unfold physicalId
  rw [routed]
  rfl

/-- The controller answers with what a handler answers, or with the identifier of the event. -/
theorem physicalId_of_ends (named : event.NamesDeleted)
    (ends : (respond settings event).Ends log (.ok answer)) :
    physicalId settings event = .ok answer.physicalId := by
  cases routed : route settings event with
  | error failure =>
      rw [respond_of_unrouted routed] at ends
      cases (Flow.ends_ofOutcome.mp ends).2
  | ok handler =>
      obtain ⟨kind, -, rfl⟩ := exists_kind_of_route routed
      rw [physicalId_of_route routed]
      obtain ⟨outcome, responded, same⟩ := (respond_ends_iff routed).mp ends
      cases outcome with
      | ok found =>
          cases same
          exact identifies_handlerOf settings kind named log answer responded
      | error failure =>
          cases transient : failure.isTransient with
          | false =>
              rw [answered_of_terminal transient] at same
              cases same
          | true =>
              simp only [answered, transient, if_true] at same
              cases derived : (handlerOf settings kind).physicalId event with
              | error nameless =>
                  rw [derived] at same
                  cases same
              | ok id =>
                  rw [derived] at same
                  cases same
                  rfl

/-! ## Creations -/

/-- The identifier that a declaration alone gives to a resource of a kind. -/
def declaredId (properties : Properties) : ResourceKind → Outcome String
  | .acl => do
      let declared ← Event.decodeProperties AclDeclaration.decode properties
      pure declared.entry.physicalId
  | .topic => do
      let declared ← Event.decodeProperties TopicDeclaration.decode properties
      pure declared.spec.name
  | .connectivityUpdate => do
      let target ← Event.decodeProperties Connectivity.Target.codec.decode properties
      let cluster ← target.reference
      pure ("connectivity/" ++ cluster.name)
  | .warehouseNamespace => do
      let spec ← Event.decodeProperties Namespace.Spec.codec.decode properties
      pure spec.name

/-- A creation is identified by its declaration, whatever identifier it carries and whatever the
settings are. -/
theorem declaredId_of_create {kind : ResourceKind} (asked : event.request = .create)
    (derived : (handlerOf settings kind).physicalId event = .ok id) :
    declaredId event.properties kind = .ok id := by
  cases kind with
  | acl =>
      have here : Acl.physicalId event = .ok id := derived
      unfold Acl.physicalId at here
      rw [Event.idOr_of_create asked] at here
      exact here
  | topic =>
      have here : Topic.physicalId settings.leaders event = .ok id := derived
      unfold Topic.physicalId at here
      rw [Event.idOr_of_create asked] at here
      obtain ⟨declared, decoded, same⟩ := exists_of_bind_eq_ok here
      cases same
      obtain ⟨given, parsed, name⟩ := Topic.exists_decoded decoded
      unfold declaredId
      rw [parsed, name]
      rfl
  | connectivityUpdate =>
      have here : Connectivity.physicalId event = .ok id := derived
      unfold Connectivity.physicalId at here
      rw [Event.idOr_of_create asked] at here
      obtain ⟨target, declared, follows⟩ := exists_of_bind_eq_ok here
      unfold Connectivity.declaredTarget at declared
      obtain ⟨found, parsed, refers⟩ := exists_of_bind_eq_ok declared
      obtain ⟨cluster, -, same⟩ := exists_of_bind_eq_ok refers
      cases same
      unfold declaredId
      rw [show Event.decodeProperties _ event.properties = .ok target from parsed]
      exact follows
  | warehouseNamespace =>
      have here : Namespace.physicalId event = .ok id := derived
      unfold Namespace.physicalId at here
      rw [Event.idOr_of_create asked] at here
      cases declared : Namespace.declaration event with
      | error failure =>
          rw [declared] at here
          cases here
      | ok spec =>
          rw [declared] at here
          cases here
          obtain ⟨given, parsed, checks⟩ := exists_of_bind_eq_ok declared
          obtain ⟨_, -, same⟩ := exists_of_bind_eq_ok checks
          cases same
          unfold declaredId
          rw [show Event.decodeProperties _ event.properties = .ok spec from parsed]
          rfl

/-- What identifies a creation is the declaration of its kind. -/
theorem exists_declaredId (asked : event.request = .create)
    (derived : physicalId settings event = .ok id) :
    ∃ kind, ResourceKind.ofName event.resourceType = .ok kind ∧
      declaredId event.properties kind = .ok id := by
  obtain ⟨handler, routed, identified⟩ := exists_of_bind_eq_ok derived
  obtain ⟨kind, named, rfl⟩ := exists_kind_of_route routed
  exact ⟨kind, named, declaredId_of_create asked identified⟩

/-- Two creations of one declaration are identified in the same way. -/
theorem id_eq_of_create {other : Settings.Engine} {retried : Event} {again : String}
    (asked : event.request = .create) (askedAgain : retried.request = .create)
    (kind : ResourceKind.ofName retried.resourceType = ResourceKind.ofName event.resourceType)
    (declared : retried.properties = event.properties)
    (derived : physicalId settings event = .ok id)
    (derivedAgain : physicalId other retried = .ok again) : again = id := by
  obtain ⟨first, named, identified⟩ := exists_declaredId asked derived
  obtain ⟨second, namedAgain, identifiedAgain⟩ := exists_declaredId askedAgain derivedAgain
  cases (named.symm.trans kind.symm).trans namedAgain
  rw [declared] at identifiedAgain
  exact Except.ok.inj (identifiedAgain.symm.trans identified)

/-! ## Later events -/

/-- A later event is identified by what it carries. -/
theorem id_eq_of_carried {carried : String} (later : event.request ≠ .create)
    (given : event.physicalId = some carried) (nonempty : carried ≠ "")
    (derived : physicalId settings event = .ok id) : id = carried := by
  obtain ⟨handler, routed, identified⟩ := exists_of_bind_eq_ok derived
  obtain ⟨kind, -, rfl⟩ := exists_kind_of_route routed
  have kept : ∀ declared, event.idOr declared = .ok carried := fun _ =>
    Event.idOr_of_carried later given nonempty
  cases kind with
  | acl => exact Except.ok.inj (identified.symm.trans (kept _))
  | topic => exact Except.ok.inj (identified.symm.trans (kept _))
  | connectivityUpdate => exact Except.ok.inj (identified.symm.trans (kept _))
  | warehouseNamespace => exact Except.ok.inj (identified.symm.trans (kept _))

/-- An event that has been given its identifier keeps it. -/
theorem physicalId_withId (derived : physicalId settings event = .ok id) :
    physicalId settings { event with physicalId := some id } = .ok id := by
  obtain ⟨handler, routed, identified⟩ := exists_of_bind_eq_ok derived
  obtain ⟨kind, -, rfl⟩ := exists_kind_of_route routed
  rw [physicalId_of_route ((route_withId settings event (some id)).trans routed)]
  cases kind with
  | acl => exact Event.idOr_withId identified
  | topic => exact Event.idOr_withId identified
  | connectivityUpdate => exact Event.idOr_withId identified
  | warehouseNamespace => exact Event.idOr_withId identified

/-! ## Runs -/

/-- The identifier under which an event is known so far. -/
def Standing.identifier? : Standing → Option String
  | .unanswered | .failed _ => none
  | .pending continuation => some continuation.physicalId
  | .completed id _ => some id

/-- Along a run the identifier stays the one that is derived from the event. -/
theorem Run.identified {logs : List (List Exchange)} {standing : Standing}
    (named : event.NamesDeleted) (run : Run settings event startedAt logs standing) :
    ∀ id, standing.identifier? = some id → physicalId settings event = .ok id := by
  induction run with
  | start => rintro id ⟨⟩
  | step run isOpen ends ih =>
      rename_i standing after log
      intro id known
      cases standing with
      | unanswered =>
          obtain ⟨outcome, responded, rfl⟩ := Dialogue.ends_bind_done.mp ends
          cases outcome with
          | error failure => cases known
          | ok answer =>
              have derived := physicalId_of_ends named responded
              unfold Standing.ofAnswer at known
              dsimp only at known
              split at known
              · cases known
                exact derived
              · cases known
                exact derived
      | pending before =>
          obtain ⟨outcome, checked, rfl⟩ := Dialogue.ends_bind_done.mp ends
          refine ih id ?_
          cases outcome with
          | error failure => cases known
          | ok result =>
              unfold Standing.ofCheck at known
              dsimp only at known
              split at known
              · exact known
              · exact known
      | completed id data => cases isOpen
      | failed failure => cases isOpen

/-- **An answer carries the identifier that is derived from its event, and a run keeps it.** A later
event is identified by what it carries, and a creation by its declaration, so that whoever tries it
again is answered with the same identifier. -/
theorem identifier_kept (named : event.NamesDeleted) :
    (∀ log answer, (respond settings event).Ends log (.ok answer) →
      physicalId settings event = .ok answer.physicalId ∧
      (∀ carried, event.request ≠ .create → event.physicalId = some carried → carried ≠ "" →
        answer.physicalId = carried) ∧
      (event.request = .create →
        (∃ kind, ResourceKind.ofName event.resourceType = .ok kind ∧
          declaredId event.properties kind = .ok answer.physicalId) ∧
        ∀ (other : Settings.Engine) (retried : Event) log again, retried.request = .create →
          ResourceKind.ofName retried.resourceType = ResourceKind.ofName event.resourceType →
          retried.properties = event.properties →
          (respond other retried).Ends log (.ok again) →
          again.physicalId = answer.physicalId)) ∧
    ∀ startedAt logs standing, Run settings event startedAt logs standing →
      (∀ continuation, standing = .pending continuation →
        physicalId settings event = .ok continuation.physicalId ∧
        continuation.event.physicalId = some continuation.physicalId ∧
        physicalId settings continuation.event = .ok continuation.physicalId) ∧
      ∀ id data, standing = .completed id data → physicalId settings event = .ok id := by
  constructor
  · intro log answer ends
    have derived := physicalId_of_ends named ends
    refine ⟨derived, ?_, ?_⟩
    · intro carried later given nonempty
      exact id_eq_of_carried later given nonempty derived
    · intro asked
      refine ⟨exists_declaredId asked derived, ?_⟩
      intro other retried log again askedAgain kind declared endsAgain
      have namedAgain : retried.NamesDeleted := by
        intro deletes
        cases askedAgain.symm.trans deletes
      exact id_eq_of_create asked askedAgain kind declared derived
        (physicalId_of_ends namedAgain endsAgain)
  · intro startedAt logs standing run
    constructor
    · rintro continuation rfl
      have derived := run.identified named _ rfl
      obtain ⟨id, about, rfl⟩ := run.concerns continuation rfl
      refine ⟨derived, by rw [about], ?_⟩
      rw [about]
      exact physicalId_withId derived
    · rintro id data rfl
      exact run.identified named id rfl

/-! ## An event that cannot be handled yet -/

/-- A topic is declared, and the event carries an identifier of something else. -/
def astray (request : Lifecycle.Request) : Event :=
  { request
    resourceType := "Topic"
    properties :=
      [("clusterArn", .text "arn:aws:kafka:eu-west-1:1:cluster/streaming/7"),
        ("secretName", .text "client"), ("name", .text "orders"),
        ("partitionCount", .whole 1), ("replicationFactor", .whole 1)]
    oldProperties := none
    physicalId := some "elsewhere" }

/-- The control plane cannot be reached. -/
def throttled : List Exchange :=
  [⟨.describeCluster ⟨"arn:aws:kafka:eu-west-1:1:cluster/streaming/7", "streaming"⟩,
    some (.error (.transient "throttled"))⟩]

/-- A creation is pending under the declared name, a deletion under the name that it carries. -/
theorem identifier_kept_throttled :
    (∃ answer, (respond {} (astray .create)).Ends throttled (.ok answer) ∧
      answer.isComplete = false ∧ answer.physicalId = "orders" ∧
      physicalId {} (astray .create) = .ok "orders") ∧
    ∃ answer, (respond {} (astray .delete)).Ends throttled (.ok answer) ∧
      answer.isComplete = false ∧ answer.physicalId = "elsewhere" ∧
      physicalId {} (astray .delete) = .ok "elsewhere" := by
  constructor
  · obtain ⟨answer, ends, found⟩ := Flow.exists_ends_of_replay
      (show (((respond {} (astray .create)).run.replay throttled).bind fun outcome =>
        outcome.toOption.map fun answer : Answer => (answer.isComplete, answer.physicalId)) =
          some (false, "orders") by decide +kernel)
    obtain ⟨pending, name⟩ := Prod.mk.inj found
    have derived :=
      ((identifier_kept fun deletes => absurd deletes (by decide)).1 throttled answer ends).1
    exact ⟨answer, ends, pending, name, name ▸ derived⟩
  · obtain ⟨answer, ends, found⟩ := Flow.exists_ends_of_replay
      (show (((respond {} (astray .delete)).run.replay throttled).bind fun outcome =>
        outcome.toOption.map fun answer : Answer => (answer.isComplete, answer.physicalId)) =
          some (false, "elsewhere") by decide +kernel)
    obtain ⟨pending, name⟩ := Prod.mk.inj found
    have derived :=
      ((identifier_kept fun _ => ⟨"elsewhere", rfl, by decide⟩).1 throttled answer ends).1
    exact ⟨answer, ends, pending, name, name ▸ derived⟩

end Engine

end Provision
