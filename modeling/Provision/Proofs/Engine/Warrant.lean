import Provision.Proofs.Dialogue.Conduct
import Provision.Proofs.Dialogue.Timing
import Provision.Proofs.Engine.Refusal
import Provision.Proofs.Session.Recovery
import Provision.Proofs.Topic.Waiting

/-!
# What requests are warranted by

Whatever is asked for an event is warranted by the event. A request that creates, changes or removes
something is made for events of its kind only. It goes to the cluster that the event declares, and
carries what the event declares after all checks. The placeholder for the brokers' identity is never
carried, partitions are only added to fewer ones that have just been described, and a topic or a
namespace is only touched under the identifier of the event (`Warranted`).

All handlers abide by this (`abides_respond`, `abides_check`), on every path: an update that creates
a missing topic, or an update that removes an old entry in passing, abides by the same rule. A later
attempt of a run is about the same event under the identifier that it has been answered with, so the
rule is the same for all attempts (`Warranted.of_withId`, `requests_warranted`).
-/

set_option autoImplicit false

namespace Provision

open Dialogue (AdminCall Request)
open Lifecycle (Answer Check Continuation Event ResourceKind)
open Session (AclDeclaration Handle Opening TopicDeclaration)

/-! ## Declared entries -/

namespace Session

/-- The brokers' own identity is a common name. -/
theorem exists_domain_of_bootstrapPrincipal {brokers : List String} {principal : String}
    (derived : bootstrapPrincipal brokers = .ok principal) :
    ∃ domain, principal = "User:CN=*." ++ domain := by
  obtain ⟨domains, -, chosen⟩ := exists_of_bind_eq_ok derived
  match domains, chosen with
  | [domain], chosen =>
      cases chosen
      exact ⟨domain, rfl⟩

end Session

namespace Acl

variable {declared entry : Entry}

/-- The entry is the declared one, with the identity of some brokers in place of the placeholder. -/
inductive Resolves (declared : Entry) : Entry → Prop where
  | plain (named : declared.hasPlaceholder = false) : Resolves declared declared
  | bootstrap {brokers : List String} {principal : String}
      (placeholder : declared.hasPlaceholder = true)
      (derived : Session.bootstrapPrincipal brokers = .ok principal) :
      Resolves declared (declared.withPrincipal principal)

theorem resolves_of_resolve {handle : Handle} (resolved : resolve handle declared = .ok entry) :
    Resolves declared entry := by
  unfold resolve at resolved
  cases placeholder : declared.hasPlaceholder with
  | false =>
      rw [placeholder] at resolved
      cases resolved
      exact .plain placeholder
  | true =>
      rw [placeholder, if_pos rfl] at resolved
      cases derived : handle.bootstrapPrincipal with
      | error failure =>
          rw [derived] at resolved
          cases resolved
      | ok principal =>
          rw [derived] at resolved
          cases resolved
          exact .bootstrap placeholder derived

/-- A resolved entry is for somebody. -/
theorem Resolves.named (resolves : Resolves declared entry) :
    entry.principal ≠ bootstrapPlaceholder := by
  cases resolves with
  | plain named => exact beq_eq_false_iff_ne.mp named
  | bootstrap placeholder derived =>
      obtain ⟨domain, rfl⟩ := Session.exists_domain_of_bootstrapPrincipal derived
      intro same
      have first := congrArg (fun text : String => text.toList.head?) same
      simp [Entry.withPrincipal, bootstrapPlaceholder] at first

/-- What the check of an entry demands. -/
theorem Entry.validate_eq_ok :
    entry.validate = .ok () ↔
      Text.isBlankText entry.resourceName = false ∧ Text.isBlankText entry.principal = false ∧
        Text.isBlankText entry.host = false ∧
        (entry.resourceType = .cluster → entry.resourceName = "kafka-cluster") := by
  unfold validate
  split_ifs <;> simp_all

/-- A resolved entry is as good as the declared one. -/
theorem Resolves.valid (resolves : Resolves declared entry) (valid : declared.validate = .ok ()) :
    entry.validate = .ok () := by
  cases resolves with
  | plain named => exact valid
  | bootstrap placeholder derived =>
      obtain ⟨domain, rfl⟩ := Session.exists_domain_of_bootstrapPrincipal derived
      have visible : Text.isBlankText ("User:CN=*." ++ domain) = false := by
        simp [Text.isBlankText, Text.isBlank]
      obtain ⟨resource, -, others⟩ := Entry.validate_eq_ok.mp valid
      exact Entry.validate_eq_ok.mpr ⟨resource, visible, others⟩

end Acl

/-! ## Warrants -/

/-- The event declares the entry on the cluster, and the declaration is valid. -/
def Acl.DeclaresOn (event : Event) (cluster : Cluster.Reference) (entry : Acl.Entry) : Prop :=
  ∃ declared, Acl.declaration event = .ok declared ∧ declared.entry = entry ∧
    Cluster.Reference.parse declared.session.clusterArn = .ok cluster

/-- The event tells that the entry was declared on the cluster before. -/
def Acl.DeclaredOn (event : Event) (cluster : Cluster.Reference) (entry : Acl.Entry) : Prop :=
  ∃ old, event.declaredBefore AclDeclaration.decode = .ok (some old) ∧ old.entry = entry ∧
    Cluster.Reference.parse old.session.clusterArn = .ok cluster

/-- The event declares the topic on the cluster, and the declaration is valid. -/
def Topic.DeclaresOn (leaders : Settings.Leaders) (event : Event) (cluster : Cluster.Reference)
    (spec : Topic.Spec) : Prop :=
  ∃ declared, Topic.declaration leaders event.properties = .ok declared ∧ declared.spec = spec ∧
    Cluster.Reference.parse declared.session.clusterArn = .ok cluster

namespace Engine

/-- The name is the identifier of the event: the one that a later event carries, if it carries any.
-/
def Names (settings : Settings.Engine) (event : Event) (name : String) : Prop :=
  physicalId settings event = .ok name ∧
    ∀ id, event.request ≠ .create → event.physicalId = some id → id ≠ "" → name = id

/-- The event warrants the request after the earlier exchanges of the same attempt. Everybody may
look things up. -/
def Warranted (settings : Settings.Engine) (event : Event) (earlier : List Exchange) :
    Request → Prop
  | .admin cluster (.createAcl entry) =>
      ResourceKind.ofName event.resourceType = .ok .acl ∧ event.request ≠ .delete ∧
        (∃ declared, Acl.DeclaresOn event cluster declared ∧ Acl.Resolves declared entry) ∧
        entry.validate = .ok () ∧ entry.principal ≠ Acl.bootstrapPlaceholder
  | .admin cluster (.deleteAcls filter) =>
      ResourceKind.ofName event.resourceType = .ok .acl ∧
        ∃ declared entry, filter = .forRemoval entry ∧ Acl.Resolves declared entry ∧
          (event.request = .update ∧ Acl.DeclaredOn event cluster declared ∨
            event.request = .delete ∧ Acl.DeclaresOn event cluster declared)
  | .admin cluster (.createTopic spec) =>
      ResourceKind.ofName event.resourceType = .ok .topic ∧ event.request ≠ .delete ∧
        Topic.DeclaresOn settings.leaders event cluster spec ∧ spec.validate = .ok () ∧
        Names settings event spec.name
  | .admin cluster (.createPartitions name total) =>
      ResourceKind.ofName event.resourceType = .ok .topic ∧ event.request = .update ∧
        (∃ spec, Topic.DeclaresOn settings.leaders event cluster spec ∧ spec.name = name ∧
          spec.partitionCount = total) ∧
        Names settings event name ∧
        ∃ current : Topic.Description,
          earlier.getLast? = some ⟨.admin cluster (.describePartitions name),
            some (.ok (some current))⟩ ∧
          current.partitionCount < total
  | .admin cluster (.deleteTopic name) =>
      ResourceKind.ofName event.resourceType = .ok .topic ∧ event.request = .delete ∧
        (∃ spec, Topic.DeclaresOn settings.leaders event cluster spec) ∧ Names settings event name
  | .updateConnectivity cluster _ desired =>
      ResourceKind.ofName event.resourceType = .ok .connectivityUpdate ∧ event.request ≠ .delete ∧
        ∃ target, Connectivity.declaredTarget event = .ok target ∧ target.desired = desired ∧
          Cluster.Reference.parse target.cluster = .ok cluster
  | .createNamespace spec | .updateNamespace spec =>
      ResourceKind.ofName event.resourceType = .ok .warehouseNamespace ∧
        event.request ≠ .delete ∧ Namespace.declaration event = .ok spec ∧
        spec.validate = .ok () ∧ Names settings event spec.name
  | .deleteNamespace name =>
      ResourceKind.ofName event.resourceType = .ok .warehouseNamespace ∧
        event.request = .delete ∧ Names settings event name
  | .describeCluster _ | .getSecret _ | .connect _ | .getNamespace _
  | .admin _ (.listAcls _) | .admin _ (.describePartitions _) => True

variable {settings : Settings.Engine} {event : Event} {kind : ResourceKind} {id : String}

theorem letsRead_warranted : Rule.LetsRead (Warranted settings event) := by
  intro earlier request reads
  cases request with
  | admin cluster call =>
      cases call with
      | listAcls filter => trivial
      | describePartitions topic => trivial
      | _ => cases reads
  | describeCluster cluster => trivial
  | getSecret name => trivial
  | connect options => trivial
  | getNamespace name => trivial
  | _ => cases reads

/-- A handler names its event as the controller does. -/
theorem names_of_derived (about : ResourceKind.ofName event.resourceType = .ok kind)
    (derived : (handlerOf settings kind).physicalId event = .ok id) : Names settings event id := by
  have identified : physicalId settings event = .ok id := by
    rw [physicalId_of_route (route_of_ofName about)]
    exact derived
  exact ⟨identified, fun carried later given nonempty =>
    id_eq_of_carried later given nonempty identified⟩

/-- An event that has been given its identifier warrants nothing more than before. -/
theorem Warranted.of_withId {earlier : List Exchange} {request : Request}
    (derived : physicalId settings event = .ok id)
    (warranted : Warranted settings { event with physicalId := some id } earlier request) :
    Warranted settings event earlier request := by
  have names : ∀ {name}, Names settings { event with physicalId := some id } name →
      Names settings event name := by
    rintro name ⟨identified, -⟩
    cases (physicalId_withId derived).symm.trans identified
    exact ⟨derived, fun carried later given nonempty =>
      id_eq_of_carried later given nonempty derived⟩
  cases request with
  | admin cluster call =>
      cases call with
      | createTopic spec =>
          obtain ⟨about, changes, declares, valid, named⟩ := warranted
          exact ⟨about, changes, declares, valid, names named⟩
      | createPartitions name total =>
          obtain ⟨about, asked, declares, named, more⟩ := warranted
          exact ⟨about, asked, declares, names named, more⟩
      | deleteTopic name =>
          obtain ⟨about, asked, declares, named⟩ := warranted
          exact ⟨about, asked, declares, names named⟩
      | createAcl entry => exact warranted
      | deleteAcls filter => exact warranted
      | listAcls filter => trivial
      | describePartitions name => trivial
  | createNamespace spec =>
      obtain ⟨about, changes, declared, valid, named⟩ := warranted
      exact ⟨about, changes, declared, valid, names named⟩
  | updateNamespace spec =>
      obtain ⟨about, changes, declared, valid, named⟩ := warranted
      exact ⟨about, changes, declared, valid, names named⟩
  | deleteNamespace name =>
      obtain ⟨about, asked, named⟩ := warranted
      exact ⟨about, asked, names named⟩
  | updateConnectivity cluster token desired => exact warranted
  | describeCluster cluster => trivial
  | getSecret name => trivial
  | connect options => trivial
  | getNamespace name => trivial

end Engine

/-! ## Entries -/

open Engine (Warranted handlerOf letsRead_warranted)

namespace Acl

variable {settings : Settings.Engine} {opening : Opening} {event : Event} {id : String}
  {declared : AclDeclaration} {handle : Handle} {entry : Entry} {earlier : List Exchange}
  {β : Type}

theorem validate_of_declaration (checked : declaration event = .ok declared) :
    declared.entry.validate = .ok () := by
  obtain ⟨given, -, checks⟩ := exists_of_bind_eq_ok checked
  obtain ⟨⟨⟩, valid, same⟩ := exists_of_bind_eq_ok checks
  cases same
  obtain ⟨⟨⟩, good, -⟩ := exists_of_bind_eq_ok valid
  exact good

/-- Ensuring what an event declares is warranted. -/
theorem abides_ensure (about : ResourceKind.ofName event.resourceType = .ok .acl)
    (changes : event.request ≠ .delete) (checked : declaration event = .ok declared)
    (referred : declared.session.validate = .ok handle.cluster)
    (resolved : resolve handle declared.entry = .ok entry) :
    (ensure handle entry).Abides (Warranted settings event) earlier := by
  have resolves := resolves_of_resolve resolved
  refine Session.abides_perform_bind trivial fun existing => ?_
  split
  · exact Flow.abides_pure ()
  · refine Session.abides_perform_bind ?_ fun _ => Flow.abides_pure ()
    exact ⟨about, changes,
      ⟨declared.entry, ⟨declared, checked, rfl, Session.Properties.parse_of_validate referred⟩,
        resolves⟩,
      resolves.valid (validate_of_declaration checked), resolves.named⟩

theorem abides_create (about : ResourceKind.ofName event.resourceType = .ok .acl)
    (changes : event.request ≠ .delete) :
    (create opening event id).Abides (Warranted settings event) earlier := by
  apply Flow.abides_ofOutcome_bind
  intro declared checked
  refine Session.abides_openSession_bind letsRead_warranted fun handle later referred => ?_
  apply Flow.abides_ofOutcome_bind
  intro entry resolved
  refine Flow.abides_bind ?_ fun _ _ _ => Flow.abides_pure _
  exact abides_ensure about changes checked referred resolved

/-- Removing what an event has declared before is warranted by an update. -/
theorem abides_removeOld {old : AclDeclaration}
    (about : ResourceKind.ofName event.resourceType = .ok .acl) (asked : event.request = .update)
    (referred : declared.session.validate = .ok handle.cluster)
    (before : event.declaredBefore AclDeclaration.decode = .ok (some old)) :
    (removeOld opening handle declared old entry).Abides (Warranted settings event) earlier := by
  have removes : ∀ (onto : Handle) (oldEntry : Entry) (later : List Exchange),
      Cluster.Reference.parse old.session.clusterArn = .ok onto.cluster →
      resolve onto old.entry = .ok oldEntry →
      (remove onto oldEntry).Abides (Warranted settings event) later := by
    intro onto oldEntry later parsed resolved
    refine Session.abides_perform_bind ?_ fun _ => Flow.abides_pure ()
    exact ⟨about, old.entry, oldEntry, rfl, resolves_of_resolve resolved,
      .inl ⟨asked, old, before, rfl, parsed⟩⟩
  unfold removeOld
  split
  · rename_i same
    apply Flow.abides_ofOutcome_bind
    intro oldEntry resolved
    split
    · refine removes handle oldEntry earlier ?_ resolved
      rw [beq_iff_eq.mp same]
      exact Session.Properties.parse_of_validate referred
    · exact Flow.abides_pure ()
  · refine Session.abides_openSession_bind letsRead_warranted fun oldHandle later opened => ?_
    apply Flow.abides_ofOutcome_bind
    intro oldEntry resolved
    exact removes oldHandle oldEntry later (Session.Properties.parse_of_validate opened) resolved

theorem abides_update (about : ResourceKind.ofName event.resourceType = .ok .acl)
    (asked : event.request = .update) :
    (update opening event id).Abides (Warranted settings event) earlier := by
  have changes : event.request ≠ .delete := by
    rw [asked]
    decide
  apply Flow.abides_ofOutcome_bind
  intro declared checked
  apply Flow.abides_ofOutcome_bind
  intro before known
  refine Session.abides_openSession_bind letsRead_warranted fun handle later referred => ?_
  apply Flow.abides_ofOutcome_bind
  intro entry resolved
  cases before with
  | none =>
      refine Flow.abides_bind ?_ fun _ _ _ => Flow.abides_pure _
      exact abides_ensure about changes checked referred resolved
  | some old =>
      refine Flow.abides_bind (abides_removeOld about asked referred known) fun _ _ _ => ?_
      refine Flow.abides_bind ?_ fun _ _ _ => Flow.abides_pure _
      exact abides_ensure about changes checked referred resolved

theorem abides_delete (about : ResourceKind.ofName event.resourceType = .ok .acl)
    (asked : event.request = .delete) :
    (delete opening event id).Abides (Warranted settings event) earlier := by
  unfold delete
  cases checked : declaration event with
  | error failure => exact Flow.abides_pure _
  | ok declared =>
      refine Session.abides_openSession_bind letsRead_warranted fun handle later referred => ?_
      apply Flow.abides_ofOutcome_bind
      intro entry resolved
      refine Flow.abides_bind (Session.abides_perform_bind ?_ fun _ => Flow.abides_pure ())
        fun _ _ _ => Flow.abides_pure _
      exact ⟨about, declared.entry, entry, rfl, resolves_of_resolve resolved,
        .inr ⟨asked, declared, checked, rfl, Session.Properties.parse_of_validate referred⟩⟩

/-- Answering an event about an entry is warranted by the event. -/
theorem abides_respond (about : ResourceKind.ofName event.resourceType = .ok .acl) :
    (respond opening event).Abides (Warranted settings event) earlier := by
  apply Flow.abides_ofOutcome_bind
  intro id _
  cases asked : event.request with
  | create =>
      refine abides_create about ?_
      rw [asked]
      decide
  | update => exact abides_update about asked
  | delete => exact abides_delete about asked

end Acl

/-! ## Topics -/

namespace Topic

variable {settings : Settings.Engine} {opening : Opening} {event : Event} {id : String}
  {declared : TopicDeclaration} {handle : Handle} {spec : Spec} {earlier : List Exchange}

/-- Waiting for leaders only looks. -/
theorem abides_awaitLeaders {rule : Rule} (reads : rule.LetsRead) (interval deadline fuel : Nat) :
    (awaitLeaders interval handle spec deadline fuel).Abides rule earlier := by
  induction fuel generalizing earlier with
  | zero => exact Flow.abides_throw _
  | succ fuel ih =>
      unfold Flow.Abides
      rw [awaitLeaders_run]
      intro asked
      refine ⟨reads _ _ rfl, fun reply => ?_⟩
      dsimp only
      split
      · trivial
      · intro answered
        dsimp only
        split
        · trivial
        · exact ih

theorem abides_awaitLeadersIfAsked {rule : Rule} (reads : rule.LetsRead)
    (leaders : Settings.Leaders) :
    (awaitLeadersIfAsked leaders handle spec).Abides rule earlier := by
  unfold awaitLeadersIfAsked
  split
  · exact fun start => abides_awaitLeaders reads _ _ _
  · exact Flow.abides_pure ()

/-- A checked declaration refers to its cluster. -/
theorem declaresOn_of_declaration {leaders : Settings.Leaders} {cluster : Cluster.Reference}
    (checked : declaration leaders event.properties = .ok declared)
    (referred : declared.session.validate = .ok cluster) :
    DeclaresOn leaders event cluster declared.spec :=
  ⟨declared, checked, rfl, Session.Properties.parse_of_validate referred⟩

/-- A missing topic is created as declared. -/
theorem abides_createAbsent (about : ResourceKind.ofName event.resourceType = .ok .topic)
    (changes : event.request ≠ .delete)
    (checked : declaration settings.leaders event.properties = .ok declared)
    (referred : declared.session.validate = .ok handle.cluster)
    (named : Engine.Names settings event declared.spec.name) :
    (createAbsent handle declared.spec).Abides (Warranted settings event) earlier := by
  obtain ⟨-, -, -, -, valid, -⟩ := exists_given_of_declaration checked
  refine Session.abides_request_bind ?_ fun reply later => ?_
  · exact ⟨about, changes, declaresOn_of_declaration checked referred, valid, named⟩
  · split
    · exact Flow.abides_pure ()
    · split
      · refine Session.abides_perform_bind trivial fun found => ?_
        split
        · exact Flow.abides_ofOutcome _
        · exact Flow.abides_throw _
      · exact Flow.abides_throw _

theorem abides_create (about : ResourceKind.ofName event.resourceType = .ok .topic)
    (changes : event.request ≠ .delete)
    (named : ∀ declared, declaration settings.leaders event.properties = .ok declared →
      Engine.Names settings event declared.spec.name) :
    (create opening settings.leaders event).Abides (Warranted settings event) earlier := by
  apply Flow.abides_ofOutcome_bind
  intro declared checked
  refine Session.abides_openSession_bind letsRead_warranted fun handle later referred => ?_
  refine Session.abides_perform_bind trivial fun found => ?_
  cases found with
  | none =>
      refine Flow.abides_bind (abides_createAbsent about changes checked referred
        (named declared checked)) fun _ _ _ => ?_
      exact Flow.abides_bind (abides_awaitLeadersIfAsked letsRead_warranted _)
        fun _ _ _ => Flow.abides_pure _
  | some current =>
      refine Flow.abides_bind (Flow.abides_ofOutcome _) fun _ _ _ => ?_
      exact Flow.abides_bind (abides_awaitLeadersIfAsked letsRead_warranted _)
        fun _ _ _ => Flow.abides_pure _

/-- A topic that has just been described is grown if it is smaller than declared. -/
theorem abides_grow {current : Description}
    (about : ResourceKind.ofName event.resourceType = .ok .topic) (asked : event.request = .update)
    (declares : DeclaresOn settings.leaders event handle.cluster spec)
    (named : Engine.Names settings event spec.name)
    (described : earlier.getLast? =
      some ⟨.admin handle.cluster (.describePartitions spec.name), some (.ok (some current))⟩) :
    (grow handle spec current).Abides (Warranted settings event) earlier := by
  apply Flow.abides_ofOutcome_bind
  intro _ _
  refine Flow.abides_ite (fun _ => Flow.abides_throw _) fun _ => ?_
  refine Flow.abides_ite (fun _ => Flow.abides_throw _) fun _ => ?_
  refine Flow.abides_ite (fun more => ?_) fun _ => Flow.abides_pure ()
  refine Session.abides_perform_bind ?_ fun _ => Flow.abides_pure ()
  exact ⟨about, asked, ⟨spec, declares, rfl, rfl⟩, named, current, described, more⟩

theorem abides_update (about : ResourceKind.ofName event.resourceType = .ok .topic)
    (asked : event.request = .update) (named : Engine.Names settings event id) :
    (update opening settings.leaders event id).Abides (Warranted settings event) earlier := by
  have changes : event.request ≠ .delete := by
    rw [asked]
    decide
  apply Flow.abides_ofOutcome_bind
  intro declared checked
  apply Flow.abides_ofOutcome_bind
  intro _ allowed
  have same := name_eq_of_checkUpdate allowed
  refine Session.abides_openSession_bind letsRead_warranted fun handle later referred => ?_
  refine Session.abides_perform_bind trivial fun found => ?_
  cases found with
  | none =>
      refine abides_create about changes fun other again => ?_
      cases checked.symm.trans again
      exact same ▸ named
  | some current =>
      refine Flow.abides_bind (abides_grow about asked
        (declaresOn_of_declaration checked referred) (same ▸ named) List.getLast?_concat) ?_
      intro _ _ _
      exact Flow.abides_bind (abides_awaitLeadersIfAsked letsRead_warranted _)
        fun _ _ _ => Flow.abides_pure _

theorem abides_delete (about : ResourceKind.ofName event.resourceType = .ok .topic)
    (asked : event.request = .delete) (named : Engine.Names settings event id) :
    (delete opening settings.leaders event id).Abides (Warranted settings event) earlier := by
  unfold delete
  cases checked : declaration settings.leaders event.properties with
  | error failure => exact Flow.abides_pure _
  | ok declared =>
      refine Session.abides_openSession_bind letsRead_warranted fun handle later referred => ?_
      refine Session.abides_perform_bind trivial fun found => ?_
      cases found with
      | none => exact Flow.abides_pure _
      | some current =>
          refine Session.abides_request_bind ?_ fun reply after => ?_
          · exact ⟨about, asked, ⟨_, declaresOn_of_declaration checked referred⟩, named⟩
          · split
            · exact Flow.abides_pure _
            · split
              · exact Flow.abides_pure _
              · exact Flow.abides_throw _

/-- Answering an event about a topic is warranted by the event. -/
theorem abides_respond (about : ResourceKind.ofName event.resourceType = .ok .topic) :
    (respond opening settings.leaders event).Abides (Warranted settings event) earlier := by
  apply Flow.abides_ofOutcome_bind
  intro id derived
  have named : Engine.Names settings event id := Engine.names_of_derived about derived
  cases asked : event.request with
  | create =>
      refine abides_create about (by rw [asked]; decide) fun declared checked => ?_
      exact name_eq_of_create asked derived checked ▸ named
  | update => exact abides_update about asked named
  | delete => exact abides_delete about asked named

end Topic

/-! ## Connectivity changes -/

namespace Connectivity

variable {settings : Settings.Engine} {event : Event} {threshold : Nat} {target : Target}
  {checkpoint : Checkpoint} {earlier : List Exchange}

/-- A step submits nothing but what the event declares. -/
theorem abides_step (about : ResourceKind.ofName event.resourceType = .ok .connectivityUpdate)
    (changes : event.request ≠ .delete) (declared : declaredTarget event = .ok target) :
    (step threshold target checkpoint).Abides (Warranted settings event) earlier := by
  apply Flow.abides_ofOutcome_bind
  intro cluster referred
  refine Flow.abides_bind (Flow.abides_question trivial) fun _ description _ => ?_
  have submits : ∀ token (next : Checkpoint) later, Flow.Abides (Warranted settings event)
      (Flow.updateConnectivity cluster token target.desired >>= fun _ => pure next) later := by
    intro token next later
    refine Flow.abides_bind (Flow.abides_question ?_) fun _ _ _ => Flow.abides_pure _
    exact ⟨about, changes, target, declared, rfl, referred⟩
  refine Flow.abides_ite (fun _ => Flow.abides_throw _) fun _ => ?_
  refine Flow.abides_ite (fun _ => ?watch) fun _ => ?submit
  case watch =>
    refine Flow.abides_ite (fun _ => Flow.abides_pure _) fun _ => ?_
    refine Flow.abides_ite (fun _ => Flow.abides_pure _) fun _ => ?_
    exact Flow.abides_ite (fun _ => submits _ _ _) fun _ => Flow.abides_pure _
  case submit =>
    refine Flow.abides_ite (fun _ => Flow.abides_pure _) fun _ => ?_
    exact Flow.abides_ite (fun _ => Flow.abides_pure _) fun _ => submits _ _ _

theorem abides_respond (about : ResourceKind.ofName event.resourceType = .ok .connectivityUpdate) :
    (respond threshold event).Abides (Warranted settings event) earlier := by
  refine Flow.abides_ite (fun _ => Flow.abides_pure _) fun changes => ?_
  have later : event.request ≠ .delete := fun same => changes (beq_iff_eq.mpr same)
  apply Flow.abides_ofOutcome_bind
  intro id _
  apply Flow.abides_ofOutcome_bind
  intro target declared
  refine Flow.abides_bind (abides_step about later declared) fun _ reached _ => ?_
  exact Flow.abides_ite (fun _ => Flow.abides_pure _) fun _ => Flow.abides_pure _

theorem abides_check {continuation : Continuation}
    (about : ResourceKind.ofName continuation.event.resourceType = .ok .connectivityUpdate) :
    (check threshold continuation).Abides (Warranted settings continuation.event) earlier := by
  refine Flow.abides_ite (fun _ => Flow.abides_pure _) fun changes => ?_
  have later : continuation.event.request ≠ .delete := fun same => changes (beq_iff_eq.mpr same)
  apply Flow.abides_ofOutcome_bind
  intro target declared
  apply Flow.abides_ofOutcome_bind
  intro checkpoint _
  refine Flow.abides_bind (abides_step about later declared) fun _ reached _ => ?_
  exact Flow.abides_ite (fun _ => Flow.abides_pure _) fun _ => Flow.abides_pure _

end Connectivity

/-! ## Namespaces -/

namespace Namespace

variable {settings : Settings.Engine} {event : Event} {threshold : Nat} {spec : Spec}
  {checkpoint : Properties} {earlier : List Exchange}

theorem validate_of_declaration (declared : declaration event = .ok spec) :
    spec.validate = .ok () := by
  obtain ⟨found, -, checks⟩ := exists_of_bind_eq_ok declared
  obtain ⟨⟨⟩, valid, same⟩ := exists_of_bind_eq_ok checks
  cases same
  exact valid

/-- A step submits nothing but what the event declares. -/
theorem abides_converge
    (about : ResourceKind.ofName event.resourceType = .ok .warehouseNamespace)
    (changes : event.request ≠ .delete) (declared : declaration event = .ok spec)
    (named : Engine.Names settings event spec.name) :
    (converge threshold spec checkpoint).Abides (Warranted settings event) earlier := by
  have valid := validate_of_declaration declared
  refine Flow.abides_bind (Flow.abides_question trivial) fun _ found _ => ?_
  cases found with
  | none =>
      refine Flow.abides_ite (fun _ => Flow.abides_pure _) fun _ => ?_
      refine Flow.abides_bind (Flow.abides_question ?_) fun _ _ _ => Flow.abides_pure _
      exact ⟨about, changes, declared, valid, named⟩
  | some current =>
      show (settle threshold spec current checkpoint).Abides _ _
      unfold settle
      split
      · exact Flow.abides_throw _
      · split
        · refine Flow.abides_ite (fun _ => Flow.abides_pure _) fun _ => ?_
          refine Flow.abides_ite (fun _ => Flow.abides_pure _) fun _ => ?_
          refine Flow.abides_bind (Flow.abides_question ?_) fun _ _ _ => Flow.abides_pure _
          exact ⟨about, changes, declared, valid, named⟩
        · exact Flow.abides_throw _
        · exact Flow.abides_pure _
        · exact Flow.abides_pure _

theorem abides_remove {id : String}
    (about : ResourceKind.ofName event.resourceType = .ok .warehouseNamespace)
    (asked : event.request = .delete) (named : Engine.Names settings event id) :
    (remove id).Abides (Warranted settings event) earlier := by
  refine Flow.abides_bind (Flow.abides_question trivial) fun _ found _ => ?_
  cases found with
  | none => exact Flow.abides_pure _
  | some current =>
      refine Flow.abides_ite (fun _ => Flow.abides_pure _) fun _ => ?_
      refine Flow.abides_bind (Flow.abides_question ?_) fun _ _ _ => Flow.abides_pure _
      exact ⟨about, asked, named⟩

/-- A step for an event is warranted by the event. -/
theorem abides_advance
    (about : ResourceKind.ofName event.resourceType = .ok .warehouseNamespace) :
    (advance threshold event checkpoint).Abides (Warranted settings event) earlier := by
  apply Flow.abides_ofOutcome_bind
  intro id derived
  have named : Engine.Names settings event id := Engine.names_of_derived about derived
  cases asked : event.request with
  | create =>
      apply Flow.abides_ofOutcome_bind
      intro spec declared
      have same := derived.symm.trans (physicalId_of_create asked declared)
      cases same
      exact abides_converge about (by rw [asked]; decide) declared named
  | update =>
      apply Flow.abides_ofOutcome_bind
      intro spec declared
      refine Flow.abides_ite (fun _ => Flow.abides_throw _) fun kept => ?_
      have same : spec.name = id := by simpa using kept
      exact abides_converge about (by rw [asked]; decide) declared (same ▸ named)
  | delete => exact abides_remove about asked named

theorem abides_respond
    (about : ResourceKind.ofName event.resourceType = .ok .warehouseNamespace) :
    (respond threshold event).Abides (Warranted settings event) earlier := by
  unfold respond
  cases derived : physicalId event with
  | error failure =>
      exact Flow.abides_ite (fun _ => Flow.abides_pure _) fun _ => Flow.abides_throw _
  | ok id =>
      refine Flow.abides_bind (abides_advance about) fun _ progress _ => ?_
      cases progress with
      | finished data => exact Flow.abides_pure _
      | pending checkpoint => exact Flow.abides_pure _

end Namespace

/-! ## The controller -/

namespace Engine

open Time (Timestamp)

variable {settings : Settings.Engine} {event : Event} {continuation : Continuation}
  {kind : ResourceKind} {startedAt : Timestamp} {logs : List (List Exchange)}
  {standing : Standing} {earlier : List Exchange}

/-- Whatever a handler asks to answer an event is warranted by the event. -/
theorem abides_respond (about : ResourceKind.ofName event.resourceType = .ok kind) :
    ((handlerOf settings kind).respond event).Abides (Warranted settings event) earlier := by
  cases kind with
  | acl => exact Acl.abides_respond about
  | topic => exact Topic.abides_respond about
  | connectivityUpdate => exact Connectivity.abides_respond about
  | warehouseNamespace => exact Namespace.abides_respond about

/-- Whatever a handler asks to check a pending event is warranted by the event. -/
theorem abides_check (about : ResourceKind.ofName continuation.event.resourceType = .ok kind) :
    ((handlerOf settings kind).check continuation).Abides
      (Warranted settings continuation.event) earlier := by
  cases kind with
  | acl => exact Flow.abides_map (Acl.abides_respond about)
  | topic => exact Flow.abides_map (Topic.abides_respond about)
  | connectivityUpdate => exact Connectivity.abides_check about
  | warehouseNamespace =>
      show (Namespace.check _ continuation).Abides _ _
      rw [Namespace.check_eq_advance]
      exact Flow.abides_bind (Namespace.abides_advance about) fun _ _ _ => Flow.abides_pure _

/-! ## Runs -/

/-- A handler that leaves an event pending answers with the identifier of the event, also where a
deletion carries none. -/
theorem derived_of_pending {log : List Exchange} {answer : Answer}
    (ends : ((handlerOf settings kind).respond event).Ends log (.ok answer))
    (pending : answer.isComplete = false) :
    (handlerOf settings kind).physicalId event = .ok answer.physicalId := by
  by_cases deletes : event.request = .delete
  · cases kind with
    | acl => exact Acl.identifies _ event log answer ends
    | topic => exact Topic.identifies _ _ event log answer ends
    | connectivityUpdate =>
        have done : (Connectivity.respond _ event).Ends log (.ok answer) := ends
        rw [Connectivity.respond_of_delete deletes] at done
        cases (Flow.ends_pure.mp done).2
        cases pending
    | warehouseNamespace =>
        have done : (Namespace.respond _ event).Ends log (.ok answer) := ends
        show Namespace.physicalId event = _
        cases derived : Namespace.physicalId event with
        | error failure =>
            rw [Namespace.respond_of_nameless_delete deletes derived] at done
            cases (Flow.ends_pure.mp done).2
            cases pending
        | ok id =>
            rw [Namespace.respond_of_physicalId derived] at done
            obtain ⟨reached, -, same⟩ := Flow.ends_bind_pure.mp done
            cases reached with
            | error failure => cases same
            | ok progress =>
                cases same
                cases progress <;> rfl
  · exact identifies_handlerOf settings kind (fun asked => absurd asked deletes) log answer ends

/-- An answer that leaves its event pending carries the identifier of the event. -/
theorem physicalId_of_pending {log : List Exchange} {answer : Answer}
    (ends : (respond settings event).Ends log (.ok answer)) (pending : answer.isComplete = false) :
    physicalId settings event = .ok answer.physicalId := by
  cases routed : route settings event with
  | error failure =>
      rw [respond_of_unrouted routed] at ends
      cases (Flow.ends_ofOutcome.mp ends).2
  | ok handler =>
      obtain ⟨kind, -, rfl⟩ := exists_kind_of_route routed
      rw [physicalId_of_route routed]
      obtain ⟨outcome, responded, same⟩ := (respond_ends_iff routed).mp ends
      cases outcome with
      | ok found =>
          cases same
          exact derived_of_pending responded pending
      | error failure =>
          cases transient : failure.isTransient with
          | false =>
              rw [answered_of_terminal transient] at same
              cases same
          | true =>
              obtain ⟨id, derived⟩ := exists_physicalId_of_transient responded transient
              rw [answered_of_transient transient derived] at same
              cases same
              exact derived

/-- Every continuation of a run is known under the identifier of the run's event. -/
theorem Run.physicalId_of_pending (run : Run settings event startedAt logs standing) :
    ∀ continuation, standing = .pending continuation →
      physicalId settings event = .ok continuation.physicalId := by
  induction run with
  | start => intro continuation same; cases same
  | step run isOpen ends ih =>
      rename_i standing after log
      rintro continuation rfl
      cases standing with
      | unanswered =>
          obtain ⟨outcome, responded, same⟩ := Dialogue.ends_bind_done.mp ends
          cases outcome with
          | error failure => cases same
          | ok answer =>
              cases complete : answer.isComplete with
              | true => simp [Standing.ofAnswer, complete] at same
              | false =>
                  simp only [Standing.ofAnswer, complete] at same
                  cases same
                  exact Engine.physicalId_of_pending responded complete
      | pending before =>
          obtain ⟨outcome, -, same⟩ := Dialogue.ends_bind_done.mp ends
          have kept := ih before rfl
          cases outcome with
          | error failure => cases same
          | ok result =>
              cases complete : result.isComplete with
              | true => simp [Standing.ofCheck, complete] at same
              | false =>
                  simp only [Standing.ofCheck, complete] at same
                  cases same
                  exact kept
      | completed id data => cases isOpen
      | failed failure => cases isOpen

/-- An attempt of a run asks nothing but what the run's event warrants. -/
theorem Run.abides (run : Run settings event startedAt logs standing) :
    (attempt settings event startedAt standing).Abides (Warranted settings event) [] := by
  cases standing with
  | unanswered =>
      cases routed : route settings event with
      | error failure =>
          show Dialogue.Abides _ (Dialogue.bind _ _) []
          rw [respond_of_unrouted routed]
          trivial
      | ok handler =>
          obtain ⟨kind, about, rfl⟩ := exists_kind_of_route routed
          rw [attempt_unanswered routed]
          exact Dialogue.abides_bind_done (abides_respond about)
  | pending continuation =>
      obtain ⟨id, same, named⟩ := run.concerns continuation rfl
      have derived := run.physicalId_of_pending continuation rfl
      cases routed : route settings continuation.event with
      | error failure =>
          show Dialogue.Abides _ (Dialogue.bind _ _) []
          rw [check_of_unrouted routed]
          trivial
      | ok handler =>
          obtain ⟨kind, about, rfl⟩ := exists_kind_of_route routed
          rw [attempt_pending routed]
          refine (Dialogue.abides_bind_done (abides_check about)).mono fun earlier request => ?_
          rw [same]
          exact Warranted.of_withId (named ▸ derived)
  | completed id data => trivial
  | failed failure => trivial

/-- **Whatever is asked for an event, in any attempt of a run and after any replies, is warranted by
the event.** That holds for every request that has been answered or given up, and for those of the
attempt that is due, even if it should wait for a reply for ever. -/
theorem requests_warranted (run : Run settings event startedAt logs standing) :
    (∀ log ∈ logs, ∀ earlier exchange later, log = earlier ++ exchange :: later →
      Warranted settings event earlier exchange.request) ∧
    (attempt settings event startedAt standing).Abides (Warranted settings event) [] := by
  refine ⟨?_, run.abides⟩
  induction run with
  | start => intro log member; cases member
  | step run isOpen ends ih =>
      intro log member earlier exchange later split
      rcases List.mem_append.mp member with before | last
      · exact ih log before earlier exchange later split
      · obtain rfl := List.mem_singleton.mp last
        exact run.abides.allows ends split

/-! ## An entry for the brokers themselves -/

/-- The brokers are to read a topic, under whatever identity they have. -/
def welcome : Event :=
  { Session.handover with
    request := .create
    properties := Session.readerProperties Acl.bootstrapPlaceholder
    oldProperties := none
    physicalId := none }

/-- What the first attempt on the event exchanges. -/
def welcomed : List Exchange :=
  (attempt {} welcome Rehearsal.beginning .unanswered).exchanged
    (Session.brokerService Session.reachable) Session.shopReads

/-- The entry is created for the identity that the addresses of the brokers have in common. -/
theorem requests_warranted_welcome :
    ∃ log standing earlier later reply,
      Run {} welcome Rehearsal.beginning [log] standing ∧
      log = earlier ++ ⟨.admin Session.streaming
        (.createAcl (Session.reader "User:CN=*.streaming.abc123.kafka.example.com")),
          reply⟩ :: later ∧
      Warranted {} welcome earlier (.admin Session.streaming
        (.createAcl (Session.reader "User:CN=*.streaming.abc123.kafka.example.com"))) := by
  have asked : Request.admin Session.streaming
      (.createAcl (Session.reader "User:CN=*.streaming.abc123.kafka.example.com")) ∈
        welcomed.map Exchange.request := by decide +kernel
  obtain ⟨⟨request, reply⟩, member, rfl⟩ := List.mem_map.mp asked
  obtain ⟨earlier, later, split⟩ := List.append_of_mem member
  have run : Run {} welcome Rehearsal.beginning [welcomed] _ :=
    Run.start.step rfl (Dialogue.ends_exchanged _ _ _)
  exact ⟨_, _, earlier, later, reply, run, split,
    (requests_warranted run).1 _ (List.mem_singleton.mpr rfl) earlier _ later split⟩

end Engine

end Provision
