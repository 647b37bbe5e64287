import Mathlib.Control.Monad.Basic
import Provision.Proofs.Engine.Transience

/-!
# Events that are refused without asking

Whatever can be known to be wrong with an event is found out before any service is asked. An event
of an unknown kind is refused, and so is a creation or an update whose properties do not declare a
resource of its kind (`Declares`). An update is also refused if it renames what exists or takes
partitions away (`refused_unasked`).
-/

set_option autoImplicit false

namespace Provision

open Lifecycle (Event Handler ResourceKind)
open Session (AclDeclaration TopicDeclaration)

/-! ## Refusals -/

/-- A failure of validation. -/
def Failure.IsInvalid (failure : Failure) : Prop := failure.kind = .validation

/-- A failure that goes back to the caller. -/
def Failure.IsFinal (failure : Failure) : Prop := failure.isTransient = false

theorem Failure.IsInvalid.isFinal {failure : Failure} (invalid : failure.IsInvalid) :
    failure.IsFinal := by
  unfold IsFinal isTransient
  rw [show failure.kind = .validation from invalid]
  rfl

namespace Flow

variable {α β : Type} {sort : Failure → Prop}

/-- The flow fails with a failure of the given sort, and asks nothing before. -/
def Refuses (flow : Flow α) (sort : Failure → Prop) : Prop :=
  ∃ failure, sort failure ∧ flow = ofOutcome (.error failure)

/-- A flow that goes on with what is known is refused for what is wrong with that, or later. -/
theorem refuses_bind {known : Outcome α} {follow : α → Flow β}
    (first : ∀ failure, known = .error failure → sort failure)
    (second : ∀ value, known = .ok value → (follow value).Refuses sort) :
    (ofOutcome known >>= follow).Refuses sort := by
  cases found : known with
  | error failure => exact ⟨failure, first failure found, ofOutcome_error_bind failure follow⟩
  | ok value => exact second value found

/-- Nothing goes on with what is known to be wrong. -/
theorem refuses_bind_of_error {known : Outcome α} {follow : α → Flow β} {failure : Failure}
    (fails : known = .error failure) (sorted : sort failure) :
    (ofOutcome known >>= follow).Refuses sort := by
  refine refuses_bind ?_ ?_
  · intro found same
    cases fails.symm.trans same
    exact sorted
  · intro value same
    cases fails.symm.trans same

/-- Nothing goes on with what is never declared well. -/
theorem refuses_of_never {known : Outcome α} {follow : α → Flow β} (validates : Validates known)
    (never : ∀ value, known ≠ .ok value) :
    (ofOutcome known >>= follow).Refuses Failure.IsInvalid :=
  refuses_bind validates fun value found => absurd found (never value)

end Flow

/-! ## What counts as a declaration -/

theorem Lifecycle.Event.decodeProperties_eq_ok {α : Type}
    {decode : Json → Except Json.DecodeFault α} {properties : Properties} {value : α} :
    decodeProperties decode properties = .ok value ↔ decode (.object properties) = .ok value := by
  unfold decodeProperties
  cases decode (.object properties) with
  | ok found =>
      constructor
      · rintro ⟨⟩
        rfl
      · rintro ⟨⟩
        rfl
  | error fault =>
      constructor
      · rintro ⟨⟩
      · rintro ⟨⟩

/-- What was declared before is what the old properties are decoded as. -/
theorem Lifecycle.Event.declaredBefore_of_decode {α : Type}
    {decode : Json → Except Json.DecodeFault α} {event : Event} {properties : Properties}
    {old : α} (before : event.oldProperties = some properties)
    (decoded : decode (.object properties) = .ok old) :
    event.declaredBefore decode = .ok (some old) := by
  unfold declaredBefore
  rw [before]
  dsimp only
  rw [decodeProperties_eq_ok.mpr decoded]
  rfl

/-- The topic to declare; where the properties name no time to wait for leaders, the settings do. -/
def Topic.Spec.waitingBy (spec : Topic.Spec) (leaders : Settings.Leaders)
    (properties : Properties) : Topic.Spec :=
  if properties.contains "leaderWaitTimeoutMs" || properties.contains "timeout" then spec
  else { spec with leaderWaitMs := leaders.waitMs }

/-- The properties can be decoded as a resource of the kind, and it passes its checks. -/
def Engine.Declares (settings : Settings.Engine) (properties : Properties) : ResourceKind → Prop
  | .acl => ∃ declared cluster, AclDeclaration.decode (.object properties) = .ok declared ∧
      declared.entry.validate = .ok () ∧ declared.session.validate = .ok cluster
  | .topic => ∃ declared cluster, TopicDeclaration.decode (.object properties) = .ok declared ∧
      (declared.spec.waitingBy settings.leaders properties).validate = .ok () ∧
      declared.session.validate = .ok cluster
  | .connectivityUpdate => ∃ target cluster,
      Connectivity.Target.codec.decode (.object properties) = .ok target ∧
      target.reference = .ok cluster
  | .warehouseNamespace => ∃ spec, Namespace.Spec.codec.decode (.object properties) = .ok spec ∧
      spec.validate = .ok ()

variable {settings : Settings.Engine} {event : Event} {id : String}

open Engine (Declares)

/-! ## Handlers -/

namespace Acl

theorem declares_of_declaration {declared : AclDeclaration}
    (checked : declaration event = .ok declared) : Declares settings event.properties .acl := by
  obtain ⟨given, decoded, checks⟩ := exists_of_bind_eq_ok checked
  obtain ⟨⟨⟩, valid, -⟩ := exists_of_bind_eq_ok checks
  obtain ⟨⟨⟩, entry, session⟩ := exists_of_bind_eq_ok valid
  obtain ⟨cluster, referred, -⟩ := exists_of_bind_eq_ok session
  exact ⟨given, cluster, Event.decodeProperties_eq_ok.mp decoded, entry, referred⟩

theorem refuses_of_undeclared (opening : Session.Opening) (changes : event.request ≠ .delete)
    (undeclared : ¬ Declares settings event.properties .acl) :
    (respond opening event).Refuses Failure.IsInvalid := by
  have wrong : ∀ declared, declaration event ≠ .ok declared := fun declared checked =>
    undeclared (declares_of_declaration checked)
  unfold respond
  refine Flow.refuses_bind (validates_physicalId event) fun id _ => ?_
  cases asked : event.request with
  | create =>
      exact Flow.refuses_of_never (validates_declaration event) wrong
  | update =>
      exact Flow.refuses_of_never (validates_declaration event) wrong
  | delete => exact absurd asked changes

end Acl

namespace Topic

variable {leaders : Settings.Leaders} {declared : TopicDeclaration} {spec : Spec}

/-- A declared topic is what the properties say, checked. -/
theorem exists_given_of_declaration
    (checked : declaration leaders event.properties = .ok declared) :
    ∃ given cluster, TopicDeclaration.decode (.object event.properties) = .ok given ∧
      declared.spec = given.spec.waitingBy leaders event.properties ∧
      declared.spec.validate = .ok () ∧ given.session.validate = .ok cluster := by
  unfold declaration at checked
  obtain ⟨given, decoded, checks⟩ := exists_of_bind_eq_ok checked
  obtain ⟨⟨⟩, valid, later⟩ := exists_of_bind_eq_ok checks
  obtain ⟨cluster, referred, same⟩ := exists_of_bind_eq_ok later
  cases same
  refine ⟨given, cluster, Event.decodeProperties_eq_ok.mp decoded, ?_, valid, ?_⟩
  · unfold Spec.waitingBy
    split <;> rfl
  · split at referred <;> exact referred

theorem declares_of_declaration
    (checked : declaration settings.leaders event.properties = .ok declared) :
    Declares settings event.properties .topic := by
  obtain ⟨given, cluster, decoded, same, valid, referred⟩ := exists_given_of_declaration checked
  exact ⟨given, cluster, decoded, same ▸ valid, referred⟩

theorem refuses_of_undeclared (opening : Session.Opening) (changes : event.request ≠ .delete)
    (undeclared : ¬ Declares settings event.properties .topic) :
    (respond opening settings.leaders event).Refuses Failure.IsInvalid := by
  have wrong : ∀ declared, declaration settings.leaders event.properties ≠ .ok declared :=
    fun declared checked => undeclared (declares_of_declaration checked)
  unfold respond
  refine Flow.refuses_bind (validates_physicalId _ event) fun id _ => ?_
  cases asked : event.request with
  | create =>
      exact Flow.refuses_of_never (validates_declaration _ _) wrong
  | update =>
      exact Flow.refuses_of_never (validates_declaration _ _) wrong
  | delete => exact absurd asked changes

/-- An update that renames the topic is in conflict with it. -/
theorem exists_conflict_of_renamed (renamed : spec.name ≠ id) :
    ∃ message, checkUpdate event spec id = .error (.conflict message) := by
  unfold checkUpdate
  rw [if_pos (bne_iff_ne.mpr renamed)]
  exact ⟨_, rfl⟩

/-- An update that would take partitions away is refused, if not for another name. -/
theorem exists_final_of_fewer {properties : Properties} {old : TopicDeclaration}
    (before : event.oldProperties = some properties)
    (decoded : TopicDeclaration.decode (.object properties) = .ok old)
    (fewer : spec.partitionCount < old.spec.partitionCount) :
    ∃ failure, failure.IsFinal ∧ checkUpdate event spec id = .error failure := by
  by_cases same : spec.name = id
  · refine ⟨fewerPartitions spec.name old.spec.partitionCount spec.partitionCount, rfl, ?_⟩
    have found : event.declaredBefore TopicDeclaration.decode = .ok (some old) :=
      Event.declaredBefore_of_decode before decoded
    have kept : (spec.name != id) = false := by
      rw [same]
      exact bne_self_eq_false id
    unfold checkUpdate
    rw [kept, found]
    show (if spec.partitionCount < old.spec.partitionCount then _ else _) = _
    rw [if_pos fewer]
    rfl
  · obtain ⟨message, conflicts⟩ := exists_conflict_of_renamed same
    exact ⟨.conflict message, rfl, conflicts⟩

/-- An update is refused for whatever is wrong with its declaration, and for what its check says. -/
theorem refuses_update (opening : Session.Opening) (asked : event.request = .update)
    (refused : ∀ id declared, physicalId leaders event = .ok id →
      declaration leaders event.properties = .ok declared →
      ∃ failure, failure.IsFinal ∧ checkUpdate event declared.spec id = .error failure) :
    (respond opening leaders event).Refuses Failure.IsFinal := by
  unfold respond
  refine Flow.refuses_bind (fun failure nameless =>
    (validates_physicalId leaders event).terminal nameless) fun id named => ?_
  rw [asked]
  refine Flow.refuses_bind (fun failure wrong =>
    (validates_declaration _ _).terminal wrong) fun declared checked => ?_
  obtain ⟨failure, final, fails⟩ := refused id declared named checked
  exact Flow.refuses_bind_of_error fails final

end Topic

namespace Connectivity

theorem declares_of_declaredTarget {target : Target} (checked : declaredTarget event = .ok target) :
    Declares settings event.properties .connectivityUpdate := by
  obtain ⟨found, decoded, refers⟩ := exists_of_bind_eq_ok checked
  obtain ⟨cluster, referred, -⟩ := exists_of_bind_eq_ok refers
  exact ⟨found, cluster, Event.decodeProperties_eq_ok.mp decoded, referred⟩

theorem refuses_of_undeclared (threshold : Nat) (changes : event.request ≠ .delete)
    (undeclared : ¬ Declares settings event.properties .connectivityUpdate) :
    (respond threshold event).Refuses Failure.IsInvalid := by
  cases checked : declaredTarget event with
  | ok target => exact absurd (declares_of_declaredTarget checked) undeclared
  | error failure =>
      exact ⟨failure, validates_declaredTarget event failure checked,
        respond_of_undeclared changes checked⟩

end Connectivity

namespace Namespace

theorem declares_of_declaration {spec : Spec} (checked : declaration event = .ok spec) :
    Declares settings event.properties .warehouseNamespace := by
  obtain ⟨found, decoded, checks⟩ := exists_of_bind_eq_ok checked
  obtain ⟨⟨⟩, valid, -⟩ := exists_of_bind_eq_ok checks
  exact ⟨found, Event.decodeProperties_eq_ok.mp decoded, valid⟩

/-- A change is refused with what its first step is refused with. -/
theorem refuses_of_advance {threshold : Nat} {sort : Failure → Prop}
    (changes : event.request ≠ .delete)
    (nameless : ∀ failure, physicalId event = .error failure → sort failure)
    (refused : (advance threshold event []).Refuses sort) :
    (respond threshold event).Refuses sort := by
  cases named : physicalId event with
  | error failure =>
      exact ⟨failure, nameless failure named, respond_of_nameless changes named⟩
  | ok id =>
      obtain ⟨failure, sorted, same⟩ := refused
      refine ⟨failure, sorted, ?_⟩
      rw [respond_of_physicalId named, same]
      rfl

theorem refuses_of_undeclared (threshold : Nat) (changes : event.request ≠ .delete)
    (undeclared : ¬ Declares settings event.properties .warehouseNamespace) :
    (respond threshold event).Refuses Failure.IsInvalid := by
  have wrong : ∀ spec, declaration event ≠ .ok spec := fun spec checked =>
    undeclared (declares_of_declaration checked)
  refine refuses_of_advance changes (validates_physicalId event) ?_
  unfold advance
  refine Flow.refuses_bind (validates_physicalId event) fun id _ => ?_
  cases asked : event.request with
  | create =>
      exact Flow.refuses_of_never (validates_declaration event) wrong
  | update =>
      exact Flow.refuses_of_never (validates_declaration event) wrong
  | delete => exact absurd asked changes

/-- An update that renames the namespace is refused. -/
theorem refuses_of_renamed (threshold : Nat) (asked : event.request = .update)
    (named : physicalId event = .ok id)
    (renamed : ∀ spec, declaration event = .ok spec → spec.name ≠ id) :
    (respond threshold event).Refuses Failure.IsFinal := by
  have changes : event.request ≠ .delete := by
    rw [asked]
    decide
  refine refuses_of_advance changes (fun failure wrong =>
    (validates_physicalId event).terminal wrong) ?_
  unfold advance
  rw [named, Flow.ofOutcome_ok_bind, asked]
  refine Flow.refuses_bind (fun failure wrong =>
    (validates_declaration event).terminal wrong) fun spec checked => ?_
  rw [if_pos (bne_iff_ne.mpr (renamed spec checked))]
  exact ⟨.conflict _, rfl, rfl⟩

end Namespace

/-! ## The controller -/

namespace Engine

variable {kind : ResourceKind} {sort : Failure → Prop}

/-- An event of no known kind is refused. -/
theorem refuses_of_unknown {failure : Failure}
    (unknown : ResourceKind.ofName event.resourceType = .error failure) :
    (respond settings event).Refuses Failure.IsInvalid := by
  have unrouted : route settings event = .error failure := by
    unfold route
    rw [unknown]
    rfl
  exact ⟨failure, validates_route settings event failure unrouted, respond_of_unrouted unrouted⟩

/-- The controller refuses what the handler refuses for good. -/
theorem refuses_of_handler (known : ResourceKind.ofName event.resourceType = .ok kind)
    (final : ∀ failure, sort failure → failure.IsFinal)
    (refused : ((handlerOf settings kind).respond event).Refuses sort) :
    (respond settings event).Refuses sort := by
  obtain ⟨failure, sorted, same⟩ := refused
  refine ⟨failure, sorted, ?_⟩
  have told : (respond settings event).run = (Flow.ofOutcome (.error failure) : Flow _).run := by
    rw [respond_run (route_of_ofName known), same]
    show Dialogue.done (answered _ event (.error failure)) = Dialogue.done (.error failure)
    rw [answered_of_terminal (final failure sorted)]
  exact told

theorem refuses_of_undeclared (known : ResourceKind.ofName event.resourceType = .ok kind)
    (changes : event.request ≠ .delete) (undeclared : ¬ Declares settings event.properties kind) :
    (respond settings event).Refuses Failure.IsInvalid := by
  refine refuses_of_handler known (fun failure => Failure.IsInvalid.isFinal) ?_
  cases kind with
  | acl => exact Acl.refuses_of_undeclared _ changes undeclared
  | topic => exact Topic.refuses_of_undeclared _ changes undeclared
  | connectivityUpdate => exact Connectivity.refuses_of_undeclared _ changes undeclared
  | warehouseNamespace => exact Namespace.refuses_of_undeclared _ changes undeclared

/-- An update of a topic or a namespace that declares another name than the one it carries is
refused. -/
theorem refuses_of_renamed {name : String}
    (known : ResourceKind.ofName event.resourceType = .ok kind)
    (nominal : kind = .topic ∨ kind = .warehouseNamespace) (asked : event.request = .update)
    (carried : event.physicalId = some id) (named : id ≠ "")
    (declared : declaredId event.properties kind = .ok name) (renamed : name ≠ id) :
    (respond settings event).Refuses Failure.IsFinal := by
  refine refuses_of_handler known (fun failure final => final) ?_
  have later : event.request ≠ .create := by
    rw [asked]
    decide
  rcases nominal with rfl | rfl
  · refine Topic.refuses_update _ asked fun other topic derived checked => ?_
    have kept : Topic.physicalId settings.leaders event = .ok id :=
      Event.idOr_of_carried later carried named
    cases derived.symm.trans kept
    obtain ⟨given, decoded, same⟩ := Topic.exists_decoded checked
    have declaredName : declaredId event.properties .topic = .ok given.spec.name := by
      unfold declaredId
      rw [decoded]
      rfl
    cases declared.symm.trans declaredName
    rw [← same] at renamed
    obtain ⟨message, conflicts⟩ := Topic.exists_conflict_of_renamed renamed
    exact ⟨.conflict message, rfl, conflicts⟩
  · refine Namespace.refuses_of_renamed _ asked (Event.idOr_of_carried later carried named) ?_
    intro spec checked
    obtain ⟨found, decoded, checks⟩ := exists_of_bind_eq_ok checked
    obtain ⟨⟨⟩, -, same⟩ := exists_of_bind_eq_ok checks
    cases same
    have declaredName : declaredId event.properties .warehouseNamespace = .ok spec.name := by
      unfold declaredId
      rw [show Event.decodeProperties _ event.properties = .ok spec from decoded]
      rfl
    cases declared.symm.trans declaredName
    exact renamed

/-- An update of a topic that declares fewer partitions than before is refused. -/
theorem refuses_of_fewer {properties : Properties} {given old : TopicDeclaration}
    (known : ResourceKind.ofName event.resourceType = .ok .topic) (asked : event.request = .update)
    (before : event.oldProperties = some properties)
    (decoded : TopicDeclaration.decode (.object event.properties) = .ok given)
    (decodedOld : TopicDeclaration.decode (.object properties) = .ok old)
    (fewer : given.spec.partitionCount < old.spec.partitionCount) :
    (respond settings event).Refuses Failure.IsFinal := by
  refine refuses_of_handler known (fun failure final => final) ?_
  refine Topic.refuses_update _ asked fun id declared _ checked => ?_
  obtain ⟨found, cluster, again, same, -⟩ := Topic.exists_given_of_declaration checked
  cases decoded.symm.trans again
  refine Topic.exists_final_of_fewer before decodedOld ?_
  rw [same]
  unfold Topic.Spec.waitingBy
  split <;> exact fewer

/-- **What is wrong with an event is found out before any service is asked.** An event of an unknown
kind, and a creation or an update that does not declare a resource of its kind, fail with a failure
of validation. An update that declares another name than the one it carries, or fewer partitions
than before, fails for good. -/
theorem refused_unasked (settings : Settings.Engine) (event : Event) :
    (∀ failure, ResourceKind.ofName event.resourceType = .error failure →
      (respond settings event).Refuses Failure.IsInvalid) ∧
    (∀ kind, ResourceKind.ofName event.resourceType = .ok kind → event.request ≠ .delete →
      ¬ Declares settings event.properties kind →
      (respond settings event).Refuses Failure.IsInvalid) ∧
    (∀ kind id name, ResourceKind.ofName event.resourceType = .ok kind →
      kind = .topic ∨ kind = .warehouseNamespace → event.request = .update →
      event.physicalId = some id → id ≠ "" → declaredId event.properties kind = .ok name →
      name ≠ id → (respond settings event).Refuses Failure.IsFinal) ∧
    ∀ properties given old, ResourceKind.ofName event.resourceType = .ok .topic →
      event.request = .update → event.oldProperties = some properties →
      TopicDeclaration.decode (.object event.properties) = .ok given →
      TopicDeclaration.decode (.object properties) = .ok old →
      given.spec.partitionCount < old.spec.partitionCount →
      (respond settings event).Refuses Failure.IsFinal :=
  ⟨fun _ => refuses_of_unknown, fun _ => refuses_of_undeclared, fun _ _ _ => refuses_of_renamed,
    fun _ _ _ => refuses_of_fewer⟩

/-! ## Events that are refused -/

/-- An update of a topic with two partitions to one with a single partition. -/
def shrinking : Event :=
  { astray .update with
    physicalId := some "orders"
    oldProperties := some ((astray .update).properties.insert "partitionCount" (.whole 2)) }

/-- The number of partitions that properties declare. -/
theorem exists_topic_of_count {properties : Properties} {count : Nat}
    (counts : ((TopicDeclaration.decode (.object properties)).toOption.map
      (·.spec.partitionCount)) = some count) :
    ∃ declared, TopicDeclaration.decode (.object properties) = .ok declared ∧
      declared.spec.partitionCount = count := by
  cases decoded : TopicDeclaration.decode (.object properties) with
  | error fault =>
      rw [decoded] at counts
      cases counts
  | ok declared =>
      rw [decoded] at counts
      exact ⟨declared, rfl, Option.some.inj counts⟩

/-- A queue, a topic without properties, a topic under the name of another and a shrinking one. -/
theorem refused_unasked_orders :
    (respond {} { astray .create with resourceType := "Queue" }).Refuses Failure.IsInvalid ∧
    (respond {} { astray .create with properties := [] }).Refuses Failure.IsInvalid ∧
    (respond {} (astray .update)).Refuses Failure.IsFinal ∧
    (respond {} shrinking).Refuses Failure.IsFinal := by
  have undecoded : (TopicDeclaration.decode (.object [])).toOption.isNone = true := by
    decide +kernel
  refine ⟨?_, ?_, ?_, ?_⟩
  · exact (refused_unasked {} { astray .create with resourceType := "Queue" }).1 _ rfl
  · refine (refused_unasked {} { astray .create with properties := [] }).2.1 .topic rfl
      (by decide) ?_
    rintro ⟨declared, cluster, decoded, -⟩
    rw [decoded] at undecoded
    cases undecoded
  · exact (refused_unasked {} (astray .update)).2.2.1 .topic "elsewhere" "orders" rfl (.inl rfl)
      rfl rfl (by decide) (by decide +kernel) (by decide)
  · obtain ⟨old, before, two⟩ := exists_topic_of_count
      (show ((TopicDeclaration.decode (.object ((astray .update).properties.insert
        "partitionCount" (.whole 2)))).toOption.map (·.spec.partitionCount)) = some 2 by
          decide +kernel)
    obtain ⟨given, decoded, one⟩ := exists_topic_of_count
      (show ((TopicDeclaration.decode (.object shrinking.properties)).toOption.map
        (·.spec.partitionCount)) = some 1 by decide +kernel)
    have fewer : given.spec.partitionCount < old.spec.partitionCount := by
      rw [one, two]
      decide
    exact (refused_unasked {} shrinking).2.2.2 _ given old rfl rfl rfl decoded before fewer

end Engine

end Provision
