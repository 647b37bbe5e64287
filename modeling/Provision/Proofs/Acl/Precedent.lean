import Provision.Proofs.Acl.Settlement
import Provision.Proofs.Engine.Warrant

/-!
# Old declarations of entries

An update of an entry may tell what was declared before. What cannot be decoded is refused before
anything is asked, but what can be decoded is not checked: the update asks for its cluster whatever
is wrong with the old declaration (`precedent_unchecked`).

If the old declaration refers to its cluster in another way, a second session is opened with it, and
only that one finds out that the reference is malformed or the name of the secret is blank. Then the
update is refused, and nothing has been changed. If it refers to the cluster in the same way, its
other parts are never looked at but for the entry, which is removed as it is told. So an update
completes in spite of an old entry without a principal (`precedent_accepted`).
-/

set_option autoImplicit false

namespace Provision.Acl

open Dialogue (Request)
open Lifecycle (Answer Event ResourceKind)
open Session (AclDeclaration Brokers Handle Opening brokerService openSession)

variable {replies : (request : Request) → request.Reply} {settings : Settings.Engine}
  {opening : Opening} {event : Event} {declared old : AclDeclaration} {properties : Properties}
  {handle : Handle} {entry oldEntry : Entry} {brokers : Brokers} {cluster : Cluster.Reference}
  {id : String} {α : Type}

/-! ## Sessions -/

/-- A session with a cluster begins with the question for it. -/
theorem exists_ask_of_openSession {session : Session.Properties} {follow : Handle → Flow α}
    (referred : session.validate = .ok cluster) :
    ∃ next, (openSession opening session >>= follow).run =
      .ask (.describeCluster cluster) next := by
  unfold openSession
  rw [referred]
  exact ⟨_, rfl⟩

/-- No session is opened with properties that are not valid. -/
theorem openSession_of_invalid {session : Session.Properties} {failure : Failure}
    (invalid : session.validate = .error failure) :
    openSession opening session = Flow.ofOutcome (.error failure) := by
  unfold openSession
  rw [invalid, Flow.ofOutcome_error_bind]

/-- The old session is opened if the old reference is another text, and that fails if the old
session's properties are not valid. -/
theorem removeOld_of_invalid {failure : Failure}
    (elsewhere : old.session.clusterArn ≠ declared.session.clusterArn)
    (invalid : old.session.validate = .error failure) :
    removeOld opening handle declared old entry = Flow.ofOutcome (.error failure) := by
  unfold removeOld
  rw [if_neg (mt beq_iff_eq.mp elsewhere), openSession_of_invalid invalid,
    Flow.ofOutcome_error_bind]

/-- An old entry on a cluster that is referred to in the same way is removed if it is another one,
valid or not. -/
theorem leaves_removeOld (alike : old.session.clusterArn = declared.session.clusterArn)
    (was : resolve handle old.entry = .ok oldEntry) (brokers : Brokers) :
    Flow.Leaves (brokerService replies) (removeOld opening handle declared old entry) brokers
      (.ok ())
      (if oldEntry = entry then brokers else removed brokers handle.cluster oldEntry) := by
  unfold removeOld
  rw [if_pos (beq_iff_eq.mpr alike), was, Flow.ofOutcome_ok_bind]
  by_cases same : oldEntry = entry
  · rw [if_neg (by simp [same]), if_pos same]
    exact Flow.leaves_ofOutcome (.ok ()) brokers
  · rw [if_pos (bne_iff_ne.mpr same), if_neg same]
    exact leaves_remove handle oldEntry brokers

/-! ## Updates that tell what was declared before -/

/-- The event is an update of an entry whose new declaration is valid, and it tells old properties.
-/
structure Tells (event : Event) (declared : AclDeclaration) (properties : Properties) : Prop where
  about : ResourceKind.ofName event.resourceType = .ok .acl
  asked : event.request = .update
  declares : declaration event = .ok declared
  told : event.oldProperties = some properties

namespace Tells

variable (tells : Tells event declared properties)
include tells

/-- The cluster that the new declaration refers to. -/
theorem exists_cluster : ∃ cluster, declared.session.validate = .ok cluster := by
  obtain ⟨given, -, checks⟩ := exists_of_bind_eq_ok tells.declares
  obtain ⟨⟨⟩, valid, same⟩ := exists_of_bind_eq_ok checks
  cases same
  obtain ⟨-, -, session⟩ := exists_of_bind_eq_ok valid
  obtain ⟨cluster, referred, -⟩ := exists_of_bind_eq_ok session
  exact ⟨cluster, referred⟩

/-- A valid declaration identifies its event. -/
theorem exists_physicalId : ∃ id, physicalId event = .ok id := by
  obtain ⟨given, decoded, -⟩ := exists_of_bind_eq_ok tells.declares
  unfold physicalId Event.idOr
  cases event.givenId? with
  | some id => exact ⟨id, rfl⟩
  | none =>
      rw [decoded]
      exact ⟨given.entry.physicalId, rfl⟩

/-- Old properties that cannot be decoded are refused at once. -/
theorem refuses (undecodable : ∀ old, AclDeclaration.decode (.object properties) ≠ .ok old) :
    (respond opening event).Refuses Failure.IsInvalid := by
  obtain ⟨id, identified⟩ := tells.exists_physicalId
  have fails : ∃ failure, failure.IsInvalid ∧
      event.declaredBefore AclDeclaration.decode = .error failure := by
    unfold Event.declaredBefore
    rw [tells.told]
    dsimp only
    cases decoded : Event.decodeProperties AclDeclaration.decode properties with
    | ok old => exact absurd (Event.decodeProperties_eq_ok.mp decoded) (undecodable old)
    | error failure =>
        exact ⟨failure, Event.validates_decodeProperties _ _ failure decoded, rfl⟩
  obtain ⟨failure, invalid, fails⟩ := fails
  unfold respond
  rw [identified, Flow.ofOutcome_ok_bind, tells.asked]
  show (update opening event id).Refuses _
  unfold update
  rw [tells.declares, Flow.ofOutcome_ok_bind]
  exact Flow.refuses_bind_of_error fails invalid

/-- What an update does once both declarations are decoded. -/
theorem respond_eq (decoded : AclDeclaration.decode (.object properties) = .ok old)
    (identified : physicalId event = .ok id) :
    respond opening event =
      openSession opening declared.session >>= fun handle =>
        Flow.ofOutcome (resolve handle declared.entry) >>= fun entry =>
          removeOld opening handle declared old entry >>= fun _ =>
            ensure handle entry >>= fun _ => pure (Answer.complete id (output entry)) := by
  unfold respond
  rw [identified, Flow.ofOutcome_ok_bind, tells.asked]
  show update opening event id = _
  unfold update
  rw [tells.declares, Event.declaredBefore_of_decode tells.told decoded]
  rfl

/-- Whatever is wrong with an old declaration that is decoded, the update asks for its cluster. -/
theorem exists_described (decoded : AclDeclaration.decode (.object properties) = .ok old)
    (referred : declared.session.validate = .ok cluster) {log : List Exchange}
    {outcome : Outcome Answer} (ends : (Engine.respond settings event).Ends log outcome) :
    ∃ reply rest, log = ⟨.describeCluster cluster, some reply⟩ :: rest := by
  obtain ⟨id, identified⟩ := tells.exists_physicalId
  obtain ⟨found, responded, -⟩ :=
    (Engine.respond_ends_iff (Engine.route_of_ofName tells.about)).mp ends
  have handles : (respond (.ofSettings settings) event).Ends log found := responded
  rw [tells.respond_eq decoded identified] at handles
  obtain ⟨next, asks⟩ := exists_ask_of_openSession referred
  unfold Flow.Ends at handles
  rw [asks] at handles
  obtain ⟨reply, rest, same, -⟩ := Dialogue.ends_ask.mp handles
  exact ⟨reply, rest, same⟩

/-- An old session that cannot be opened leaves everything as it is, whatever is replied. -/
theorem abides (decoded : AclDeclaration.decode (.object properties) = .ok old)
    (elsewhere : old.session.clusterArn ≠ declared.session.clusterArn)
    (invalid : ∀ cluster, old.session.validate ≠ .ok cluster) :
    (Engine.respond settings event).Abides (fun _ request => request.reads = true) [] := by
  obtain ⟨id, identified⟩ := tells.exists_physicalId
  cases failed : old.session.validate with
  | ok cluster => exact absurd failed (invalid cluster)
  | error failure =>
      unfold Flow.Abides
      rw [Engine.respond_run (Engine.route_of_ofName tells.about)]
      refine Dialogue.abides_bind_done ?_
      show (respond (.ofSettings settings) event).Abides _ []
      rw [tells.respond_eq decoded identified]
      refine Session.abides_openSession_bind (fun _ _ reads => reads) fun handle later _ => ?_
      refine Flow.abides_ofOutcome_bind fun entry _ => ?_
      rw [removeOld_of_invalid elsewhere failed]
      exact Flow.abides_ofOutcome (.error failure)

/-- The first session is open when the old one is found not to be valid. -/
theorem serve_of_elsewhere (decoded : AclDeclaration.decode (.object properties) = .ok old)
    (elsewhere : old.session.clusterArn ≠ declared.session.clusterArn)
    (invalid : ∀ cluster, old.session.validate ≠ .ok cluster)
    (opened : ((openSession (.ofSettings settings) declared.session).serve (brokerService replies)
      brokers).1 = .ok handle)
    (resolved : resolve handle declared.entry = .ok entry) :
    ∃ failure, failure.IsInvalid ∧
      (Engine.respond settings event).serve (brokerService replies) brokers =
        (.error failure, brokers) := by
  obtain ⟨id, identified⟩ := tells.exists_physicalId
  cases failed : old.session.validate with
  | ok cluster => exact absurd failed (invalid cluster)
  | error failure =>
      have kind : failure.IsInvalid := Session.Properties.validates_validate _ failure failed
      have leaves : Flow.Leaves (brokerService replies) (respond (.ofSettings settings) event)
          brokers (.error failure) brokers := by
        rw [tells.respond_eq decoded identified]
        refine Session.leaves_openSession_bind opened ?_
        rw [resolved, Flow.ofOutcome_ok_bind, removeOld_of_invalid elsewhere failed]
        exact Flow.leaves_ofOutcome (.error failure) brokers
      refine ⟨failure, kind, ?_⟩
      rw [Engine.serve_respond (Engine.route_of_ofName tells.about)]
      show (Engine.answered _ _ ((respond _ _).serve _ _).1, ((respond _ _).serve _ _).2) = _
      rw [leaves.serves, Engine.answered_of_terminal kind.isFinal]

/-- On a cluster that is referred to in the same way the update completes. -/
theorem serve_of_alike (decoded : AclDeclaration.decode (.object properties) = .ok old)
    (identified : physicalId event = .ok id)
    (alike : old.session.clusterArn = declared.session.clusterArn)
    (opened : ((openSession (.ofSettings settings) declared.session).serve (brokerService replies)
      brokers).1 = .ok handle)
    (resolved : resolve handle declared.entry = .ok entry)
    (was : resolve handle old.entry = .ok oldEntry) :
    (Engine.respond settings event).serve (brokerService replies) brokers =
      (.ok (Answer.complete id (output entry)),
        put (if oldEntry = entry then brokers else removed brokers handle.cluster oldEntry)
          handle.cluster entry) := by
  have served : (respond (.ofSettings settings) event).serve (brokerService replies) brokers =
      (.ok (Answer.complete id (output entry)),
        put (if oldEntry = entry then brokers else removed brokers handle.cluster oldEntry)
          handle.cluster entry) := by
    rw [tells.respond_eq decoded identified,
      Flow.serve_bind_ok (Session.serve_eq_of_opened opened), resolved, Flow.ofOutcome_ok_bind,
      Flow.serve_bind_ok (leaves_removeOld alike was brokers).serves,
      Flow.serve_bind_ok (leaves_ensure handle entry _).serves]
    rfl
  rw [Engine.serve_respond (Engine.route_of_ofName tells.about)]
  show (Engine.answered _ _ ((respond _ _).serve _ _).1, ((respond _ _).serve _ _).2) = _
  rw [served]
  rfl

end Tells

/-! ## Two old declarations that are not valid -/

/-- The handover, with a reference that is malformed for the old cluster. -/
def fromNowhere : Event :=
  { Session.handover with
    oldProperties := some (("clusterArn", .text "streaming") ::
      (Session.readerProperties "User:shop").tail) }

/-- What the event declared before. -/
def nowhere : AclDeclaration where
  session := { handedOver.session with clusterArn := "streaming" }
  entry := Session.reader "User:shop"

/-- The handover, with a blank for the old principal. -/
def fromNobody : Event :=
  { Session.handover with oldProperties := some (Session.readerProperties " ") }

/-- What the event declared before. -/
def nobody : AclDeclaration := { handedOver with entry := Session.reader " " }

theorem tells_fromNowhere : Tells fromNowhere handedOver
    (("clusterArn", .text "streaming") :: (Session.readerProperties "User:shop").tail) where
  about := by decide +kernel
  asked := rfl
  declares := by decide +kernel
  told := rfl

theorem tells_fromNobody :
    Tells fromNobody handedOver (Session.readerProperties " ") where
  about := by decide +kernel
  asked := rfl
  declares := by decide +kernel
  told := rfl

/-- **Old properties that cannot be decoded are refused before anything is asked, and nothing else
that is wrong with them is.** The update asks for its cluster. If the old reference is another text,
an old session that is not valid is refused when the new one is open, and nothing is changed. If it
is the same text, the update completes, and the old entry is removed as it is told. -/
theorem precedent_unchecked (tells : Tells event declared properties) :
    ((∀ old, AclDeclaration.decode (.object properties) ≠ .ok old) →
      (Engine.respond settings event).Refuses Failure.IsInvalid) ∧
    ∀ old, AclDeclaration.decode (.object properties) = .ok old →
      (∃ cluster, declared.session.validate = .ok cluster ∧
        ∀ log outcome, (Engine.respond settings event).Ends log outcome →
          ∃ reply rest, log = ⟨.describeCluster cluster, some reply⟩ :: rest) ∧
      (old.session.clusterArn ≠ declared.session.clusterArn →
        (∀ cluster, old.session.validate ≠ .ok cluster) →
        (Engine.respond settings event).Abides (fun _ request => request.reads = true) [] ∧
        ∀ replies brokers handle entry,
          ((openSession (.ofSettings settings) declared.session).serve (brokerService replies)
            brokers).1 = .ok handle →
          resolve handle declared.entry = .ok entry →
          ∃ failure, failure.IsInvalid ∧
            (Engine.respond settings event).serve (brokerService replies) brokers =
              (.error failure, brokers)) ∧
      (old.session.clusterArn = declared.session.clusterArn →
        ∀ replies brokers handle entry oldEntry id, physicalId event = .ok id →
          ((openSession (.ofSettings settings) declared.session).serve (brokerService replies)
            brokers).1 = .ok handle →
          resolve handle declared.entry = .ok entry →
          resolve handle old.entry = .ok oldEntry →
          (Engine.respond settings event).serve (brokerService replies) brokers =
            (.ok (Answer.complete id (output entry)),
              put (if oldEntry = entry then brokers else removed brokers handle.cluster oldEntry)
                handle.cluster entry)) := by
  refine ⟨fun undecodable => ?_, fun old decoded => ⟨?_, fun elsewhere invalid => ⟨?_, ?_⟩, ?_⟩⟩
  · exact Engine.refuses_of_handler tells.about (fun _ => Failure.IsInvalid.isFinal)
      (tells.refuses undecodable)
  · obtain ⟨cluster, referred⟩ := tells.exists_cluster
    exact ⟨cluster, referred, fun log outcome ends =>
      tells.exists_described decoded referred ends⟩
  · exact tells.abides decoded elsewhere invalid
  · intro replies brokers handle entry opened resolved
    exact tells.serve_of_elsewhere decoded elsewhere invalid opened resolved
  · intro alike replies brokers handle entry oldEntry id identified opened resolved was
    exact tells.serve_of_alike decoded identified alike opened resolved was

/-- The handover from nobody completes, and what it removes is nobody's entry. -/
theorem precedent_unchecked_nobody :
    Tells fromNobody handedOver (Session.readerProperties " ") ∧
      AclDeclaration.decode (.object (Session.readerProperties " ")) = .ok nobody ∧
      ∃ handle : Handle, (Engine.respond {} fromNobody).serve (brokerService Session.reachable)
          Session.shopReads =
        (.ok (Answer.complete "reader" (output handedOver.entry)),
          put (removed Session.shopReads handle.cluster nobody.entry) handle.cluster
            handedOver.entry) := by
  have decoded : AclDeclaration.decode (.object (Session.readerProperties " ")) = .ok nobody := by
    decide +kernel
  have identified : physicalId fromNobody = .ok "reader" := by decide +kernel
  have opens : (((openSession (.ofSettings {}) handedOver.session).serve
      (brokerService Session.reachable) Session.shopReads).1.map Handle.requestMs).isOk = true := by
    decide +kernel
  cases opened : ((openSession (.ofSettings {}) handedOver.session).serve
      (brokerService Session.reachable) Session.shopReads).1 with
  | error failure =>
      rw [opened] at opens
      cases opens
  | ok handle =>
      have completes := ((precedent_unchecked tells_fromNobody).2 nobody decoded).2.2 rfl
        Session.reachable Session.shopReads handle handedOver.entry nobody.entry "reader"
        identified opened rfl rfl
      refine ⟨tells_fromNobody, decoded, handle, ?_⟩
      rw [completes, if_neg (by decide)]

/-- **Not every old declaration that is not valid is refused before anything is asked**: neither the
one with a malformed reference is, nor the one with a blank principal. -/
theorem precedent_accepted :
    (∃ failure, nowhere.validate = .error failure ∧
      AclDeclaration.decode (.object
        (("clusterArn", .text "streaming") :: (Session.readerProperties "User:shop").tail)) =
          .ok nowhere ∧
      Tells fromNowhere handedOver
        (("clusterArn", .text "streaming") :: (Session.readerProperties "User:shop").tail) ∧
      ¬ (Engine.respond {} fromNowhere).Refuses Failure.IsInvalid) ∧
    ∃ failure, nobody.validate = .error failure ∧
      AclDeclaration.decode (.object (Session.readerProperties " ")) = .ok nobody ∧
      Tells fromNobody handedOver (Session.readerProperties " ") ∧
      ¬ (Engine.respond {} fromNobody).Refuses Failure.IsInvalid := by
  have asks : ((Engine.respond {} fromNowhere).run.replay []).isNone = true ∧
      ((Engine.respond {} fromNobody).run.replay []).isNone = true := by decide +kernel
  refine ⟨⟨Failure.validation "无效的集群 ARN: streaming", by decide +kernel, by decide +kernel,
    tells_fromNowhere, ?_⟩, ⟨Failure.validation "ACL 主体不能为空", by decide +kernel,
    by decide +kernel, tells_fromNobody, ?_⟩⟩
  · rintro ⟨failure, -, same⟩
    rw [same] at asks
    cases asks.1
  · rintro ⟨failure, -, same⟩
    rw [same] at asks
    cases asks.2

end Provision.Acl
