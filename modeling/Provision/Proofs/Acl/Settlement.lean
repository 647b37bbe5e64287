import Mathlib.Data.List.Nodup
import Mathlib.Tactic.MkIffOfInductiveProp
import Provision.Proofs.Acl.Recovery
import Provision.Proofs.Result
import Provision.Proofs.Session.Calls
import Provision.Proofs.Session.Recovery

/-!
# What becomes of the entries of a cluster

An answered creation adds the entry at the end of what the cluster holds, unless it is there. A
deletion takes away what agrees with the entry in five fields, whatever the host and the permission
(`Entry.Covers`). An update takes away what the old entry covers and then adds the new one, or only
adds it if the old entry is the same or not told. Everything else stays, in its order
(`entries_settled`). No entry is ever there twice if none is in the beginning
(`Unrepeated.service`).

Whether the old entry is on the same cluster is decided by the texts of the two references and not
by the clusters. A blank around one of them makes an update that changes nothing a replacement, and
that takes away entries with another host or permission (`sibling_lost`).
-/

set_option autoImplicit false

namespace Provision

open Dialogue (AdminCall Request)
open Lifecycle (Answer Event)
open Session (AclDeclaration AdminFailure Brokers Contents Handle Opening after brokerService)

namespace Acl

/-! ## Five fields -/

/-- The other entry agrees with the entry in the fields that a removal goes by. -/
@[mk_iff]
structure Entry.Covers (entry other : Entry) : Prop where
  resourceType : entry.resourceType = other.resourceType
  resourceName : entry.resourceName = other.resourceName
  patternType : entry.patternType = other.patternType
  principal : entry.principal = other.principal
  operation : entry.operation = other.operation

instance (entry other : Entry) : Decidable (entry.Covers other) :=
  decidable_of_iff _ (Entry.covers_iff entry other).symm

/-- A removal goes by the five fields. -/
theorem forRemoval_selects (entry other : Entry) :
    (Filter.forRemoval entry).selects other = decide (entry.Covers other) := by
  rw [Bool.eq_iff_iff, decide_eq_true_iff, Entry.covers_iff]
  simp only [Filter.forRemoval, Filter.exact, Filter.selects, Filter.admits, Bool.and_eq_true,
    beq_iff_eq, and_true, and_assoc]

/-! ## Lists of entries -/

/-- The entries that a removal of the entry leaves. -/
def uncovered (entry : Entry) (acls : List Entry) : List Entry :=
  acls.filter fun other => ¬ entry.Covers other

/-- The entries with the entry, at the end unless it is there. -/
def added (entry : Entry) (acls : List Entry) : List Entry :=
  if entry ∈ acls then acls else acls ++ [entry]

variable {entry other : Entry} {acls : List Entry}

theorem mem_uncovered : other ∈ uncovered entry acls ↔ other ∈ acls ∧ ¬ entry.Covers other := by
  unfold uncovered
  rw [List.mem_filter, decide_eq_true_iff]

theorem mem_added : other ∈ added entry acls ↔ other ∈ acls ∨ other = entry := by
  unfold added
  split
  · rename_i present
    exact ⟨.inl, fun given => given.elim id fun same => same ▸ present⟩
  · rw [List.mem_append, List.mem_singleton]

theorem nodup_uncovered (entry : Entry) (unrepeated : acls.Nodup) :
    (uncovered entry acls).Nodup :=
  unrepeated.filter _

theorem nodup_added (entry : Entry) (unrepeated : acls.Nodup) : (added entry acls).Nodup := by
  unfold added
  split
  · exact unrepeated
  · rename_i absent
    refine List.nodup_append.mpr ⟨unrepeated, List.pairwise_singleton _ entry, ?_⟩
    rintro other member _ last rfl
    exact absent (List.mem_singleton.mp last ▸ member)

theorem remove_forRemoval (contents : Contents) (entry : Entry) :
    contents.remove (.forRemoval entry) =
      { contents with acls := uncovered entry contents.acls } := by
  unfold Contents.remove uncovered
  congr 2
  funext other
  rw [forRemoval_selects]
  simp

theorem put_eq_added (contents : Contents) (entry : Entry) :
    contents.put entry = { contents with acls := added entry contents.acls } := by
  unfold Contents.put added
  simp only [List.contains_iff_mem]

/-- A topic that is put leaves the entries as they are. -/
theorem acls_putTopic (broker : Rehearsal.Broker) (topic : Topic.Description) :
    (broker.putTopic topic).acls = broker.acls := by
  unfold Rehearsal.Broker.putTopic
  split <;> rfl

/-- No call puts an entry there twice. -/
theorem nodup_perform {contents : Contents} (unrepeated : contents.acls.Nodup) (call : AdminCall) :
    (contents.perform call).2.acls.Nodup := by
  cases call with
  | createAcl entry =>
      rw [Contents.perform_createAcl, put_eq_added]
      exact nodup_added entry unrepeated
  | deleteAcls filter => exact unrepeated.filter _
  | listAcls filter => exact unrepeated
  | createTopic spec =>
      unfold Contents.perform Rehearsal.Broker.perform
      dsimp only
      split
      · exact unrepeated
      · show (contents.broker.createTopic spec).acls.Nodup
        unfold Rehearsal.Broker.createTopic
        exact (acls_putTopic _ _).symm ▸ unrepeated
  | createPartitions name total =>
      unfold Contents.perform Rehearsal.Broker.perform
      dsimp only
      split
      · exact unrepeated
      · split
        · exact unrepeated
        · exact (acls_putTopic _ _).symm ▸ unrepeated
  | deleteTopic name =>
      unfold Contents.perform Rehearsal.Broker.perform
      dsimp only
      split <;> exact unrepeated
  | describePartitions name => exact unrepeated

/-! ## A removal and an addition -/

/-- The entries left by a removal, if there is one. -/
def remaining : Option Entry → List Entry → List Entry
  | none, acls => acls
  | some gone, acls => uncovered gone acls

/-- The entries after a removal, if there is one, and an addition, if there is one. -/
def settled (gone : Option Entry) : Option Entry → List Entry → List Entry
  | none, acls => remaining gone acls
  | some made, acls => added made (remaining gone acls)

/-- The call that removes an entry, if there is one. -/
def removing : Option Entry → List AdminCall
  | none => []
  | some gone => [.deleteAcls (.forRemoval gone)]

/-- The calls that add an entry, if there is one: it is created only if it is not there. -/
def adding : Option Entry → List Entry → List AdminCall
  | none, _ => []
  | some made, acls =>
      .listAcls (.exact made) :: if made ∈ acls then [] else [.createAcl made]

/-- The calls of a removal and an addition. -/
def settling (gone made : Option Entry) (acls : List Entry) : List AdminCall :=
  removing gone ++ adding made (remaining gone acls)

variable {gone made : Option Entry}

theorem nodup_remaining (gone : Option Entry) (unrepeated : acls.Nodup) :
    (remaining gone acls).Nodup := by
  cases gone with
  | none => exact unrepeated
  | some gone => exact nodup_uncovered gone unrepeated

theorem nodup_settled (gone made : Option Entry) (unrepeated : acls.Nodup) :
    (settled gone made acls).Nodup := by
  cases made with
  | none => exact nodup_remaining gone unrepeated
  | some made => exact nodup_added made (nodup_remaining gone unrepeated)

/-- What is not covered by what is removed survives. -/
theorem mem_settled_of_mem (present : other ∈ acls) (apart : ∀ entry ∈ gone, ¬ entry.Covers other) :
    other ∈ settled gone made acls := by
  have remains : other ∈ remaining gone acls := by
    cases gone with
    | none => exact present
    | some entry => exact mem_uncovered.mpr ⟨present, apart entry rfl⟩
  cases made with
  | none => exact remains
  | some entry => exact mem_added.mpr (.inl remains)

/-- What is added is there once. -/
theorem count_settled (entry : Entry) (unrepeated : acls.Nodup) :
    (settled gone (some entry) acls).count entry = 1 :=
  List.count_eq_one_of_mem (nodup_settled gone (some entry) unrepeated) (mem_added.mpr (.inr rfl))

/-! ## On a cluster -/

/-- The brokers with other entries on a cluster. -/
def withAcls (brokers : Brokers) (cluster : Cluster.Reference) (acls : List Entry) : Brokers :=
  Function.update brokers cluster { brokers cluster with acls }

variable {replies : (request : Request) → request.Reply} {opening : Opening} {handle : Handle}
  {cluster : Cluster.Reference} {brokers : Brokers} {event : Event} {declared : AclDeclaration}
  {id : String}

theorem put_eq_withAcls (brokers : Brokers) (cluster : Cluster.Reference) (entry : Entry) :
    put brokers cluster entry = withAcls brokers cluster (added entry (brokers cluster).acls) := by
  unfold put withAcls
  rw [put_eq_added]

theorem removed_eq_withAcls (brokers : Brokers) (cluster : Cluster.Reference) (entry : Entry) :
    removed brokers cluster entry =
      withAcls brokers cluster (uncovered entry (brokers cluster).acls) := by
  unfold removed withAcls
  rw [remove_forRemoval]

theorem put_withAcls (brokers : Brokers) (cluster : Cluster.Reference) (entry : Entry)
    (acls : List Entry) :
    put (withAcls brokers cluster acls) cluster entry =
      withAcls brokers cluster (added entry acls) := by
  rw [put_eq_withAcls]
  unfold withAcls
  rw [Function.update_self, Function.update_idem]

/-- The brokers and the calls after a removal, if there is one, and an addition, if there is one. -/
structure Turns (cluster : Cluster.Reference) (gone made : Option Entry) (brokers left : Brokers)
    (calls : Dialogue.Calls) : Prop where
  left_eq : left = withAcls brokers cluster (settled gone made (brokers cluster).acls)
  calls_eq : calls =
    (settling gone made (brokers cluster).acls).map fun call => (cluster, call)

theorem achieves_ensure (handle : Handle) (entry : Entry) (brokers : Brokers) :
    (ensure handle entry).Achieves (brokerService replies) brokers fun _ left calls =>
      left = put brokers handle.cluster entry ∧
        calls = (adding (some entry) (brokers handle.cluster).acls).map
          fun call => (handle.cluster, call) := by
  have listed : ((brokers handle.cluster).perform (.listAcls (.exact entry))).1 =
      .ok ((brokers handle.cluster).acls.filter (Filter.exact entry).selects) := rfl
  have created : ((brokers handle.cluster).perform (.createAcl entry)).1 =
      (.ok () : Except AdminFailure Unit) := by rw [Contents.perform_createAcl]
  unfold ensure
  refine Session.achieves_perform_bind listed ?_
  rw [contains_filter_exact, after_listAcls]
  by_cases present : entry ∈ (brokers handle.cluster).acls
  · have listed := List.contains_iff_mem.mpr present
    rw [if_pos listed, adding, if_pos present]
    exact Flow.achieves_pure ⟨(put_of_contains listed).symm, rfl⟩
  · rw [if_neg (mt List.contains_iff_mem.mp present), adding, if_neg present]
    refine Session.achieves_perform_bind created ?_
    exact Flow.achieves_pure ⟨after_createAcl _ _ _, rfl⟩

theorem achieves_remove (handle : Handle) (entry : Entry) (brokers : Brokers) :
    (remove handle entry).Achieves (brokerService replies) brokers fun _ left calls =>
      left = removed brokers handle.cluster entry ∧
        calls = [(handle.cluster, .deleteAcls (.forRemoval entry))] := by
  have taken : ((brokers handle.cluster).perform (.deleteAcls (.forRemoval entry))).1 =
      .ok ((brokers handle.cluster).acls.filter (Filter.forRemoval entry).selects) := rfl
  exact Session.achieves_perform_bind taken (Flow.achieves_pure ⟨rfl, rfl⟩)

/-- An addition turns the brokers to what is settled. -/
theorem achieves_addition (handle : Handle) (entry : Entry) (brokers : Brokers) (answer : Answer) :
    Flow.Achieves (brokerService replies) (ensure handle entry >>= fun _ => pure answer) brokers
      fun _ => Turns handle.cluster none (some entry) brokers := by
  refine Flow.achieves_bind ((achieves_ensure handle entry brokers).mono ?_)
  rintro _ _ calls ⟨rfl, rfl⟩
  refine Flow.achieves_pure ⟨put_eq_withAcls _ _ _, ?_⟩
  rw [List.append_nil]
  rfl

/-- So does a removal. -/
theorem achieves_removal (handle : Handle) (entry : Entry) (brokers : Brokers) (answer : Answer) :
    Flow.Achieves (brokerService replies) (remove handle entry >>= fun _ => pure answer) brokers
      fun _ => Turns handle.cluster (some entry) none brokers := by
  refine Flow.achieves_bind ((achieves_remove handle entry brokers).mono ?_)
  rintro _ _ calls ⟨rfl, rfl⟩
  exact Flow.achieves_pure ⟨removed_eq_withAcls _ _ _, rfl⟩

/-- And so does a removal that is followed by an addition on the same cluster. -/
theorem achieves_replacement {oldHandle : Handle} (same : oldHandle.cluster = handle.cluster)
    (gone made : Entry) (brokers : Brokers) (answer : Answer) :
    Flow.Achieves (brokerService replies)
      (remove oldHandle gone >>= fun _ => ensure handle made >>= fun _ => pure answer) brokers
      fun _ => Turns handle.cluster (some gone) (some made) brokers := by
  refine Flow.achieves_bind ((achieves_remove oldHandle gone brokers).mono ?_)
  rintro _ _ calls ⟨rfl, rfl⟩
  rw [same, removed_eq_withAcls]
  refine Flow.achieves_bind ((achieves_ensure handle made _).mono ?_)
  rintro _ _ calls ⟨rfl, rfl⟩
  refine Flow.achieves_pure ⟨put_withAcls _ _ _ _, ?_⟩
  unfold withAcls
  rw [Function.update_self, List.append_nil]
  rfl

/-! ## What an event asks for -/

/-- What an event asks for on its cluster: the entry that is removed with its like, and the one that
is added. -/
inductive Asks (event : Event) (declared : AclDeclaration) (handle : Handle) (entry : Entry) :
    Option Entry → Option Entry → Prop where
  | created (request : event.request = .create) : Asks event declared handle entry none (some entry)
  | deleted (request : event.request = .delete) : Asks event declared handle entry (some entry) none
  /-- The event does not tell what was declared before. -/
  | unpreceded (request : event.request = .update) (untold : event.oldProperties = none) :
      Asks event declared handle entry none (some entry)
  /-- The entry is the one declared before, on a cluster that is referred to in the same way. -/
  | kept {old : AclDeclaration} (request : event.request = .update)
      (before : event.declaredBefore AclDeclaration.decode = .ok (some old))
      (same : resolve handle old.entry = .ok entry)
      (alike : old.session.clusterArn = declared.session.clusterArn) :
      Asks event declared handle entry none (some entry)
  /-- The entry is another one, or its cluster is referred to in another way. -/
  | replaced {old : AclDeclaration} {oldEntry : Entry} (request : event.request = .update)
      (before : event.declaredBefore AclDeclaration.decode = .ok (some old))
      (resolved : resolve handle old.entry = .ok oldEntry)
      (other : oldEntry ≠ entry ∨ old.session.clusterArn ≠ declared.session.clusterArn) :
      Asks event declared handle entry (some oldEntry) (some entry)

/-- The brokers and the calls after a session in which the event has got what it asks for. -/
inductive Settles (replies : (request : Request) → request.Reply) (event : Event)
    (declared : AclDeclaration) (brokers left : Brokers)
    (calls : Dialogue.Calls) : Prop where
  | intro (handle : Handle) (entry : Entry) (gone made : Option Entry)
      (knows : Session.Knows replies declared.session handle)
      (resolved : resolve handle declared.entry = .ok entry)
      (asks : Asks event declared handle entry gone made)
      (turns : Turns handle.cluster gone made brokers left calls)

/-- An update is about one cluster, however its two declarations refer to it. -/
def OnOneCluster (event : Event) (declared : AclDeclaration) : Prop :=
  event.request = .update → ∀ old, event.declaredBefore AclDeclaration.decode = .ok (some old) →
    Cluster.Reference.parse old.session.clusterArn =
      Cluster.Reference.parse declared.session.clusterArn

/-- Two sessions that know the same endpoints resolve an entry to the same. -/
theorem resolve_congr {oldHandle : Handle} (same : oldHandle.brokers = handle.brokers)
    (entry : Entry) : resolve oldHandle entry = resolve handle entry := by
  unfold resolve Handle.bootstrapPrincipal
  rw [same]

theorem oldProperties_eq_none_of_declaredBefore {α : Type}
    {decode : Json → Except Json.DecodeFault α} (untold : event.declaredBefore decode = .ok none) :
    event.oldProperties = none := by
  unfold Event.declaredBefore at untold
  cases told : event.oldProperties with
  | none => rfl
  | some properties =>
      rw [told] at untold
      dsimp only at untold
      cases decoded : Event.decodeProperties decode properties with
      | error failure =>
          rw [decoded] at untold
          cases untold
      | ok value =>
          rw [decoded] at untold
          cases untold

theorem achieves_create (valid : declaration event = .ok declared)
    (request : event.request = .create) :
    (create opening event id).Achieves (brokerService replies) brokers
      fun _ => Settles replies event declared brokers := by
  unfold create
  refine Flow.achieves_ofOutcome_bind fun found checked => ?_
  obtain rfl := Except.ok.inj (valid.symm.trans checked)
  refine Session.achieves_openSession_bind fun handle knows => ?_
  refine Flow.achieves_ofOutcome_bind fun entry resolved => ?_
  refine (achieves_addition handle entry brokers _).mono fun _ _ _ turns => ?_
  exact .intro handle entry none (some entry) knows resolved (.created request) turns

theorem achieves_delete (valid : declaration event = .ok declared)
    (request : event.request = .delete) :
    (delete opening event id).Achieves (brokerService replies) brokers
      fun _ => Settles replies event declared brokers := by
  unfold delete
  rw [valid]
  refine Session.achieves_openSession_bind fun handle knows => ?_
  refine Flow.achieves_ofOutcome_bind fun entry resolved => ?_
  refine (achieves_removal handle entry brokers _).mono fun _ _ _ turns => ?_
  exact .intro handle entry (some entry) none knows resolved (.deleted request) turns

theorem achieves_update (valid : declaration event = .ok declared)
    (request : event.request = .update)
    (together : OnOneCluster event declared) :
    (update opening event id).Achieves (brokerService replies) brokers
      fun _ => Settles replies event declared brokers := by
  unfold update
  refine Flow.achieves_ofOutcome_bind fun found checked => ?_
  obtain rfl := Except.ok.inj (valid.symm.trans checked)
  refine Flow.achieves_ofOutcome_bind fun before told => ?_
  refine Session.achieves_openSession_bind fun handle knows => ?_
  refine Flow.achieves_ofOutcome_bind fun entry resolved => ?_
  cases before with
  | none =>
      refine (achieves_addition handle entry brokers _).mono fun _ _ _ turns => ?_
      exact .intro handle entry none (some entry) knows resolved
        (.unpreceded request (oldProperties_eq_none_of_declaredBefore told)) turns
  | some old =>
      show Flow.Achieves _ (removeOld opening handle declared old entry >>= _) _ _
      unfold removeOld
      by_cases alike : old.session.clusterArn = declared.session.clusterArn
      · rw [if_pos (beq_iff_eq.mpr alike), Flow.bind_assoc]
        refine Flow.achieves_ofOutcome_bind fun oldEntry was => ?_
        by_cases same : oldEntry = entry
        · subst same
          rw [if_neg (by simp)]
          refine (achieves_addition handle oldEntry brokers _).mono fun _ _ _ turns => ?_
          exact .intro handle oldEntry none (some oldEntry) knows resolved
            (.kept request told was alike) turns
        · rw [if_pos (bne_iff_ne.mpr same)]
          refine (achieves_replacement rfl oldEntry entry brokers _).mono fun _ _ _ turns => ?_
          exact .intro handle entry (some oldEntry) (some entry) knows resolved
            (.replaced request told was (.inl same)) turns
      · rw [if_neg (mt beq_iff_eq.mp alike), Flow.bind_assoc]
        refine Session.achieves_openSession_bind fun oldHandle knew => ?_
        rw [Flow.bind_assoc]
        refine Flow.achieves_ofOutcome_bind fun oldEntry was => ?_
        obtain ⟨sameCluster, sameBrokers⟩ := knows.alike knew (together request old told)
        rw [resolve_congr sameBrokers] at was
        refine (achieves_replacement sameCluster oldEntry entry brokers _).mono
          fun _ _ _ turns => ?_
        exact .intro handle entry (some oldEntry) (some entry) knows resolved
          (.replaced request told was (.inr alike)) turns

theorem achieves_respond (valid : declaration event = .ok declared)
    (together : OnOneCluster event declared) :
    (respond opening event).Achieves (brokerService replies) brokers
      fun _ => Settles replies event declared brokers := by
  unfold respond
  refine Flow.achieves_ofOutcome_bind fun id _ => ?_
  cases request : event.request with
  | create => exact achieves_create valid request
  | update => exact achieves_update valid request together
  | delete => exact achieves_delete valid request

/-- No cluster holds an entry twice. -/
def Unrepeated (brokers : Brokers) : Prop := ∀ cluster, (brokers cluster).acls.Nodup

/-- No request makes an entry be there twice. -/
theorem Unrepeated.service (unrepeated : Unrepeated brokers) (request : Request) :
    Unrepeated (brokerService replies request brokers).2 := by
  intro cluster
  cases request with
  | admin other call =>
      show (after brokers other call cluster).acls.Nodup
      unfold after
      by_cases same : cluster = other
      · subst same
        rw [Function.update_self]
        exact nodup_perform (unrepeated cluster) call
      · rw [Function.update_of_ne same]
        exact unrepeated cluster
  | _ => exact unrepeated cluster

/-- **A successful answer about an entry leaves on its cluster what the event asks for**: the old
entry is removed with its like if it is another one or its cluster is written in another way, the
declared entry is added unless it is there, and it is created only then. **What the removal does not
cover survives in its order, what is added is there once, and no entry is ever there twice.** Other
clusters and the topics stay as they are. -/
theorem entries_settled {answer : Answer} (valid : declaration event = .ok declared)
    (together : OnOneCluster event declared)
    (unrepeated : Unrepeated brokers)
    (succeeds : ((respond opening event).serve (brokerService replies) brokers).1 = .ok answer) :
    ∃ handle entry gone made, Session.Knows replies declared.session handle ∧
      resolve handle declared.entry = .ok entry ∧
      Asks event declared handle entry gone made ∧
      ((respond opening event).serve (brokerService replies) brokers).2 =
        withAcls brokers handle.cluster (settled gone made (brokers handle.cluster).acls) ∧
      Dialogue.calls (brokerService replies) (respond opening event).run brokers =
        (settling gone made (brokers handle.cluster).acls).map
          (fun call => (handle.cluster, call)) ∧
      (∀ other ∈ (brokers handle.cluster).acls, (∀ lost ∈ gone, ¬ lost.Covers other) →
        other ∈ settled gone made (brokers handle.cluster).acls) ∧
      (∀ wanted ∈ made, (settled gone made (brokers handle.cluster).acls).count wanted = 1) ∧
      ∀ reached, (respond opening event).Passes (brokerService replies) brokers reached →
        Unrepeated reached := by
  obtain ⟨handle, entry, gone, made, knows, resolved, asks, turns⟩ :=
    achieves_respond valid together answer succeeds
  refine ⟨handle, entry, gone, made, knows, resolved, asks, turns.left_eq, turns.calls_eq,
    fun other present apart => mem_settled_of_mem present apart, ?_,
    fun reached passes => passes.keeps (fun request _ kept => kept.service request) unrepeated⟩
  rintro wanted here
  cases made with
  | none => cases here
  | some made =>
      obtain rfl := Option.mem_some_iff.mp here
      exact count_settled _ (unrepeated _)

/-- What the event that hands the reading over declares. -/
def handedOver : AclDeclaration :=
  { session :=
      { clusterArn := "arn:aws:kafka:eu-west-1:1:cluster/streaming/7", secretName := "client"
        logLevel := none }
    entry := Session.reader "User:billing" }

/-- The entry of the first principal gives way to the one of the second. -/
theorem entries_settled_handover :
    ∃ handle entry gone made, Asks Session.handover handedOver handle entry gone made ∧
      handle.cluster = Session.streaming ∧
      settled gone made [Session.reader "User:shop"] = [Session.reader "User:billing"] := by
  have before : Session.handover.declaredBefore AclDeclaration.decode =
      .ok (some { handedOver with entry := Session.reader "User:shop" }) := by decide +kernel
  have together : OnOneCluster Session.handover handedOver := by
    rintro - old found
    obtain rfl := Option.some.inj (Except.ok.inj (before.symm.trans found))
    rfl
  have served : Answer.physicalId <$> ((respond (.ofSettings {}) Session.handover).serve
        (brokerService Session.reachable) Session.shopReads).1 = .ok "reader" ∧
      (((respond (.ofSettings {}) Session.handover).serve
        (brokerService Session.reachable) Session.shopReads).2 Session.streaming).acls =
          [Session.reader "User:billing"] := by decide +kernel
  obtain ⟨answer, succeeds, -⟩ := exists_of_map_eq_ok served.1
  obtain ⟨handle, entry, gone, made, knows, -, asks, left, -⟩ :=
    entries_settled (by decide +kernel) together (fun _ => List.nodup_singleton _) succeeds
  have there : handle.cluster = Session.streaming :=
    Except.ok.inj (knows.referred.symm.trans
      (show handedOver.session.validate = .ok Session.streaming by decide +kernel))
  refine ⟨handle, entry, gone, made, asks, there, ?_⟩
  rw [← served.2, left, there]
  unfold withAcls
  rw [Function.update_self]
  rfl

/-! ## One blank more -/

/-- An update that changes nothing: the old reference to the cluster has a blank at its end. -/
def unchanged : Event :=
  { request := .update
    resourceType := "Acl"
    properties := Session.readerProperties "User:shop"
    oldProperties := some (("clusterArn", .text "arn:aws:kafka:eu-west-1:1:cluster/streaming/7 ") ::
      (Session.readerProperties "User:shop").tail)
    physicalId := some "reader" }

/-- The entry of the first principal, for one host. -/
def sibling : Entry := { Session.reader "User:shop" with host := "10.0.0.1" }

/-- Every cluster holds the entry of the first principal and the one for one host. -/
def bothRead : Brokers := fun _ => ⟨[Session.reader "User:shop", sibling], []⟩

/-- **An update that declares the same entry on the same cluster may take away another entry**: the
removal covers the sibling, and the declared entry alone is added again. -/
theorem sibling_lost :
    ∃ declared old, declaration unchanged = .ok declared ∧
      unchanged.declaredBefore AclDeclaration.decode = .ok (some old) ∧
      old.entry = declared.entry ∧ declared.entry = Session.reader "User:shop" ∧
      OnOneCluster unchanged declared ∧ Unrepeated bothRead ∧
      Answer.physicalId <$> ((respond (.ofSettings {}) unchanged).serve
        (brokerService Session.reachable) bothRead).1 = .ok "reader" ∧
      (((respond (.ofSettings {}) unchanged).serve
        (brokerService Session.reachable) bothRead).2 Session.streaming).acls =
          [Session.reader "User:shop"] := by
  have before : unchanged.declaredBefore AclDeclaration.decode =
      .ok (some
        { session :=
            { clusterArn := "arn:aws:kafka:eu-west-1:1:cluster/streaming/7 "
              secretName := "client", logLevel := none }
          entry := Session.reader "User:shop" }) := by decide +kernel
  refine ⟨{ handedOver with entry := Session.reader "User:shop" }, _, by decide +kernel, before,
    rfl, rfl, ?_, fun _ => show List.Nodup [_, _] by decide +kernel, ?_⟩
  · rintro - old found
    obtain rfl := Option.some.inj (Except.ok.inj (before.symm.trans found))
    decide +kernel
  · decide +kernel

end Acl

end Provision
