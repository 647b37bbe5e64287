import Provision.Acl.Lifecycle
import Provision.Proofs.Engine.Retry
import Provision.Proofs.Session.Brokers

/-!
# Entries after lost replies

Putting an entry and removing entries are idempotent, and a removal followed by a creation is so as
a whole, also where the removal takes the created entry away again
(`put_removed_put_removed`). The flows that create, replace and remove entries can
therefore be tried again after any loss (`resumable_respond`).
-/

set_option autoImplicit false

namespace Provision

open Dialogue (AdminCall Request)
open Lifecycle (Answer CompletesAs Event)
open Session (AdminFailure Brokers Contents Handle Opening after brokerService)

/-! ## Contents -/

namespace Session.Contents

/-- The contents with an entry. -/
def put (contents : Contents) (entry : Acl.Entry) : Contents :=
  { contents with
    acls := if contents.acls.contains entry then contents.acls else contents.acls ++ [entry] }

/-- The contents without the selected entries. -/
def remove (contents : Contents) (filter : Acl.Filter) : Contents :=
  { contents with acls := contents.acls.filter fun entry => !filter.selects entry }

theorem broker_putAcl (contents : Contents) (entry : Acl.Entry) :
    contents.broker.putAcl entry = (contents.put entry).broker := by
  by_cases present : contents.acls.contains entry = true
  · simp only [Rehearsal.Broker.putAcl, put, broker, present, if_true]
  · simp only [Rehearsal.Broker.putAcl, put, broker, present]
    rfl

theorem perform_createAcl (contents : Contents) (entry : Acl.Entry) :
    contents.perform (.createAcl entry) = ((.ok () : Except AdminFailure Unit),
      contents.put entry) := by
  show (_, Contents.mk (contents.broker.putAcl entry).acls
    (contents.broker.putAcl entry).topics) = _
  rw [broker_putAcl]
  rfl

theorem perform_deleteAcls (contents : Contents) (filter : Acl.Filter) :
    contents.perform (.deleteAcls filter) =
      (.ok (contents.acls.filter filter.selects), contents.remove filter) := rfl

theorem perform_listAcls (contents : Contents) (filter : Acl.Filter) :
    contents.perform (.listAcls filter) = (.ok (contents.acls.filter filter.selects), contents) :=
  rfl

theorem put_of_contains {contents : Contents} {entry : Acl.Entry}
    (present : contents.acls.contains entry = true) : contents.put entry = contents := by
  unfold put
  rw [if_pos present]

theorem contains_put (contents : Contents) (entry : Acl.Entry) :
    (contents.put entry).acls.contains entry = true := by
  unfold put
  split
  · assumption
  · simp

theorem put_put (contents : Contents) (entry : Acl.Entry) :
    (contents.put entry).put entry = contents.put entry :=
  put_of_contains (contains_put contents entry)

theorem remove_remove (contents : Contents) (filter : Acl.Filter) :
    (contents.remove filter).remove filter = contents.remove filter := by
  unfold remove
  simp

/-- A removal takes back what has been created after it, or leaves it there. -/
theorem remove_put_remove_cases (contents : Contents) (filter : Acl.Filter) (entry : Acl.Entry) :
    ((contents.remove filter).put entry).remove filter = contents.remove filter ∨
      ((contents.remove filter).put entry).remove filter = (contents.remove filter).put entry := by
  by_cases present : (contents.remove filter).acls.contains entry = true
  · rw [put_of_contains present, remove_remove]
    exact .inl rfl
  · by_cases selected : filter.selects entry = true
    · left
      unfold put
      rw [if_neg present]
      unfold remove
      simp [selected]
    · right
      unfold put
      rw [if_neg present]
      unfold remove
      simp [selected]

end Session.Contents

namespace Acl

/-! ## Brokers -/

/-- The brokers with an entry on a cluster. -/
def put (brokers : Brokers) (cluster : Cluster.Reference) (entry : Entry) : Brokers :=
  Function.update brokers cluster ((brokers cluster).put entry)

/-- The brokers without the entries on a cluster that the removal of an entry removes. -/
def removed (brokers : Brokers) (cluster : Cluster.Reference) (entry : Entry) : Brokers :=
  Function.update brokers cluster ((brokers cluster).remove (.forRemoval entry))

variable {brokers reached : Brokers} {cluster old : Cluster.Reference} {entry before : Entry}

theorem put_put (brokers : Brokers) (cluster : Cluster.Reference) (entry : Entry) :
    put (put brokers cluster entry) cluster entry = put brokers cluster entry := by
  unfold put
  rw [Function.update_self, Function.update_idem, Contents.put_put]

theorem removed_removed (brokers : Brokers) (cluster : Cluster.Reference) (entry : Entry) :
    removed (removed brokers cluster entry) cluster entry = removed brokers cluster entry := by
  unfold removed
  rw [Function.update_self, Function.update_idem, Contents.remove_remove]

/-- Removing an entry takes back the one that has replaced it, or leaves it there, be the two on the
same cluster or not. -/
theorem removed_put_removed_cases (brokers : Brokers) (cluster old : Cluster.Reference)
    (entry before : Entry) :
    removed (put (removed brokers old before) cluster entry) old before =
        removed brokers old before ∨
      removed (put (removed brokers old before) cluster entry) old before =
        put (removed brokers old before) cluster entry := by
  by_cases same : cluster = old
  · subst same
    unfold put removed
    simp only [Function.update_self, Function.update_idem]
    rcases Contents.remove_put_remove_cases (brokers cluster) (.forRemoval before) entry with
      taken | kept
    · rw [taken]
      exact .inl rfl
    · rw [kept]
      exact .inr rfl
  · right
    have elsewhere : removed (put (removed brokers old before) cluster entry) old before =
        put (removed (removed brokers old before) old before) cluster entry := by
      unfold put removed
      simp only [Function.update_self, Function.update_of_ne same,
        Function.update_of_ne (Ne.symm same)]
      rw [Function.update_comm same]
    rw [elsewhere, removed_removed]

/-- Replacing an entry has its effect once. -/
theorem put_removed_put_removed (brokers : Brokers) (cluster old : Cluster.Reference)
    (entry before : Entry) :
    put (removed (put (removed brokers old before) cluster entry) old before) cluster entry =
      put (removed brokers old before) cluster entry := by
  rcases removed_put_removed_cases brokers cluster old entry before with taken | kept
  · rw [taken]
  · rw [kept, put_put]

/-! ## Calls about entries -/

theorem exact_selects (entry : Entry) : (Filter.exact entry).selects entry = true := by
  simp [Filter.exact, Filter.selects, Filter.admits]

/-- An entry is listed exactly if it is there. -/
theorem contains_filter_exact (acls : List Entry) (entry : Entry) :
    List.contains (acls.filter (Filter.exact entry).selects) entry = acls.contains entry := by
  rw [Bool.eq_iff_iff, List.contains_iff_mem, List.contains_iff_mem, List.mem_filter,
    and_iff_left (exact_selects entry)]

theorem after_listAcls (brokers : Brokers) (cluster : Cluster.Reference) (filter : Filter) :
    after brokers cluster (.listAcls filter) = brokers :=
  Function.update_eq_self cluster brokers

theorem after_createAcl (brokers : Brokers) (cluster : Cluster.Reference) (entry : Entry) :
    after brokers cluster (.createAcl entry) = put brokers cluster entry := by
  unfold after put
  rw [Contents.perform_createAcl]

theorem put_of_contains (present : (brokers cluster).acls.contains entry = true) :
    put brokers cluster entry = brokers := by
  unfold put
  rw [Contents.put_of_contains present, Function.update_eq_self]

variable {replies : (request : Request) → request.Reply} {handle oldHandle : Handle}

/-- Ensuring an entry puts it on the cluster of the session. -/
theorem leaves_ensure (handle : Handle) (entry : Entry) (brokers : Brokers) :
    Flow.Leaves (brokerService replies) (ensure handle entry) brokers (.ok ())
      (put brokers handle.cluster entry) := by
  have listed : ((brokers handle.cluster).perform (.listAcls (.exact entry))).1 =
      .ok ((brokers handle.cluster).acls.filter (Filter.exact entry).selects) := rfl
  have created : ((brokers handle.cluster).perform (.createAcl entry)).1 =
      (.ok () : Except AdminFailure Unit) := by rw [Contents.perform_createAcl]
  unfold ensure
  refine Session.leaves_perform_bind listed ?_ (.inl (after_listAcls _ _ _))
  rw [contains_filter_exact, after_listAcls]
  by_cases present : (brokers handle.cluster).acls.contains entry = true
  · rw [if_pos present, put_of_contains present]
    exact Flow.leaves_ofOutcome _ _
  · rw [if_neg present, ← after_createAcl]
    exact Session.leaves_perform_bind created (Flow.leaves_ofOutcome _ _) (.inr rfl)

theorem fragile_ensure (handle : Handle) (entry : Entry) : (ensure handle entry).Fragile := by
  refine Session.fragile_perform_bind fun existing => ?_
  split
  · exact Flow.fragile_pure ()
  · exact Session.fragile_perform_bind fun _ => Flow.fragile_pure ()

/-- Removing an entry takes what it selects from the cluster of the session. -/
theorem leaves_remove (handle : Handle) (entry : Entry) (brokers : Brokers) :
    Flow.Leaves (brokerService replies) (remove handle entry) brokers (.ok ())
      (removed brokers handle.cluster entry) := by
  have taken : ((brokers handle.cluster).perform (.deleteAcls (.forRemoval entry))).1 =
      .ok ((brokers handle.cluster).acls.filter (Filter.forRemoval entry).selects) := rfl
  exact Session.leaves_perform_bind taken (Flow.leaves_ofOutcome _ _) (.inr rfl)

theorem fragile_remove (handle : Handle) (entry : Entry) : (remove handle entry).Fragile :=
  Session.fragile_perform_bind fun _ => Flow.fragile_pure ()

/-! ## Flows that recover -/

theorem recovers_ensure (handle : Handle) (entry : Entry) :
    (ensure handle entry).Recovers (brokerService replies) := by
  refine Flow.recovers_of_leaves fun brokers => ⟨_, _, leaves_ensure handle entry brokers, ?_⟩
  rw [(leaves_ensure handle entry _).serves, put_put]

theorem recovers_remove (handle : Handle) (entry : Entry) :
    (remove handle entry).Recovers (brokerService replies) := by
  refine Flow.recovers_of_leaves fun brokers => ⟨_, _, leaves_remove handle entry brokers, ?_⟩
  rw [(leaves_remove handle entry _).serves, removed_removed]

/-- Replacing an entry by another recovers from every loss on the way. -/
theorem recovers_replace (oldHandle handle : Handle) (before entry : Entry) :
    Flow.Recovers (brokerService replies)
      (remove oldHandle before >>= fun _ => ensure handle entry) := by
  have serves : ∀ brokers, Flow.serve (brokerService replies)
      (remove oldHandle before >>= fun _ => ensure handle entry) brokers =
        (.ok (), put (removed brokers oldHandle.cluster before) handle.cluster entry) := by
    intro brokers
    rw [Flow.serve_bind_ok (leaves_remove oldHandle before brokers).serves,
      (leaves_ensure handle entry _).serves]
  intro brokers reached passes
  have first : Flow.Leaves (brokerService replies) (remove oldHandle before) brokers (.ok ())
      (removed brokers oldHandle.cluster before) := leaves_remove oldHandle before brokers
  rw [serves, serves]
  rcases Flow.passes_bind passes with here | ⟨failure, failed⟩ | ⟨value, between, done, later⟩
  · rcases first.passes reached here with rfl | rfl
    · rfl
    · rw [removed_removed]
  · cases (Prod.mk.inj (first.serves.symm.trans failed)).1
  · obtain ⟨-, rfl⟩ := Prod.mk.inj (first.serves.symm.trans done)
    rcases (leaves_ensure handle entry _).passes reached later with rfl | rfl
    · rw [removed_removed]
    · rw [put_removed_put_removed]

/-! ## Answers that can be tried again -/

variable {opening : Opening} {event : Event} {id : String}

theorem resumable_ensure (handle : Handle) (entry : Entry) :
    Flow.Resumable (brokerService replies)
      (ensure handle entry >>= fun _ => pure (Answer.complete id (output entry)))
      (CompletesAs id) :=
  Flow.resumable_bind_pure (fragile_ensure handle entry) (recovers_ensure handle entry)
    fun _ => ⟨_, rfl⟩

theorem resumable_replace (oldHandle handle : Handle) (before entry : Entry) :
    Flow.Resumable (brokerService replies)
      (remove oldHandle before >>= fun _ => ensure handle entry >>= fun _ =>
        pure (Answer.complete id (output entry)))
      (CompletesAs id) := by
  rw [← Flow.bind_assoc]
  refine Flow.resumable_bind_pure ?_ (recovers_replace oldHandle handle before entry)
    fun _ => ⟨_, rfl⟩
  exact Flow.fragile_bind (fragile_remove oldHandle before) fun _ => fragile_ensure handle entry

theorem resumable_create :
    Flow.Resumable (brokerService replies) (create opening event id) (CompletesAs id) := by
  unfold create
  refine Flow.resumable_ofOutcome_bind fun declared _ => ?_
  refine Session.resumable_openSession_bind fun handle => ?_
  refine Flow.resumable_ofOutcome_bind fun entry _ => ?_
  exact resumable_ensure handle entry

/-- An update looks up what is known, opens sessions, and then replaces or ensures the entry. What
holds of every flow of that shape holds of an update. -/
theorem update_of_parts (holds : Flow Answer → Prop)
    (known : ∀ {α : Type} (outcome : Outcome α) (follow : α → Flow Answer),
      (∀ value, holds (follow value)) → holds (Flow.ofOutcome outcome >>= follow))
    (opens : ∀ (properties : Session.Properties) (follow : Handle → Flow Answer),
      (∀ handle, holds (follow handle)) →
        holds (Session.openSession opening properties >>= follow))
    (ensures : ∀ handle entry,
      holds (ensure handle entry >>= fun _ => pure (Answer.complete id (output entry))))
    (replaces : ∀ oldHandle handle before entry,
      holds (remove oldHandle before >>= fun _ => ensure handle entry >>= fun _ =>
        pure (Answer.complete id (output entry)))) :
    holds (update opening event id) := by
  unfold update
  refine known _ _ fun declared => known _ _ fun before => ?_
  refine opens _ _ fun handle => known _ _ fun entry => ?_
  cases before with
  | none => exact ensures handle entry
  | some old =>
      show holds (removeOld opening handle declared old entry >>= _)
      unfold removeOld
      by_cases same : (old.session.clusterArn == declared.session.clusterArn) = true
      · rw [if_pos same, Flow.bind_assoc]
        refine known _ _ fun oldEntry => ?_
        by_cases other : (oldEntry != entry) = true
        · rw [if_pos other]
          exact replaces handle handle oldEntry entry
        · rw [if_neg other]
          exact ensures handle entry
      · rw [if_neg same, Flow.bind_assoc]
        refine opens _ _ fun oldHandle => ?_
        rw [Flow.bind_assoc]
        exact known _ _ fun oldEntry => replaces oldHandle handle oldEntry entry

theorem resumable_update :
    Flow.Resumable (brokerService replies) (update opening event id) (CompletesAs id) := by
  refine update_of_parts
    (fun flow => Flow.Resumable (brokerService replies) flow (CompletesAs id)) ?_ ?_
    resumable_ensure resumable_replace
  · exact fun _ _ follows => Flow.resumable_ofOutcome_bind fun value _ => follows value
  · exact fun _ _ follows => Session.resumable_openSession_bind follows

theorem resumable_delete :
    Flow.Resumable (brokerService replies) (delete opening event id) (CompletesAs id) := by
  unfold delete
  cases declaration event with
  | error failure => exact Flow.resumable_pure ⟨_, rfl⟩
  | ok declared =>
      refine Session.resumable_openSession_bind fun handle => ?_
      refine Flow.resumable_ofOutcome_bind fun entry _ => ?_
      exact Flow.resumable_bind_pure (fragile_remove handle entry) (recovers_remove handle entry)
        fun _ => ⟨_, rfl⟩

/-- **An answer about an entry can be tried again after any loss.** -/
theorem resumable_respond (opening : Opening) (named : physicalId event = .ok id) :
    Flow.Resumable (brokerService replies) (respond opening event) (CompletesAs id) := by
  unfold respond
  rw [named, Flow.ofOutcome_ok_bind]
  cases event.request with
  | create => exact resumable_create
  | update => exact resumable_update
  | delete => exact resumable_delete

/-- The handling of entries is repeatable. -/
theorem repeatable (opening : Opening) (event : Event) :
    Engine.Repeatable (brokerService replies) (handler opening) event :=
  Engine.repeatable_repeating (fun _ => rfl) (fun _ named => Event.idOr_withId named) (fun _ => rfl)
    fun _ named => resumable_respond opening named

end Acl

end Provision
