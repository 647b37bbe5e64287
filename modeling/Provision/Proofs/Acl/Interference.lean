import Provision.Proofs.Acl.Recovery
import Provision.Proofs.Session.Interference

/-!
# Entries that are provisioned side by side

An answer about an entry passes few states: the brokers with the entry, or without the old one, or
with the new one in the place of the old one. The same answer given elsewhere moves the brokers only
between these, and from each of them an answer that is under way gets to the same last state.
Answers to one event therefore do not disturb each other (`undisturbed_respond`), although an update
may take away what another one has just created.
-/

set_option autoImplicit false

namespace Provision.Acl

open Dialogue (AdminCall Request)
open Lifecycle (Answer Event)
open Session (AdminFailure Brokers Contents Handle Opening after brokerService)

variable {replies : (request : Request) → request.Reply} {handle oldHandle : Handle}
  {entry before : Entry} {brokers left : Brokers} {passing : Brokers → Prop}

/-! ## Calls -/

/-- Ensuring an entry withstands others if putting the entry always leads to the same brokers. -/
theorem withstands_ensure (reached : passing left)
    (leads : ∀ found, Moves passing brokers found → put found handle.cluster entry = left) :
    Flow.Withstands (brokerService replies) passing
      (fun outcome after => outcome = .ok () ∧ after = left) (ensure handle entry) brokers := by
  unfold ensure
  refine Session.withstands_perform_bind
    (fun found => (found handle.cluster).acls.filter (Filter.exact entry).selects)
    (fun _ _ => congrArg Prod.fst (Contents.perform_listAcls _ _)) fun found moved => ?_
  rw [after_listAcls, contains_filter_exact]
  refine ⟨.refl _ _, ?_⟩
  by_cases present : (found handle.cluster).acls.contains entry = true
  · rw [if_pos present]
    exact ⟨rfl, (put_of_contains present).symm.trans (leads found moved)⟩
  · rw [if_neg present]
    have created : ∀ later : Brokers, ((later handle.cluster).perform (.createAcl entry)).1 =
        (.ok () : Except AdminFailure Unit) := by
      intro later
      rw [Contents.perform_createAcl]
    -- Another may have created the entry since it was looked for; putting it again does no harm.
    refine Session.withstands_perform_bind (fun _ => ()) (fun later _ => created later)
      fun later more => ?_
    rw [after_createAcl, leads later (moved.trans more)]
    exact ⟨.inr reached, rfl, rfl⟩

theorem withstands_remove
    (leads : ∀ found, Moves passing brokers found → passing (removed found handle.cluster entry)) :
    Flow.Withstands (brokerService replies) passing
      (fun outcome after => outcome = .ok () ∧ passing after) (remove handle entry) brokers := by
  refine Session.withstands_perform_bind
    (fun found => (found handle.cluster).acls.filter (Filter.forRemoval entry).selects)
    (fun _ _ => congrArg Prod.fst (Contents.perform_deleteAcls _ _)) fun found moved => ?_
  have reached : passing (after found handle.cluster (.deleteAcls (.forRemoval entry))) :=
    leads found moved
  exact ⟨.inr reached, rfl, reached⟩

/-! ## Creation, removal and replacement -/

theorem undisturbed_ensure (handle : Handle) (entry : Entry) (brokers : Brokers) :
    Flow.Undisturbed (brokerService replies) (ensure handle entry) brokers := by
  refine ⟨(· = put brokers handle.cluster entry), .ok (), put brokers handle.cluster entry,
    fun found moved => withstands_ensure rfl fun later more => ?_⟩
  rcases moved.trans more with rfl | rfl
  · rfl
  · exact put_put brokers handle.cluster entry

theorem undisturbed_remove (handle : Handle) (entry : Entry) (brokers : Brokers) :
    Flow.Undisturbed (brokerService replies) (remove handle entry) brokers := by
  refine ⟨(· = removed brokers handle.cluster entry), .ok (), removed brokers handle.cluster entry,
    fun found moved => withstands_remove fun later more => ?_⟩
  rcases moved.trans more with rfl | rfl
  · rfl
  · exact removed_removed brokers handle.cluster entry

/-- A replacement leads from brokers without the old entry, or with the new one in its place, to the
latter: a removal may take the new entry back, but every replacement ensures it after its
removal. -/
theorem undisturbed_replace (oldHandle handle : Handle) (before entry : Entry)
    (brokers : Brokers) :
    Flow.Undisturbed (brokerService replies)
      (remove oldHandle before >>= fun _ => ensure handle entry) brokers := by
  generalize without : removed brokers oldHandle.cluster before = emptied
  generalize replaced : put emptied handle.cluster entry = filled
  have again : removed emptied oldHandle.cluster before = emptied := by
    rw [← without, removed_removed]
  have back : removed filled oldHandle.cluster before = emptied ∨
      removed filled oldHandle.cluster before = filled := by
    rw [← replaced, ← without]
    exact removed_put_removed_cases brokers handle.cluster oldHandle.cluster entry before
  refine ⟨fun reached => reached = emptied ∨ reached = filled, .ok (), filled,
    fun found moved => ?_⟩
  refine Flow.withstands_bind (withstands_remove fun later more => ?_) ?_ ?_
  · rcases moved.trans more with rfl | rfl | rfl
    · exact .inl without
    · exact .inl again
    · exact back
  · rintro failure later ⟨absurd, -⟩
    cases absurd
  · rintro value later ⟨-, here⟩
    refine withstands_ensure (.inr rfl) fun last more => ?_
    have among : last = emptied ∨ last = filled := by
      rcases more with rfl | reached
      · exact here
      · exact reached
    rcases among with rfl | rfl
    · exact replaced
    · rw [← replaced, put_put]

/-! ## Answers -/

variable {opening : Opening} {event : Event} {id : String}

theorem undisturbed_create :
    Flow.Undisturbed (brokerService replies) (create opening event id) brokers := by
  unfold create
  refine Flow.undisturbed_bind_of_unaffected (Flow.unaffected_ofOutcome _) fun declared _ => ?_
  refine Session.undisturbed_openSession_bind fun handle => ?_
  refine Flow.undisturbed_bind_of_unaffected (Flow.unaffected_ofOutcome _) fun entry _ => ?_
  exact Flow.undisturbed_bind_pure (undisturbed_ensure handle entry brokers)

theorem undisturbed_update :
    Flow.Undisturbed (brokerService replies) (update opening event id) brokers := by
  refine update_of_parts (fun flow => Flow.Undisturbed (brokerService replies) flow brokers) ?_ ?_
    ?_ ?_
  · intro α outcome follow follows
    exact Flow.undisturbed_bind_of_unaffected (Flow.unaffected_ofOutcome outcome) fun value _ =>
      follows value
  · exact fun _ _ follows => Session.undisturbed_openSession_bind follows
  · exact fun handle entry => Flow.undisturbed_bind_pure (undisturbed_ensure handle entry brokers)
  · intro oldHandle handle before entry
    rw [← Flow.bind_assoc]
    exact Flow.undisturbed_bind_pure (undisturbed_replace oldHandle handle before entry brokers)

theorem undisturbed_delete :
    Flow.Undisturbed (brokerService replies) (delete opening event id) brokers := by
  unfold delete
  cases declaration event with
  | error failure => exact Flow.undisturbed_of_unaffected (Flow.unaffected_ofOutcome (.ok _))
  | ok declared =>
      refine Session.undisturbed_openSession_bind fun handle => ?_
      refine Flow.undisturbed_bind_of_unaffected (Flow.unaffected_ofOutcome _) fun entry _ => ?_
      exact Flow.undisturbed_bind_pure (undisturbed_remove handle entry brokers)

/-- **Answers to one event about an entry do not disturb each other.** -/
theorem undisturbed_respond (opening : Opening) (event : Event) (brokers : Brokers) :
    Flow.Undisturbed (brokerService replies) (respond opening event) brokers := by
  unfold respond
  refine Flow.undisturbed_bind_of_unaffected (Flow.unaffected_ofOutcome _) fun id _ => ?_
  cases event.request with
  | create => exact undisturbed_create
  | update => exact undisturbed_update
  | delete => exact undisturbed_delete

end Provision.Acl
