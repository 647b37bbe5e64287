import Provision.Proofs.Connectivity.Submission

/-!
# What the checkpoints of a connectivity change record

Between two attempts nothing is remembered but the checkpoint. It records of the history whether a
submission has been accepted and for which token, its phase says the same, and its count of stale
polls never reaches the threshold (`Records`). Every step that goes on leaves such a checkpoint, so
that each attempt of a run starts from one (`run_records`).
-/

set_option autoImplicit false

namespace Provision.Connectivity

open Engine (Run Standing attempt)
open Lifecycle (Event ResourceKind)
open Time (Timestamp)

/-! ## Accepted submissions -/

/-- The control plane has done what it was asked. -/
def fulfilled : Exchange → Bool
  | ⟨.describeCluster _, some (.ok _)⟩ => true
  | ⟨.updateConnectivity _ _ _, some (.ok _)⟩ => true
  | _ => false

/-- A submission for the token has been accepted. -/
def AcceptedFor (token : String) (history : List Exchange) : Prop :=
  ∃ cluster desired operation, submission cluster token desired (.ok operation) ∈ history

variable {history : List Exchange} {cluster : Cluster.Reference} {token : String}
  {desired : Cluster.Settings} {description : Cluster.Description}

theorem acceptedFor_append {new : List Exchange} :
    AcceptedFor token (history ++ new) ↔ AcceptedFor token history ∨ AcceptedFor token new := by
  unfold AcceptedFor
  simp only [List.mem_append, exists_or]

theorem not_acceptedFor_of_quiet {new : List Exchange} (quiet : ¬ Acknowledged new) :
    ¬ AcceptedFor token new := by
  rintro ⟨cluster, desired, operation, member⟩
  exact quiet ⟨_, member, rfl⟩

theorem acceptedFor_append_of_quiet {new : List Exchange} (quiet : ¬ Acknowledged new) :
    AcceptedFor token (history ++ new) ↔ AcceptedFor token history := by
  rw [acceptedFor_append, or_iff_left (not_acceptedFor_of_quiet quiet)]

theorem acceptedFor_submission {other : String} (operation : String) :
    AcceptedFor other [described cluster (.ok description),
      submission cluster token desired (.ok operation)] ↔ other = token := by
  constructor
  · rintro ⟨cluster, desired, operation, member⟩
    rcases List.mem_pair.mp member with absurd | here
    · cases absurd
    · cases here
      rfl
  · rintro rfl
    exact ⟨_, _, _, List.mem_pair.mpr (.inr rfl)⟩

/-! ## What a checkpoint records -/

/-- The checkpoint tells what has been accepted, and counts fewer stale polls than the threshold. -/
structure Records (threshold : Nat) (history : List Exchange) (checkpoint : Checkpoint) : Prop where
  fresh : (∀ token, ¬ AcceptedFor token history) →
    checkpoint.phase = .checking ∧ checkpoint.submitted = false ∧
      checkpoint.submittedToken = none ∧ checkpoint.stalePolls = 0
  watching : ∀ token, AcceptedFor token history →
    checkpoint.phase = .updateInProgress ∧ checkpoint.submitted = true ∧
      checkpoint.submittedToken = some token ∧ checkpoint.stalePolls < threshold

namespace Records

variable {threshold : Nat} {checkpoint reached : Checkpoint} {log : List Exchange}

theorem initial (threshold : Nat) (target : Target) :
    Records threshold [] (Checkpoint.initial target) where
  fresh := fun _ => ⟨rfl, rfl, rfl, rfl⟩
  watching := fun _ ⟨_, _, _, member⟩ => nomatch member

/-- Before a submission the checkpoint says so. -/
theorem none_accepted (records : Records threshold history checkpoint)
    (fresh : checkpoint.submitted = false) (token : String) : ¬ AcceptedFor token history := by
  intro accepted
  exact Bool.false_ne_true (fresh.symm.trans (records.watching token accepted).2.1)

/-- After a submission the checkpoint says for which token. -/
theorem exists_accepted (records : Records threshold history checkpoint)
    (watching : checkpoint.submitted = true) :
    ∃ token, AcceptedFor token history ∧ checkpoint.submittedToken = some token := by
  by_cases accepted : ∃ token, AcceptedFor token history
  · obtain ⟨token, accepted⟩ := accepted
    exact ⟨token, accepted, (records.watching token accepted).2.2.1⟩
  · have fresh := (records.fresh (not_exists.mp accepted)).2.1
    exact absurd (fresh.symm.trans watching) Bool.false_ne_true

/-- The count stays below the threshold. -/
theorem stalePolls_lt (records : Records threshold history checkpoint) (positive : 0 < threshold) :
    checkpoint.stalePolls < threshold := by
  by_cases accepted : ∃ token, AcceptedFor token history
  · obtain ⟨token, accepted⟩ := accepted
    exact (records.watching token accepted).2.2.2
  · rw [(records.fresh (not_exists.mp accepted)).2.2.2]
    exact positive

/-- A threshold that fits its word keeps the count from starting again at zero. -/
theorem nextStale_eq (records : Records threshold history checkpoint) (positive : 0 < threshold)
    (fits : threshold < Number.wordSize 32) : checkpoint.nextStale = checkpoint.stalePolls + 1 :=
  Number.wrapped_of_lt (Nat.lt_of_le_of_lt (records.stalePolls_lt positive) fits)

/-- What is exchanged without being accepted leaves the checkpoint right. -/
theorem append_quiet {new : List Exchange} (records : Records threshold history checkpoint)
    (quiet : ¬ Acknowledged new) : Records threshold (history ++ new) checkpoint where
  fresh := by
    intro none
    exact records.fresh fun token accepted =>
      none token ((acceptedFor_append_of_quiet quiet).mpr accepted)
  watching := by
    intro token accepted
    exact records.watching token ((acceptedFor_append_of_quiet quiet).mp accepted)

/-- Waiting before a submission leaves the checkpoint as fresh as it was. -/
theorem waits_fresh (records : Records threshold history checkpoint)
    (fresh : checkpoint.submitted = false) (description : Cluster.Description) :
    Records threshold history (checkpoint.waits description .checking checkpoint.stalePolls) where
  fresh := by
    intro none
    obtain ⟨-, flag, untold, unpolled⟩ := records.fresh none
    exact ⟨rfl, flag, untold, unpolled⟩
  watching := fun token accepted => absurd accepted (records.none_accepted fresh token)

/-- Waiting after a submission keeps its token, with a count below the threshold. -/
theorem waits_watching (records : Records threshold history checkpoint)
    (watching : checkpoint.submitted = true) (description : Cluster.Description) {count : Nat}
    (below : count < threshold) :
    Records threshold history (checkpoint.waits description .updateInProgress count) where
  fresh := by
    intro none
    obtain ⟨token, accepted, -⟩ := records.exists_accepted watching
    exact absurd accepted (none token)
  watching := by
    intro token accepted
    exact ⟨rfl, watching, (records.watching token accepted).2.2.1, below⟩

/-- After a submission has been accepted there is one token, and no polls have been counted. -/
theorem append_accepted {operation : String} (positive : 0 < threshold)
    (same : ∀ other, AcceptedFor other history → other = token)
    (phase : reached.phase = .updateInProgress) (flag : reached.submitted = true)
    (now : reached.submittedToken = some token) (none : reached.stalePolls = 0) :
    Records threshold (history ++ [described cluster (.ok description),
      submission cluster token desired (.ok operation)]) reached where
  fresh := by
    intro nothing
    refine absurd ?_ (nothing token)
    exact acceptedFor_append.mpr (.inr ((acceptedFor_submission operation).mpr rfl))
  watching := by
    intro other accepted
    have here : other = token := by
      rcases acceptedFor_append.mp accepted with earlier | last
      · exact same other earlier
      · exact (acceptedFor_submission operation).mp last
    rw [here]
    exact ⟨phase, flag, now, none ▸ positive⟩

/-- A step that goes on leaves a checkpoint that records the longer history. -/
theorem step (records : Records threshold history checkpoint) (positive : 0 < threshold)
    (taken : Taken threshold cluster desired checkpoint log (.ok reached))
    (unstable : reached.phase ≠ .stable) : Records threshold (history ++ log) reached := by
  generalize whole : (.ok reached : Outcome Checkpoint) = outcome at taken
  cases taken with
  | undescribed failure => cases whole
  | lost description permanent => cases whole
  | waiting description fresh passing inactive =>
      cases whole
      exact (records.waits_fresh fresh description).append_quiet (not_acknowledged_described _)
  | desired description fresh active same =>
      cases whole
      exact absurd rfl unstable
  | submitted description reply fresh active different =>
      cases reply with
      | error failure => cases whole
      | ok operation =>
          cases whole
          refine append_accepted positive ?_ rfl rfl rfl rfl
          intro other accepted
          exact absurd accepted (records.none_accepted fresh other)
  | applying description watching passing inactive =>
      cases whole
      exact (records.waits_watching watching description positive).append_quiet
        (not_acknowledged_described _)
  | effective description watching active moved =>
      cases whole
      exact absurd rfl unstable
  | stale description watching active same below =>
      cases whole
      exact (records.waits_watching watching description below).append_quiet
        (not_acknowledged_described _)
  | resubmitted description reply watching active same due =>
      cases reply with
      | error failure => cases whole
      | ok operation =>
          cases whole
          refine append_accepted positive ?_ rfl watching same rfl
          intro other accepted
          have told := (records.watching other accepted).2.2.1
          exact Option.some.inj (told.symm.trans same)

/-- A step that fails has had nothing accepted. -/
theorem keep {failure : Failure} (records : Records threshold history checkpoint)
    (taken : Taken threshold cluster desired checkpoint log (.error failure)) :
    Records threshold (history ++ log) checkpoint := by
  refine records.append_quiet ?_
  generalize whole : (.error failure : Outcome Checkpoint) = outcome at taken
  cases taken with
  | undescribed failure => exact not_acknowledged_described _
  | lost description permanent => exact not_acknowledged_described _
  | submitted description reply fresh active different =>
      cases reply with
      | ok operation => cases whole
      | error failure => exact not_acknowledged_refused failure
  | resubmitted description reply watching active same due =>
      cases reply with
      | ok operation => cases whole
      | error failure => exact not_acknowledged_refused failure
  | _ => cases whole

end Records

/-! ## What a step shows -/

variable {threshold : Nat} {checkpoint reached : Checkpoint} {log : List Exchange}
  {outcome : Outcome Checkpoint} {target : Target} {standing : Standing}

/-- A step that succeeds has described the cluster, and remembers the token. -/
theorem Taken.observed (taken : Taken threshold cluster desired checkpoint log (.ok reached)) :
    ∃ description, described cluster (.ok description) ∈ log ∧
      reached.observedToken = some description.versionToken := by
  generalize whole : (.ok reached : Outcome Checkpoint) = outcome at taken
  cases taken with
  | undescribed failure => cases whole
  | lost description permanent => cases whole
  | submitted description reply fresh active different =>
      cases reply <;> cases whole
      exact ⟨description, List.mem_cons_self, rfl⟩
  | resubmitted description reply watching active same due =>
      cases reply <;> cases whole
      exact ⟨description, List.mem_cons_self, rfl⟩
  | _ =>
      cases whole
      exact ⟨_, List.mem_cons_self, rfl⟩

/-- A step that fails for the time being has not had everything it asked for. -/
theorem Taken.unfulfilled {failure : Failure}
    (taken : Taken threshold cluster desired checkpoint log (.error failure))
    (transient : failure.isTransient = true) : ∃ exchange ∈ log, fulfilled exchange = false := by
  generalize whole : (.error failure : Outcome Checkpoint) = outcome at taken
  cases taken with
  | undescribed failure => exact ⟨_, List.mem_cons_self, rfl⟩
  | lost description permanent =>
      cases whole
      cases transient
  | submitted description reply fresh active different =>
      cases reply <;> cases whole
      exact ⟨_, List.mem_pair.mpr (.inr rfl), rfl⟩
  | resubmitted description reply watching active same due =>
      cases reply <;> cases whole
      exact ⟨_, List.mem_pair.mpr (.inr rfl), rfl⟩
  | _ => cases whole

/-! ## Runs -/

variable {settings : Settings.Engine} {event : Event} {startedAt : Timestamp}

/-- As long as a run goes on, the checkpoint it carries records its history. -/
theorem run_records {logs : List (List Exchange)}
    (kind : ResourceKind.ofName event.resourceType = .ok .connectivityUpdate)
    (changes : event.request ≠ .delete) (declared : declaredTarget event = .ok target)
    (positive : 0 < settings.connectivity.afterStalePolls)
    (run : Run settings event startedAt logs standing) (isOpen : standing.isOpen = true) :
    ∃ checkpoint, Carries target standing checkpoint ∧
      Records settings.connectivity.afterStalePolls logs.flatten checkpoint := by
  obtain ⟨cluster, referred⟩ := reference_of_declaredTarget declared
  refine run_invariant kind changes declared referred (Records.initial _ target) ?_ ?_ run isOpen
  · intro history checkpoint log reached records taken unstable
    exact records.step positive taken unstable
  · intro history checkpoint log failure records taken _
    exact records.keep taken

end Provision.Connectivity
