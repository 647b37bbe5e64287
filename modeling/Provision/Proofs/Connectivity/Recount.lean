import Provision.Proofs.Connectivity.Completion

/-!
# Counting stale polls

The count of stale polls in a checkpoint is exact: of the descriptions since the latest accepted
submission, those that were counted are all the latest ones in a row that were active with the
submitted token (`Recounts`). Only past the threshold does the count stop, when a submission that
is due keeps failing. So the settings are due once more exactly when the threshold is reached by
the latest descriptions (`Recounts.due_iff`).
-/

set_option autoImplicit false

namespace Provision.Connectivity

open Engine (Run Standing)
open Lifecycle (Event ResourceKind)
open Time (Timestamp)

variable {threshold : Nat} {history log : List Exchange} {cluster : Cluster.Reference}
  {desired : Cluster.Settings} {description : Cluster.Description} {token : String}
  {checkpoint reached : Checkpoint} {outcome : Outcome Checkpoint} {target : Target}
  {standing : Standing}

/-! ## An exact count -/

/-- The only change that a step can have accepted is a submission. -/
theorem Taken.acceptedFor_of_acknowledged
    (taken : Taken threshold cluster desired checkpoint log outcome)
    (acknowledged : Acknowledged log) : ∃ token, AcceptedFor token log := by
  cases taken with
  | submitted description reply fresh active different =>
      cases reply with
      | error failure => exact absurd acknowledged (not_acknowledged_refused failure)
      | ok operation => exact ⟨_, (acceptedFor_submission operation).mpr rfl⟩
  | resubmitted description reply watching active same due =>
      cases reply with
      | error failure => exact absurd acknowledged (not_acknowledged_refused failure)
      | ok operation => exact ⟨_, (acceptedFor_submission operation).mpr rfl⟩
  | _ => exact absurd acknowledged (not_acknowledged_described _)

/-- A count below the threshold stays below it. -/
theorem Taken.stalePolls_lt (taken : Taken threshold cluster desired checkpoint log (.ok reached))
    (below : checkpoint.stalePolls < threshold) : reached.stalePolls < threshold := by
  have positive : 0 < threshold := Nat.zero_lt_of_lt below
  generalize whole : (.ok reached : Outcome Checkpoint) = outcome at taken
  cases taken with
  | undescribed failure => cases whole
  | lost description permanent => cases whole
  | waiting description fresh passing inactive => cases whole; exact below
  | desired description fresh active same => cases whole; exact below
  | submitted description reply fresh active different =>
      cases reply <;> cases whole
      exact positive
  | applying description watching passing inactive => cases whole; exact positive
  | effective description watching active moved => cases whole; exact below
  | stale description watching active same stays => cases whole; exact stays
  | resubmitted description reply watching active same due =>
      cases reply <;> cases whole
      exact positive

/-- An accepted submission leaves nothing described since. -/
theorem descriptions_since_submission (history : List Exchange) (operation : String) :
    descriptions (sinceAcknowledged (history ++ [described cluster (.ok description),
      submission cluster token desired (.ok operation)])) = [] := by
  rw [List.append_cons, sinceAcknowledged_concat rfl]
  rfl

/-- The checkpoint is right about the history, and its count is exact below the threshold. -/
structure Recounts (threshold : Nat) (history : List Exchange) (checkpoint : Checkpoint) : Prop
    extends Tracks history checkpoint where
  accepted : Acknowledged history → ∃ token, AcceptedFor token history
  below : 0 < threshold → checkpoint.stalePolls < threshold
  counted : threshold < Number.wordSize 32 → ∀ token count, count < threshold →
    checkpoint.submitted = true → checkpoint.submittedToken = some token →
      LatestAll count (ActiveWith token) (descriptions (sinceAcknowledged history)) →
        count ≤ checkpoint.stalePolls

namespace Recounts

theorem initial (threshold : Nat) (target : Target) :
    Recounts threshold [] (Checkpoint.initial target) where
  toTracks := .initial target
  accepted := fun acknowledged => absurd acknowledged not_acknowledged_nil
  below := fun positive => positive
  counted := by
    intro _ _ _ _ watching
    cases watching

theorem watching_of_accepted (recounts : Recounts threshold history checkpoint)
    (accepted : AcceptedFor token history) : checkpoint.submitted = true := by
  obtain ⟨cluster, desired, operation, member⟩ := accepted
  exact recounts.submitted.mpr ⟨_, member, rfl⟩

theorem fresh_of_none (recounts : Recounts threshold history checkpoint)
    (none : ∀ token, ¬ AcceptedFor token history) : checkpoint.submitted = false := by
  cases watching : checkpoint.submitted with
  | false => rfl
  | true =>
      obtain ⟨token, accepted⟩ := recounts.accepted (recounts.submitted.mp watching)
      exact absurd accepted (none token)

/-- After a submission has been accepted the checkpoint tells for which token. -/
theorem acceptedFor_iff (recounts : Recounts threshold history checkpoint)
    (watching : checkpoint.submitted = true) :
    AcceptedFor token history ↔ checkpoint.submittedToken = some token := by
  constructor
  · rintro ⟨cluster, desired, operation, member⟩
    exact recounts.token cluster token desired operation member
  · intro told
    obtain ⟨other, accepted⟩ := recounts.accepted (recounts.submitted.mp watching)
    have same : checkpoint.submittedToken = some other := by
      obtain ⟨cluster, desired, operation, member⟩ := accepted
      exact recounts.token cluster other desired operation member
    obtain rfl : other = token := Option.some.inj (same.symm.trans told)
    exact accepted

/-- One more stale poll is counted without starting again at zero. -/
theorem nextStale_eq (recounts : Recounts threshold history checkpoint) (positive : 0 < threshold)
    (fits : threshold < Number.wordSize 32) : checkpoint.nextStale = checkpoint.stalePolls + 1 :=
  Number.wrapped_of_lt (Nat.lt_of_le_of_lt (recounts.below positive) fits)

/-- With the description of one more stale poll, at most one more has to be counted. -/
theorem le_succ (recounts : Recounts threshold history checkpoint)
    (fits : threshold < Number.wordSize 32) {count : Nat} (short : count ≤ threshold)
    (watching : checkpoint.submitted = true) (told : checkpoint.submittedToken = some token)
    (latest : LatestAll count (ActiveWith token)
      (descriptions (sinceAcknowledged history) ++ [description])) :
    count ≤ checkpoint.stalePolls + 1 := by
  cases count with
  | zero => exact Nat.zero_le _
  | succ fewer =>
      have counted := recounts.counted fits token fewer (Nat.lt_of_succ_le short) watching told
        latest.of_concat.1
      exact Nat.succ_le_succ counted

/-- A step that goes on keeps the count exact. -/
theorem counted_step (recounts : Recounts threshold history checkpoint)
    (taken : Taken threshold cluster desired checkpoint log (.ok reached))
    (unstable : reached.phase ≠ .stable) (fits : threshold < Number.wordSize 32) (token : String)
    (count : Nat) (short : count < threshold) (flag : reached.submitted = true)
    (told : reached.submittedToken = some token)
    (latest : LatestAll count (ActiveWith token)
      (descriptions (sinceAcknowledged (history ++ log)))) : count ≤ reached.stalePolls := by
  generalize whole : (.ok reached : Outcome Checkpoint) = outcome at taken
  cases taken with
  | undescribed failure => cases whole
  | lost description permanent => cases whole
  | waiting description fresh passing inactive =>
      cases whole
      exact absurd (fresh.symm.trans flag) Bool.false_ne_true
  | desired description fresh active same =>
      cases whole
      exact absurd rfl unstable
  | submitted description reply fresh active different =>
      cases reply <;> cases whole
      rw [descriptions_since_submission] at latest
      exact latest.le_length
  | applying description watching passing inactive =>
      cases whole
      rw [sinceAcknowledged_append (not_acknowledged_described _), descriptions_append] at latest
      cases count with
      | zero => exact Nat.zero_le _
      | succ fewer => exact absurd (inactive.symm.trans latest.of_concat.2.1) Bool.false_ne_true
  | effective description watching active moved =>
      cases whole
      exact absurd rfl unstable
  | stale description watching active same stays =>
      cases whole
      rw [sinceAcknowledged_append (not_acknowledged_described _), descriptions_append] at latest
      have counted := recounts.le_succ fits short.le watching told latest
      have next := recounts.nextStale_eq (Nat.zero_lt_of_lt short) fits
      exact counted.trans_eq next.symm
  | resubmitted description reply watching active same due =>
      cases reply <;> cases whole
      rw [descriptions_since_submission] at latest
      exact latest.le_length

theorem accepted_append (recounts : Recounts threshold history checkpoint)
    (taken : Taken threshold cluster desired checkpoint log outcome)
    (acknowledged : Acknowledged (history ++ log)) :
    ∃ token, AcceptedFor token (history ++ log) := by
  rcases acknowledged_append.mp acknowledged with earlier | now
  · obtain ⟨token, accepted⟩ := recounts.accepted earlier
    exact ⟨token, acceptedFor_append.mpr (.inl accepted)⟩
  · obtain ⟨token, accepted⟩ := taken.acceptedFor_of_acknowledged now
    exact ⟨token, acceptedFor_append.mpr (.inr accepted)⟩

theorem step (recounts : Recounts threshold history checkpoint)
    (taken : Taken threshold cluster desired checkpoint log (.ok reached))
    (unstable : reached.phase ≠ .stable) : Recounts threshold (history ++ log) reached where
  toTracks := recounts.toTracks.step taken unstable
  accepted := recounts.accepted_append taken
  below := fun positive => taken.stalePolls_lt (recounts.below positive)
  counted := recounts.counted_step taken unstable

/-- A step that fails for the time being had nothing to count, or was due to submit. -/
theorem counted_keep {failure : Failure} (recounts : Recounts threshold history checkpoint)
    (taken : Taken threshold cluster desired checkpoint log (.error failure))
    (transient : failure.isTransient = true) (fits : threshold < Number.wordSize 32)
    (token : String) (count : Nat) (short : count < threshold)
    (watching : checkpoint.submitted = true) (told : checkpoint.submittedToken = some token)
    (latest : LatestAll count (ActiveWith token)
      (descriptions (sinceAcknowledged (history ++ log)))) : count ≤ checkpoint.stalePolls := by
  generalize whole : (.error failure : Outcome Checkpoint) = outcome at taken
  cases taken with
  | undescribed failure =>
      rw [sinceAcknowledged_append (not_acknowledged_described _), descriptions_append] at latest
      have unchanged : descriptions [described cluster (.error failure)] = [] := rfl
      rw [unchanged, List.append_nil] at latest
      exact recounts.counted fits token count short watching told latest
  | lost description permanent =>
      cases whole
      cases transient
  | submitted description reply fresh active different =>
      exact absurd (fresh.symm.trans watching) Bool.false_ne_true
  | resubmitted description reply stays active same due =>
      have reached : threshold ≤ checkpoint.stalePolls + 1 := due.trans (Nat.mod_le _ _)
      exact Nat.le_of_lt_succ (Nat.lt_of_lt_of_le short reached)
  | _ => cases whole

theorem keep {failure : Failure} (recounts : Recounts threshold history checkpoint)
    (taken : Taken threshold cluster desired checkpoint log (.error failure))
    (transient : failure.isTransient = true) : Recounts threshold (history ++ log) checkpoint where
  toTracks := recounts.toTracks.keep taken transient
  accepted := recounts.accepted_append taken
  below := recounts.below
  counted := recounts.counted_keep taken transient

/-- The settings are due once more when the latest descriptions were all stale polls. -/
theorem due_iff (recounts : Recounts threshold history checkpoint)
    (fits : threshold < Number.wordSize 32) (watching : checkpoint.submitted = true)
    (active : description.state.isActive = true)
    (same : checkpoint.submittedToken = some description.versionToken) :
    threshold ≤ checkpoint.nextStale ↔
      LatestAll threshold (ActiveWith description.versionToken)
        (descriptions (sinceAcknowledged history) ++ [description]) := by
  constructor
  · intro due
    exact (recounts.latest_succ watching active same).of_le (due.trans (Nat.mod_le _ _))
  · intro latest
    cases threshold with
    | zero => exact Nat.zero_le _
    | succ fewer =>
        rw [recounts.nextStale_eq (Nat.succ_pos fewer) fits]
        exact recounts.le_succ fits (Nat.le_refl _) watching same latest

end Recounts

/-! ## Runs -/

variable {settings : Settings.Engine} {event : Event} {startedAt : Timestamp}

/-- As long as a run goes on, the checkpoint it carries counts exactly. -/
theorem run_recounts {logs : List (List Exchange)}
    (kind : ResourceKind.ofName event.resourceType = .ok .connectivityUpdate)
    (changes : event.request ≠ .delete) (declared : declaredTarget event = .ok target)
    (run : Run settings event startedAt logs standing) (isOpen : standing.isOpen = true) :
    ∃ checkpoint, Carries target standing checkpoint ∧
      Recounts settings.connectivity.afterStalePolls logs.flatten checkpoint := by
  obtain ⟨cluster, referred⟩ := reference_of_declaredTarget declared
  refine run_invariant kind changes declared referred (Recounts.initial _ target) ?_ ?_ run isOpen
  · intro history checkpoint log reached recounts taken unstable
    exact recounts.step taken unstable
  · intro history checkpoint log failure recounts taken transient
    exact recounts.keep taken transient

end Provision.Connectivity
