import Provision.Connectivity.Lifecycle
import Provision.Proofs.Dialogue.Transcript
import Provision.Proofs.Json.RoundTrip

/-!
# Steps of a connectivity change

A step describes the cluster, and what it does next depends on the description and on the
checkpoint it started from. `Taken` lists everything that a step can do, with the exchanges it
makes, the checkpoint it reaches and the conditions for it; `step_taken` says that the list is
complete.

Checkpoints are read back from the properties that they are written as, as long as the count of
stale polls fits its word (`Checkpoint.ofProperties_toProperties`), and every step keeps it so
(`Taken.fits`).
-/

set_option autoImplicit false

namespace Provision.Connectivity

open Json (Codec Field Record)

/-! ## Reading checkpoints back -/

theorem Phase.codec_keeps (phase : Phase) : Phase.codec.Keeps phase := by
  cases phase <;> rfl

namespace Checkpoint

/-- The count of stale polls fits its word. -/
def Fits (checkpoint : Checkpoint) : Prop :=
  checkpoint.stalePolls < Number.wordSize 32

theorem initial_fits (target : Target) : (initial target).Fits := Number.wordSize_pos 32

theorem record_keeps {checkpoint : Checkpoint} (fits : checkpoint.Fits) :
    record.Keeps checkpoint checkpoint :=
  ((((Record.Keeps.map Checkpoint.mk (Record.keeps_required (Phase.codec_keeps _))).seq
    (Record.keeps_optional fun token _ => Codec.keeps_nullable_text (some token))).seq
    (Record.keeps_optional fun token _ => Codec.keeps_nullable_text (some token))).seq
    (Record.keeps_defaulted (Codec.keeps_flag _))).seq
    (Record.keeps_defaulted (Codec.keeps_unsigned fits))

theorem record_unambiguous : Field.Unambiguous record.fields := by
  decide

theorem toProperties_isEmpty (checkpoint : Checkpoint) :
    checkpoint.toProperties.isEmpty = false := rfl

/-- **A checkpoint is read back from its properties**, whatever the target. -/
theorem ofProperties_toProperties {checkpoint : Checkpoint} (fits : checkpoint.Fits)
    (target : Target) : ofProperties checkpoint.toProperties target = .ok checkpoint := by
  have read : codec.decode (.object checkpoint.toProperties) = .ok checkpoint :=
    Record.ofMembers_members record_unambiguous (record_keeps fits)
  unfold ofProperties
  rw [toProperties_isEmpty, read]
  rfl

end Checkpoint

/-! ## What a step can do -/

/-- The cluster is described. -/
abbrev described (cluster : Cluster.Reference) (reply : Outcome Cluster.Description) : Exchange :=
  ⟨.describeCluster cluster, some reply⟩

/-- The settings are submitted for a version token. -/
abbrev submission (cluster : Cluster.Reference) (token : String) (desired : Cluster.Settings)
    (reply : Outcome String) : Exchange :=
  ⟨.updateConnectivity cluster token desired, some reply⟩

namespace Checkpoint

/-- The checkpoint after a description. -/
def sees (checkpoint : Checkpoint) (description : Cluster.Description) : Checkpoint :=
  { checkpoint with observedToken := some description.versionToken }

/-- The checkpoint after a submission has been acknowledged. -/
def submits (checkpoint : Checkpoint) (description : Cluster.Description) : Checkpoint :=
  { checkpoint.sees description with
    phase := .updateInProgress
    submittedToken := some description.versionToken
    submitted := true
    stalePolls := 0 }

/-- The checkpoint after a description that leaves the phase with a count of stale polls. -/
def waits (checkpoint : Checkpoint) (description : Cluster.Description) (phase : Phase)
    (stalePolls : Nat) : Checkpoint :=
  { checkpoint.sees description with phase, stalePolls }

/-- The count of stale polls with one more. -/
def nextStale (checkpoint : Checkpoint) : Nat :=
  Number.wrapped 32 (checkpoint.stalePolls + 1)

end Checkpoint

/-- What a step from a checkpoint can exchange and come to. -/
inductive Taken (threshold : Nat) (cluster : Cluster.Reference) (desired : Cluster.Settings)
    (checkpoint : Checkpoint) : List Exchange → Outcome Checkpoint → Prop where
  | undescribed (failure : Failure) :
      Taken threshold cluster desired checkpoint [described cluster (.error failure)]
        (.error failure)
  | lost (description : Cluster.Description)
      (permanent : description.state.isPermanentFailure = true) :
      Taken threshold cluster desired checkpoint [described cluster (.ok description)]
        (.error (clusterFailed cluster description.state))
  | waiting (description : Cluster.Description) (fresh : checkpoint.submitted = false)
      (passing : description.state.isPermanentFailure = false)
      (inactive : description.state.isActive = false) :
      Taken threshold cluster desired checkpoint [described cluster (.ok description)]
        (.ok (checkpoint.waits description .checking checkpoint.stalePolls))
  | desired (description : Cluster.Description) (fresh : checkpoint.submitted = false)
      (active : description.state.isActive = true)
      (same : description.connectivity = some desired) :
      Taken threshold cluster desired checkpoint [described cluster (.ok description)]
        (.ok (checkpoint.waits description .stable checkpoint.stalePolls))
  | submitted (description : Cluster.Description) (reply : Outcome String)
      (fresh : checkpoint.submitted = false) (active : description.state.isActive = true)
      (different : description.connectivity ≠ some desired) :
      Taken threshold cluster desired checkpoint
        [described cluster (.ok description),
          submission cluster description.versionToken desired reply]
        ((fun _ => checkpoint.submits description) <$> reply)
  | applying (description : Cluster.Description) (watching : checkpoint.submitted = true)
      (passing : description.state.isPermanentFailure = false)
      (inactive : description.state.isActive = false) :
      Taken threshold cluster desired checkpoint [described cluster (.ok description)]
        (.ok (checkpoint.waits description .updateInProgress 0))
  | effective (description : Cluster.Description) (watching : checkpoint.submitted = true)
      (active : description.state.isActive = true)
      (moved : checkpoint.submittedToken ≠ some description.versionToken) :
      Taken threshold cluster desired checkpoint [described cluster (.ok description)]
        (.ok (checkpoint.waits description .stable checkpoint.stalePolls))
  | stale (description : Cluster.Description) (watching : checkpoint.submitted = true)
      (active : description.state.isActive = true)
      (same : checkpoint.submittedToken = some description.versionToken)
      (below : checkpoint.nextStale < threshold) :
      Taken threshold cluster desired checkpoint [described cluster (.ok description)]
        (.ok (checkpoint.waits description .updateInProgress checkpoint.nextStale))
  | resubmitted (description : Cluster.Description) (reply : Outcome String)
      (watching : checkpoint.submitted = true) (active : description.state.isActive = true)
      (same : checkpoint.submittedToken = some description.versionToken)
      (reached : threshold ≤ checkpoint.nextStale) :
      Taken threshold cluster desired checkpoint
        [described cluster (.ok description),
          submission cluster description.versionToken desired reply]
        ((fun _ => checkpoint.waits description .updateInProgress 0) <$> reply)

variable {threshold : Nat} {target : Target} {cluster : Cluster.Reference}
  {desired : Cluster.Settings} {checkpoint : Checkpoint} {log : List Exchange}
  {outcome : Outcome Checkpoint}

/-- A submission goes on with the checkpoint it leads to. -/
theorem ends_submission {token : String} {next : Checkpoint}
    (ends : Flow.Ends (do
        let _ ← Flow.updateConnectivity cluster token desired
        pure next) log outcome) :
    ∃ reply, log = [submission cluster token desired reply] ∧
      outcome = (fun _ => next) <$> reply := by
  obtain ⟨reply, asked, rfl⟩ := Flow.ends_bind_pure.mp ends
  exact ⟨reply, Flow.ends_updateConnectivity asked, rfl⟩

theorem taken_of_submitWhenActive {description : Cluster.Description}
    (passing : description.state.isPermanentFailure = false)
    (fresh : checkpoint.submitted = false)
    (ends : Flow.Ends (submitWhenActive cluster desired description (checkpoint.sees description))
      log outcome) :
    Taken threshold cluster desired checkpoint (described cluster (.ok description) :: log)
      outcome := by
  unfold submitWhenActive at ends
  cases active : description.state.isActive with
  | false =>
      rw [active, Bool.not_false, if_pos rfl] at ends
      obtain ⟨rfl, rfl⟩ := Flow.ends_pure.mp ends
      exact .waiting description fresh passing active
  | true =>
      rw [active, Bool.not_true, if_neg Bool.false_ne_true] at ends
      by_cases same : description.connectivity = some desired
      · rw [if_pos (beq_iff_eq.mpr same)] at ends
        obtain ⟨rfl, rfl⟩ := Flow.ends_pure.mp ends
        exact .desired description fresh active same
      · rw [if_neg fun found => same (beq_iff_eq.mp found)] at ends
        obtain ⟨reply, rfl, rfl⟩ := ends_submission ends
        exact .submitted description reply fresh active same

theorem taken_of_watchSubmission {description : Cluster.Description}
    (passing : description.state.isPermanentFailure = false)
    (watching : checkpoint.submitted = true)
    (ends : Flow.Ends
      (watchSubmission threshold cluster desired description (checkpoint.sees description))
      log outcome) :
    Taken threshold cluster desired checkpoint (described cluster (.ok description) :: log)
      outcome := by
  unfold watchSubmission at ends
  cases active : description.state.isActive with
  | false =>
      rw [active, Bool.not_false, if_pos rfl] at ends
      obtain ⟨rfl, rfl⟩ := Flow.ends_pure.mp ends
      exact .applying description watching passing active
  | true =>
      rw [active, Bool.not_true, if_neg Bool.false_ne_true] at ends
      by_cases same : (checkpoint.sees description).submittedToken = some description.versionToken
      · rw [if_neg fun moved => bne_iff_ne.mp moved same] at ends
        dsimp only at ends
        by_cases reached : threshold ≤
            Number.wrapped 32 ((checkpoint.sees description).stalePolls + 1)
        · rw [if_pos reached] at ends
          obtain ⟨reply, rfl, rfl⟩ := ends_submission ends
          exact .resubmitted description reply watching active same reached
        · rw [if_neg reached] at ends
          obtain ⟨rfl, rfl⟩ := Flow.ends_pure.mp ends
          exact .stale description watching active same (Nat.lt_of_not_le reached)
      · rw [if_pos (bne_iff_ne.mpr same)] at ends
        obtain ⟨rfl, rfl⟩ := Flow.ends_pure.mp ends
        exact .effective description watching active same

/-- **A step does nothing but what is listed.** -/
theorem step_taken (referred : target.reference = .ok cluster)
    (ends : Flow.Ends (step threshold target checkpoint) log outcome) :
    Taken threshold cluster target.desired checkpoint log outcome := by
  unfold step at ends
  rw [referred, Flow.ofOutcome_ok_bind] at ends
  obtain ⟨failure, asked, rfl⟩ | ⟨first, description, rest, asked, follows, rfl⟩ :=
    Flow.ends_bind.mp ends
  · rw [Flow.ends_describeCluster asked]
    exact .undescribed failure
  · rw [Flow.ends_describeCluster asked]
    by_cases permanent : description.state.isPermanentFailure = true
    · rw [if_pos permanent] at follows
      obtain ⟨rfl, rfl⟩ := Flow.ends_throw.mp follows
      exact .lost description permanent
    · rw [if_neg permanent] at follows
      have passing := Bool.eq_false_iff.mpr permanent
      by_cases watching : checkpoint.submitted = true
      · rw [if_pos watching] at follows
        exact taken_of_watchSubmission passing watching follows
      · rw [if_neg watching] at follows
        exact taken_of_submitWhenActive passing (Bool.eq_false_iff.mpr watching) follows

/-- Every step keeps the count of stale polls within its word. -/
theorem Taken.fits {reached : Checkpoint} (fits : checkpoint.Fits)
    (taken : Taken threshold cluster desired checkpoint log (.ok reached)) : reached.Fits := by
  have none : 0 < Number.wordSize 32 := Number.wordSize_pos 32
  generalize whole : (.ok reached : Outcome Checkpoint) = outcome at taken
  cases taken with
  | undescribed failure => cases whole
  | lost description permanent => cases whole
  | waiting description fresh passing inactive => cases whole; exact fits
  | desired description fresh active same => cases whole; exact fits
  | submitted description reply fresh active different =>
      cases reply <;> cases whole
      exact none
  | applying description watching passing inactive => cases whole; exact none
  | effective description watching active moved => cases whole; exact fits
  | stale description watching active same below =>
      cases whole
      exact Number.wrapped_lt 32 (checkpoint.stalePolls + 1)
  | resubmitted description reply watching active same reached =>
      cases reply <;> cases whole
      exact none

end Provision.Connectivity
