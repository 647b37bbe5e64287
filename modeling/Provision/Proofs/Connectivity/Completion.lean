import Provision.Proofs.Connectivity.Records

/-!
# When a connectivity change is finished

A change is in effect when an active cluster either has the desired connectivity before any
submission has been accepted, or shows another token than the accepted one (`Completing`). A run
completes with the first description that shows this, and tells its token. Until then each
checkpoint is read back as it was written, and it records the token just described and the history
of the run (`checkpoints_faithful`).
-/

set_option autoImplicit false

namespace Provision.Connectivity

open Engine (Run Standing attempt)
open Lifecycle (Continuation Event ResourceKind)
open Time (Timestamp)

/-! ## What is in effect -/

/-- The description shows that the change is in effect. -/
def Completing (target : Target) (history : List Exchange) (description : Cluster.Description) :
    Prop :=
  description.state.isActive = true ∧
    ((∀ token, ¬ AcceptedFor token history) ∧ description.connectivity = some target.desired ∨
      ∃ token, AcceptedFor token history ∧ description.versionToken ≠ token)

variable {threshold : Nat} {history log : List Exchange} {cluster : Cluster.Reference}
  {description : Cluster.Description} {checkpoint : Checkpoint} {outcome : Outcome Checkpoint}
  {target : Target} {standing : Standing}

/-- Who has the desired connectivity before anything is accepted is at the end. -/
theorem Records.completing_iff_of_fresh (records : Records threshold history checkpoint)
    (fresh : checkpoint.submitted = false) :
    Completing target history description ↔
      description.state.isActive = true ∧ description.connectivity = some target.desired := by
  have none := records.none_accepted fresh
  constructor
  · rintro ⟨active, ⟨-, same⟩ | ⟨token, accepted, -⟩⟩
    · exact ⟨active, same⟩
    · exact absurd accepted (none token)
  · rintro ⟨active, same⟩
    exact ⟨active, .inl ⟨none, same⟩⟩

/-- Who shows another token than the accepted one is at the end. -/
theorem Records.completing_iff_of_watching (records : Records threshold history checkpoint)
    (watching : checkpoint.submitted = true) :
    Completing target history description ↔
      description.state.isActive = true ∧
        checkpoint.submittedToken ≠ some description.versionToken := by
  constructor
  · rintro ⟨active, ⟨none, -⟩ | ⟨token, accepted, other⟩⟩
    · obtain ⟨token, accepted, -⟩ := records.exists_accepted watching
      exact absurd accepted (none token)
    · rw [(records.watching token accepted).2.2.1]
      exact ⟨active, fun same => other (Option.some.inj same).symm⟩
  · rintro ⟨active, other⟩
    obtain ⟨token, accepted, told⟩ := records.exists_accepted watching
    refine ⟨active, .inr ⟨token, accepted, ?_⟩⟩
    rintro rfl
    exact other told

theorem isActive_of_permanent {state : Cluster.State}
    (permanent : state.isPermanentFailure = true) :
    state.isActive = false := by
  cases state <;> first | rfl | cases permanent

/-- What an answer tells of a change that the description shows to be in effect. -/
def arrival (target : Target) (description : Cluster.Description) : Properties :=
  [("clusterArn", .text target.cluster), ("currentVersion", .text description.versionToken)]

/-- A step is stable if it describes a cluster that shows the change to be in effect. -/
theorem Taken.stable_iff (records : Records threshold history checkpoint)
    (taken : Taken threshold cluster target.desired checkpoint log outcome) (data : Properties) :
    (∃ reached, outcome = .ok reached ∧ reached.phase = .stable ∧ data = output target reached) ↔
      ∃ cluster description, described cluster (.ok description) ∈ log ∧
        Completing target history description ∧ data = arrival target description := by
  constructor
  · rintro ⟨reached, same, stable, rfl⟩
    cases taken with
    | desired description fresh active wanted =>
        cases same
        exact ⟨_, description, List.mem_cons_self,
          (records.completing_iff_of_fresh fresh).mpr ⟨active, wanted⟩, rfl⟩
    | effective description watching active moved =>
        cases same
        exact ⟨_, description, List.mem_cons_self,
          (records.completing_iff_of_watching watching).mpr ⟨active, moved⟩, rfl⟩
    | submitted description reply fresh active different =>
        cases reply <;> cases same
        cases stable
    | resubmitted description reply watching active stays due =>
        cases reply <;> cases same
        cases stable
    | undescribed failure => cases same
    | lost description permanent => cases same
    | waiting description fresh passing inactive => cases same; cases stable
    | applying description watching passing inactive => cases same; cases stable
    | stale description watching active stays below => cases same; cases stable
  · rintro ⟨other, description, member, completing, rfl⟩
    have active := completing.1
    cases taken with
    | undescribed failure => cases List.mem_singleton.mp member
    | lost description permanent =>
        cases List.mem_singleton.mp member
        cases active.symm.trans (isActive_of_permanent permanent)
    | waiting description fresh passing inactive =>
        cases List.mem_singleton.mp member
        cases active.symm.trans inactive
    | desired description fresh _ wanted =>
        cases List.mem_singleton.mp member
        exact ⟨_, rfl, rfl, rfl⟩
    | submitted description reply fresh _ different =>
        rcases List.mem_pair.mp member with here | absurd
        · cases here
          exact (different ((records.completing_iff_of_fresh fresh).mp completing).2).elim
        · cases absurd
    | applying description watching passing inactive =>
        cases List.mem_singleton.mp member
        cases active.symm.trans inactive
    | effective description watching _ moved =>
        cases List.mem_singleton.mp member
        exact ⟨_, rfl, rfl, rfl⟩
    | stale description watching _ stays below =>
        cases List.mem_singleton.mp member
        exact (((records.completing_iff_of_watching watching).mp completing).2 stays).elim
    | resubmitted description reply watching _ stays due =>
        rcases List.mem_pair.mp member with here | absurd
        · cases here
          exact (((records.completing_iff_of_watching watching).mp completing).2 stays).elim
        · cases absurd

/-- An attempt completes with a stable step. -/
theorem Leads.completed_iff (leads : Leads target checkpoint outcome standing)
    (data : Properties) :
    (∃ id, standing = .completed id data) ↔
      ∃ reached, outcome = .ok reached ∧ reached.phase = .stable ∧
        data = output target reached := by
  constructor
  · rintro ⟨id, rfl⟩
    cases leads with
    | completes stable => exact ⟨_, rfl, stable, rfl⟩
  · rintro ⟨reached, rfl, stable, rfl⟩
    cases leads with
    | completes _ => exact ⟨_, rfl⟩
    | goesOn unstable written => exact absurd stable unstable

/-! ## Runs -/

variable {settings : Settings.Engine} {event : Event} {startedAt : Timestamp}

/-- A run completes with the description that shows the change to be in effect. -/
theorem run_completed_iff {earlier : List (List Exchange)}
    (kind : ResourceKind.ofName event.resourceType = .ok .connectivityUpdate)
    (changes : event.request ≠ .delete) (positive : 0 < settings.connectivity.afterStalePolls)
    (run : Run settings event startedAt (earlier ++ [log]) standing) (data : Properties) :
    (∃ id, standing = .completed id data) ↔
      ∃ target cluster description, declaredTarget event = .ok target ∧
        described cluster (.ok description) ∈ log ∧
        Completing target earlier.flatten description ∧ data = arrival target description := by
  obtain ⟨before, shorter, isOpen, ends⟩ := run.last
  cases declared : declaredTarget event with
  | error failure =>
      obtain rfl := run_of_undeclared kind changes declared shorter isOpen
      obtain ⟨rfl, rfl⟩ := attempt_of_undeclared kind changes declared ends
      constructor
      · rintro ⟨id, absurd⟩
        cases absurd
      · rintro ⟨target, cluster, description, absurd, -⟩
        cases absurd
  | ok target =>
      obtain ⟨cluster, referred⟩ := reference_of_declaredTarget declared
      obtain ⟨checkpoint, carries, records⟩ :=
        run_records kind changes declared positive shorter isOpen
      obtain ⟨outcome, stepped, leads⟩ :=
        attempt_leads kind changes declared shorter.concerns carries ends
      rw [leads.completed_iff, (step_taken referred stepped).stable_iff records]
      constructor
      · rintro ⟨cluster, description, finishes⟩
        exact ⟨target, cluster, description, rfl, finishes⟩
      · rintro ⟨other, cluster, description, same, finishes⟩
        cases same
        exact ⟨cluster, description, finishes⟩

/-- A run would have been over with an earlier description that completes it. -/
theorem run_not_completing {before after : List (List Exchange)} {during : List Exchange}
    {target : Target} {cluster : Cluster.Reference} {description : Cluster.Description}
    (kind : ResourceKind.ofName event.resourceType = .ok .connectivityUpdate)
    (changes : event.request ≠ .delete) (positive : 0 < settings.connectivity.afterStalePolls)
    (declared : declaredTarget event = .ok target)
    (run : Run settings event startedAt (before ++ during :: after ++ [log]) standing)
    (member : described cluster (.ok description) ∈ during) :
    ¬ Completing target before.flatten description := by
  intro completing
  obtain ⟨next, rest, follows⟩ :=
    List.exists_cons_of_ne_nil
      (List.append_ne_nil_of_right_ne_nil after (List.cons_ne_nil log []))
  rw [List.append_assoc, List.cons_append, follows, List.append_cons, List.append_cons] at run
  obtain ⟨middle, longer⟩ := run.upTo
  obtain ⟨standing, until_here, isOpen, -⟩ := longer.last
  obtain ⟨id, rfl⟩ := (run_completed_iff kind changes positive until_here _).mpr
    ⟨target, cluster, description, declared, member, completing, rfl⟩
  cases isOpen

/-- **Every checkpoint of a run is read back, and one that a step has written records the history;
the run completes with the first description that shows the change to be in effect.** A deletion
changes nothing and completes at once. Each step of a run is the last one of a shorter run. -/
theorem checkpoints_faithful {earlier : List (List Exchange)}
    (kind : ResourceKind.ofName event.resourceType = .ok .connectivityUpdate)
    (positive : 0 < settings.connectivity.afterStalePolls)
    (run : Run settings event startedAt (earlier ++ [log]) standing) :
    (∀ continuation, standing = .pending continuation →
      ∃ target checkpoint, declaredTarget event = .ok target ∧
        Checkpoint.ofProperties continuation.checkpoint target = .ok checkpoint ∧
        ((∀ exchange ∈ log, fulfilled exchange = true) →
          continuation.checkpoint = checkpoint.toProperties ∧
          (∀ other, Checkpoint.ofProperties checkpoint.toProperties other = .ok checkpoint) ∧
          (∃ cluster description, described cluster (.ok description) ∈ log ∧
            checkpoint.observedToken = some description.versionToken) ∧
          Records settings.connectivity.afterStalePolls (earlier ++ [log]).flatten checkpoint ∧
          (settings.connectivity.afterStalePolls < Number.wordSize 32 →
            checkpoint.nextStale = checkpoint.stalePolls + 1))) ∧
    (event.request ≠ .delete →
      (∀ data, (∃ id, standing = .completed id data) ↔
        ∃ target cluster description, declaredTarget event = .ok target ∧
          described cluster (.ok description) ∈ log ∧
          Completing target earlier.flatten description ∧ data = arrival target description) ∧
      ∀ before during after, earlier = before ++ during :: after →
        ∀ target cluster description, declaredTarget event = .ok target →
          described cluster (.ok description) ∈ during →
            ¬ Completing target before.flatten description) ∧
    (event.request = .delete → earlier = [] ∧ log = [] ∧
      standing = .completed (event.physicalId.getD "") []) := by
  obtain ⟨before, shorter, isOpen, ends⟩ := run.last
  refine ⟨?_, fun changes => ⟨run_completed_iff kind changes positive run, ?_⟩, fun deletes => ?_⟩
  · rintro continuation rfl
    have changes : event.request ≠ .delete := by
      intro deletes
      obtain ⟨-, rfl⟩ := run_of_delete kind deletes shorter isOpen
      cases (attempt_of_delete kind deletes ends).2
    cases declared : declaredTarget event with
    | error failure =>
        obtain rfl := run_of_undeclared kind changes declared shorter isOpen
        cases (attempt_of_undeclared kind changes declared ends).2
    | ok target =>
        obtain ⟨cluster, referred⟩ := reference_of_declaredTarget declared
        obtain ⟨checkpoint, carries, records⟩ :=
          run_records kind changes declared positive shorter isOpen
        obtain ⟨outcome, stepped, leads⟩ :=
          attempt_leads kind changes declared shorter.concerns carries ends
        have taken := step_taken referred stepped
        cases leads with
        | goesOn unstable written =>
            rename_i reached
            have fits := taken.fits carries.fits
            have recorded := records.step positive taken unstable
            obtain ⟨description, member, observed⟩ := taken.observed
            refine ⟨target, reached, rfl, ?_, fun _ => ⟨written, ?_, ?_, ?_, ?_⟩⟩
            · rw [written]
              exact Checkpoint.ofProperties_toProperties fits target
            · exact Checkpoint.ofProperties_toProperties fits
            · exact ⟨cluster, description, member, observed⟩
            · rw [List.flatten_concat]
              exact recorded
            · exact recorded.nextStale_eq positive
        | retries transient carried =>
            cases carried with
            | pending fits read =>
                refine ⟨target, checkpoint, rfl, read, ?_⟩
                intro succeeded
                obtain ⟨exchange, member, unfulfilled⟩ := taken.unfulfilled transient
                exact absurd (unfulfilled.symm.trans (succeeded exchange member)) Bool.false_ne_true
  · rintro first during after rfl target cluster description declared member
    exact run_not_completing kind changes positive declared run member
  · obtain ⟨rfl, rfl⟩ := run_of_delete kind deletes shorter isOpen
    exact ⟨rfl, attempt_of_delete kind deletes ends⟩

/-! ## A change that takes effect -/

/-- The cluster once it has been opened, with a new token. -/
def opened : Cluster.Description :=
  { state := .active, versionToken := "K2", endpoints := [], connectivity := none }

/-- The submission, and a description that fails. -/
def submittedOnce : List (List Exchange) :=
  [[described orders (.ok closed), submission orders "K1" ⟨true, false, false⟩ (.ok "first")],
    [described orders (.error (.transient "throttled"))]]

theorem acceptedFor_submittedOnce : AcceptedFor "K1" submittedOnce.flatten :=
  ⟨orders, ⟨true, false, false⟩, "first", .tail _ (.head _)⟩

/-- The old token is counted once, and the new one completes the run. -/
theorem checkpoints_faithful_opened :
    (∃ continuation, ∃ checkpoint : Checkpoint,
      Run { connectivity := ⟨2⟩ } opening Rehearsal.beginning
        (submittedOnce ++ [[described orders (.ok closed)]]) (.pending continuation) ∧
      continuation.checkpoint = checkpoint.toProperties ∧
      checkpoint.submittedToken = some "K1" ∧ checkpoint.stalePolls < 2) ∧
    ∃ id data,
      Run { connectivity := ⟨2⟩ } opening Rehearsal.beginning
        (submittedOnce ++ [[described orders (.ok opened)]]) (.completed id data) ∧
      data = [("clusterArn", .text orders.arn), ("currentVersion", .text "K2")] := by
  have kind : ResourceKind.ofName opening.resourceType = .ok .connectivityUpdate := by
    decide +kernel
  have declared : declaredTarget opening = .ok ⟨orders.arn, true, false, false, none⟩ := by
    decide +kernel
  constructor
  · have waits : (((Engine.replay { connectivity := ⟨2⟩ } opening Rehearsal.beginning
        (submittedOnce ++ [[described orders (.ok closed)]]) .unanswered).bind
          Standing.continuation?).map Continuation.physicalId) = some "connectivity/orders" := by
      decide +kernel
    obtain ⟨continuation, reached, -⟩ := Option.map_eq_some_iff.mp waits
    obtain ⟨standing, replayed, pending⟩ := Option.bind_eq_some_iff.mp reached
    cases standing with
    | pending found =>
        cases pending
        have run := Run.start.replay replayed
        obtain ⟨target, checkpoint, -, -, written⟩ :=
          (checkpoints_faithful kind (by decide) run).1 continuation rfl
        obtain ⟨same, -, -, records, -⟩ := written fun exchange member => by
          rw [List.mem_singleton.mp member]
          rfl
        have accepted : AcceptedFor "K1"
            (submittedOnce ++ [[described orders (.ok closed)]]).flatten :=
          ⟨orders, ⟨true, false, false⟩, "first", .tail _ (.head _)⟩
        obtain ⟨-, -, told, below⟩ := records.watching "K1" accepted
        exact ⟨continuation, checkpoint, run, same, told, below⟩
    | unanswered => cases pending
    | completed id data => cases pending
    | failed failure => cases pending
  · have runs : ∃ standing, Run { connectivity := ⟨2⟩ } opening Rehearsal.beginning
        (submittedOnce ++ [[described orders (.ok opened)]]) standing :=
      Engine.exists_run (by decide +kernel)
    obtain ⟨standing, run⟩ := runs
    have completing : Completing ⟨orders.arn, true, false, false, none⟩ submittedOnce.flatten
        opened := ⟨rfl, .inr ⟨"K1", acceptedFor_submittedOnce, by decide⟩⟩
    obtain ⟨id, rfl⟩ := (((checkpoints_faithful kind (by decide) run).2.1 (by decide)).1 _).mpr
      ⟨_, orders, opened, declared, List.mem_singleton.mpr rfl, completing, rfl⟩
    exact ⟨id, _, run, rfl⟩

end Provision.Connectivity
