import Provision.Proofs.Connectivity.Recount

/-!
# What the reported connectivity decides

A description may report the connectivity of the cluster. Before a submission has been accepted, an
active cluster is done exactly when it reports the desired connectivity. After one has been
accepted for a token, only the token is looked at: an active cluster with another token is done
whatever it reports (`completion_decided`), and with the same token it is not, even if it reports
just what is desired (`reports_heeded`). It is then counted as one more stale poll, and the
threshold decides whether the settings are submitted once more.
-/

set_option autoImplicit false

namespace Provision.Connectivity

open Engine (Concerns Run Standing attempt)
open Lifecycle (Check Continuation Event ResourceKind)
open Time (Timestamp)

variable {threshold : Nat} {history log : List Exchange} {cluster : Cluster.Reference}
  {desired : Cluster.Settings} {description : Cluster.Description} {token : String}
  {checkpoint reached : Checkpoint} {outcome : Outcome Checkpoint} {target : Target}
  {standing : Standing}

variable {settings : Settings.Engine} {event : Event} {startedAt : Timestamp}

/-! ## Steps on an active cluster -/

/-- What a step does once the cluster has been described as active: it stops, submits for the first
time, waits for another token, or submits once more. -/
theorem Taken.of_active (taken : Taken threshold cluster desired checkpoint log outcome)
    {own : Cluster.Reference} (member : described own (.ok description) ∈ log)
    (active : description.state.isActive = true) :
    (checkpoint.submitted = false ∧ description.connectivity = some desired ∨
        checkpoint.submitted = true ∧
          checkpoint.submittedToken ≠ some description.versionToken) ∧
      log = [described own (.ok description)] ∧
      outcome = .ok (checkpoint.waits description .stable checkpoint.stalePolls) ∨
    (checkpoint.submitted = false ∧ description.connectivity ≠ some desired ∧ ∃ reply,
      log = [described own (.ok description),
        submission own description.versionToken desired reply] ∧
      outcome = (fun _ => checkpoint.submits description) <$> reply) ∨
    (checkpoint.submitted = true ∧ checkpoint.submittedToken = some description.versionToken ∧
      checkpoint.nextStale < threshold ∧ log = [described own (.ok description)] ∧
      outcome = .ok (checkpoint.waits description .updateInProgress checkpoint.nextStale)) ∨
    (checkpoint.submitted = true ∧ checkpoint.submittedToken = some description.versionToken ∧
      threshold ≤ checkpoint.nextStale ∧ ∃ reply,
        log = [described own (.ok description),
          submission own description.versionToken desired reply] ∧
        outcome = (fun _ => checkpoint.waits description .updateInProgress 0) <$> reply) := by
  cases taken with
  | undescribed failure => cases List.mem_singleton.mp member
  | lost found permanent =>
      cases List.mem_singleton.mp member
      exact absurd ((isActive_of_permanent permanent).symm.trans active) Bool.false_ne_true
  | waiting found fresh passing inactive =>
      cases List.mem_singleton.mp member
      exact absurd (inactive.symm.trans active) Bool.false_ne_true
  | desired found fresh _ same =>
      cases List.mem_singleton.mp member
      exact .inl ⟨.inl ⟨fresh, same⟩, rfl, rfl⟩
  | submitted found reply fresh _ different =>
      rcases List.mem_pair.mp member with here | absurd
      · cases here
        exact .inr (.inl ⟨fresh, different, reply, rfl, rfl⟩)
      · cases absurd
  | applying found watching passing inactive =>
      cases List.mem_singleton.mp member
      exact absurd (inactive.symm.trans active) Bool.false_ne_true
  | effective found watching _ moved =>
      cases List.mem_singleton.mp member
      exact .inl ⟨.inr ⟨watching, moved⟩, rfl, rfl⟩
  | stale found watching _ same below =>
      cases List.mem_singleton.mp member
      exact .inr (.inr (.inl ⟨watching, same, below, rfl, rfl⟩))
  | resubmitted found reply watching _ same due =>
      rcases List.mem_pair.mp member with here | absurd
      · cases here
        exact .inr (.inr (.inr ⟨watching, same, due, reply, rfl, rfl⟩))
      · cases absurd

/-! ## The desired connectivity is reported -/

/-- A step that finds what is desired stops there, unless it watches the token that is shown. -/
theorem Taken.stable_of_desired
    (taken : Taken threshold cluster desired checkpoint log outcome) {own : Cluster.Reference}
    (member : described own (.ok description) ∈ log) (active : description.state.isActive = true)
    (same : description.connectivity = some desired)
    (other : checkpoint.submitted = true →
      checkpoint.submittedToken ≠ some description.versionToken) :
    log = [described own (.ok description)] ∧
      outcome = .ok (checkpoint.waits description .stable checkpoint.stalePolls) := by
  obtain ⟨-, stops⟩ | ⟨-, different, -⟩ | ⟨watching, stays, -⟩ | ⟨watching, stays, -⟩ :=
    taken.of_active member active
  · exact stops
  · exact absurd same different
  · exact absurd stays (other watching)
  · exact absurd stays (other watching)

/-- A step that watches the token that is shown goes on, and submits if that is due. -/
theorem Taken.unstable_of_same (taken : Taken threshold cluster desired checkpoint log outcome)
    {own : Cluster.Reference} (member : described own (.ok description) ∈ log)
    (active : description.state.isActive = true) (watching : checkpoint.submitted = true)
    (same : checkpoint.submittedToken = some description.versionToken) :
    descriptions log = [description] ∧
      (∀ reached, outcome = .ok reached → reached.phase ≠ .stable) ∧
      ((∃ reply, submission own description.versionToken desired reply ∈ log) ↔
        threshold ≤ checkpoint.nextStale) := by
  obtain ⟨fresh | moved, -⟩ | ⟨fresh, -⟩ | ⟨-, -, below, rfl, rfl⟩ | ⟨-, -, due, reply, rfl, rfl⟩ :=
    taken.of_active member active
  · exact absurd (fresh.1.symm.trans watching) Bool.false_ne_true
  · exact absurd same moved.2
  · exact absurd (fresh.symm.trans watching) Bool.false_ne_true
  · refine ⟨rfl, ?_, ?_⟩
    · rintro reached found stable
      cases found
      cases stable
    · refine ⟨?_, fun due => absurd below (Nat.not_lt_of_le due)⟩
      rintro ⟨reply, submits⟩
      cases List.mem_singleton.mp submits
  · refine ⟨rfl, ?_, fun _ => due, fun _ => ⟨reply, List.mem_pair.mpr (.inr rfl)⟩⟩
    rintro reached found stable
    cases reply <;> cases found
    cases stable

/-- **An active cluster that reports the desired connectivity completes the run at once and without
a submission, unless a submission for its very token has been accepted.** Then the report has no
say: the run does not complete, and the settings are submitted again just when the threshold is
reached by the latest descriptions. -/
theorem reports_heeded {earlier : List (List Exchange)}
    (kind : ResourceKind.ofName event.resourceType = .ok .connectivityUpdate)
    (changes : event.request ≠ .delete) (declared : declaredTarget event = .ok target)
    (run : Run settings event startedAt (earlier ++ [log]) standing)
    (member : described cluster (.ok description) ∈ log)
    (active : description.state.isActive = true)
    (same : description.connectivity = some target.desired) :
    (¬ AcceptedFor description.versionToken earlier.flatten →
      log = [described cluster (.ok description)] ∧
        ∃ id, standing = .completed id (arrival target description)) ∧
    (AcceptedFor description.versionToken earlier.flatten →
      (∀ id data, standing ≠ .completed id data) ∧
        (settings.connectivity.afterStalePolls < Number.wordSize 32 →
          ((∃ reply,
              submission cluster description.versionToken target.desired reply ∈ log) ↔
            LatestAll settings.connectivity.afterStalePolls (ActiveWith description.versionToken)
              (descriptions (sinceAcknowledged earlier.flatten ++ log))))) := by
  obtain ⟨before, shorter, isOpen, ends⟩ := run.last
  obtain ⟨own, referred⟩ := reference_of_declaredTarget declared
  obtain ⟨checkpoint, carries, recounts⟩ := run_recounts kind changes declared shorter isOpen
  obtain ⟨outcome, stepped, leads⟩ :=
    attempt_leads kind changes declared shorter.concerns carries ends
  have taken := step_taken referred stepped
  constructor
  · intro unaccepted
    have other : checkpoint.submitted = true →
        checkpoint.submittedToken ≠ some description.versionToken := by
      intro watching told
      exact unaccepted ((recounts.acceptedFor_iff watching).mpr told)
    obtain ⟨only, rfl⟩ := taken.stable_of_desired member active same other
    exact ⟨only, (leads.completed_iff _).mpr ⟨_, rfl, rfl, rfl⟩⟩
  · intro accepted
    have watching := recounts.watching_of_accepted accepted
    have told := (recounts.acceptedFor_iff watching).mp accepted
    obtain ⟨once, unstable, due⟩ := taken.unstable_of_same member active watching told
    constructor
    · rintro id data completed
      obtain ⟨reached, found, stable, -⟩ := (leads.completed_iff data).mp ⟨id, completed⟩
      exact unstable reached found stable
    · intro fits
      rw [due, recounts.due_iff fits watching active told, descriptions_append, once]

/-- The cluster reports that it has been opened, with the token it had before. -/
def reopened : Cluster.Description :=
  { closed with connectivity := some ⟨true, false, false⟩ }

/-- The submission for the first token. -/
def submittedFirst : List Exchange :=
  [described orders (.ok closed), submission orders "K1" ⟨true, false, false⟩ (.ok "first")]

/-- The submission for the same token, after a report that is as desired. -/
def submittedAgain : List Exchange :=
  [described orders (.ok reopened), submission orders "K1" ⟨true, false, false⟩ (.ok "second")]

/-- The cluster shows a new token, and reports that it is still closed. -/
def contradicting : Cluster.Description :=
  { state := .active
    versionToken := "K2"
    endpoints := []
    connectivity := some ⟨false, false, false⟩ }

theorem ofName_opening :
    ResourceKind.ofName opening.resourceType = .ok .connectivityUpdate := rfl

theorem declaredTarget_opening :
    declaredTarget opening = .ok ⟨orders.arn, true, false, false, none⟩ := rfl

theorem acceptedFor_submittedFirst : AcceptedFor "K1" [submittedFirst].flatten :=
  ⟨orders, ⟨true, false, false⟩, "first", .tail _ (.head _)⟩

/-- What is desired from the start, after a submission, and not at all after a submission. -/
def rehearsed : List (List (List Exchange)) :=
  [[[described orders (.ok reopened)]], [submittedFirst, submittedAgain],
    [submittedFirst, [described orders (.ok contradicting)]]]

theorem exists_run_rehearsed {logs : List (List Exchange)} (rehearses : logs ∈ rehearsed) :
    ∃ standing, Run { connectivity := ⟨1⟩ } opening Rehearsal.beginning logs standing := by
  have replayed : (rehearsed.all fun logs => (Engine.replay { connectivity := ⟨1⟩ } opening
      Rehearsal.beginning logs .unanswered).isSome) = true := by
    decide +kernel
  exact Engine.exists_run (List.all_eq_true.mp replayed logs rehearses)

theorem exists_run_submittedAgain :
    ∃ standing, Run { connectivity := ⟨1⟩ } opening Rehearsal.beginning
      ([submittedFirst] ++ [submittedAgain]) standing :=
  exists_run_rehearsed (.tail _ (.head _))

/-- What is desired completes the run at first, and is submitted again later. -/
theorem reports_heeded_reopened :
    (∃ standing,
      Run { connectivity := ⟨1⟩ } opening Rehearsal.beginning
        ([] ++ [[described orders (.ok reopened)]]) standing ∧
      ∃ id, standing = .completed id
        [("clusterArn", .text orders.arn), ("currentVersion", .text "K1")]) ∧
    ∃ standing,
      Run { connectivity := ⟨1⟩ } opening Rehearsal.beginning
        ([submittedFirst] ++ [submittedAgain]) standing ∧
      (∀ id data, standing ≠ .completed id data) ∧
      LatestAll 1 (ActiveWith "K1")
        (descriptions (sinceAcknowledged [submittedFirst].flatten ++ submittedAgain)) := by
  constructor
  · have runs : ∃ standing, Run { connectivity := ⟨1⟩ } opening Rehearsal.beginning
        ([] ++ [[described orders (.ok reopened)]]) standing := exists_run_rehearsed (.head _)
    obtain ⟨standing, run⟩ := runs
    have fresh : ¬ AcceptedFor reopened.versionToken [] := by
      rintro ⟨cluster, desired, operation, member⟩
      cases member
    exact ⟨standing, run,
      ((reports_heeded ofName_opening (by decide) declaredTarget_opening run (.head _) rfl
        rfl).1 fresh).2⟩
  · obtain ⟨standing, run⟩ := exists_run_submittedAgain
    obtain ⟨incomplete, again⟩ :=
      (reports_heeded ofName_opening (by decide) declaredTarget_opening run (.head _) rfl rfl).2
        acceptedFor_submittedFirst
    have fits : 1 < Number.wordSize 32 := by decide
    exact ⟨standing, run, incomplete, (again fits).mp ⟨.ok "second", .tail _ (.head _)⟩⟩

/-- What is desired does not always complete a run, and may be submitted even so. -/
theorem report_unheeded :
    ¬ ∀ (settings : Settings.Engine) (event : Event) (startedAt : Timestamp) (target : Target)
      (earlier : List (List Exchange)) (log : List Exchange) (standing : Standing)
      (cluster : Cluster.Reference) (description : Cluster.Description),
      ResourceKind.ofName event.resourceType = .ok .connectivityUpdate →
      event.request ≠ .delete → declaredTarget event = .ok target →
      Run settings event startedAt (earlier ++ [log]) standing →
      described cluster (.ok description) ∈ log → description.state.isActive = true →
      description.connectivity = some target.desired →
      (∃ id, standing = .completed id (arrival target description)) ∧
        ∀ token desired reply, submission cluster token desired reply ∉ log := by
  intro heeded
  obtain ⟨standing, run⟩ := exists_run_submittedAgain
  obtain ⟨-, silent⟩ := heeded _ _ _ _ _ _ _ orders reopened ofName_opening (by decide)
    declaredTarget_opening run (.head _) rfl rfl
  exact silent "K1" ⟨true, false, false⟩ (.ok "second") (.tail _ (.head _))

/-! ## Another connectivity is reported -/

/-- A step goes on with the description that it is given. -/
theorem ends_step_of_described (referred : target.reference = .ok cluster)
    (active : description.state.isActive = true)
    (follows : Flow.Ends
      (if checkpoint.submitted then
        watchSubmission threshold cluster target.desired description (checkpoint.sees description)
      else submitWhenActive cluster target.desired description (checkpoint.sees description))
      log outcome) :
    Flow.Ends (step threshold target checkpoint) (described cluster (.ok description) :: log)
      outcome := by
  have passing : ¬ description.state.isPermanentFailure = true := by
    intro permanent
    exact Bool.false_ne_true ((isActive_of_permanent permanent).symm.trans active)
  have asked : Flow.Ends (Flow.describeCluster cluster) [described cluster (.ok description)]
      (.ok description) := Flow.ends_question.mpr ⟨.ok description, rfl, rfl⟩
  unfold step
  rw [referred, Flow.ofOutcome_ok_bind]
  refine Flow.ends_bind.mpr (.inr ⟨_, description, log, asked, ?_, rfl⟩)
  rw [if_neg passing]
  exact follows

/-- A step that watches a token stops at an active cluster with another one. -/
theorem ends_step_of_moved (referred : target.reference = .ok cluster)
    (watching : checkpoint.submitted = true) (active : description.state.isActive = true)
    (moved : checkpoint.submittedToken ≠ some description.versionToken) :
    Flow.Ends (step threshold target checkpoint) [described cluster (.ok description)]
      (.ok (checkpoint.waits description .stable checkpoint.stalePolls)) := by
  apply ends_step_of_described referred active
  have other : (checkpoint.sees description).submittedToken != some description.versionToken :=
    bne_iff_ne.mpr moved
  simp only [watching, if_true, watchSubmission, active, Bool.not_true, Bool.false_eq_true,
    if_false, other]
  exact Flow.ends_pure.mpr ⟨rfl, rfl⟩

/-- A check that watches a token completes at an active cluster with another one. -/
theorem attempt_ends_of_moved {continuation : Continuation}
    (kind : ResourceKind.ofName event.resourceType = .ok .connectivityUpdate)
    (changes : event.request ≠ .delete) (declared : declaredTarget event = .ok target)
    (concerns : Concerns event continuation) (referred : target.reference = .ok cluster)
    (read : Checkpoint.ofProperties continuation.checkpoint target = .ok checkpoint)
    (watching : checkpoint.submitted = true) (active : description.state.isActive = true)
    (moved : checkpoint.submittedToken ≠ some description.versionToken) :
    (attempt settings event startedAt (.pending continuation)).Ends
      [described cluster (.ok description)]
      (.completed continuation.physicalId (arrival target description)) := by
  have routed : Engine.route settings continuation.event =
      .ok (handler settings.connectivity) :=
    concerns.route_eq.trans (Engine.route_of_ofName kind)
  obtain ⟨id, same, -⟩ := concerns
  have checked : Flow.Ends (check settings.connectivity.afterStalePolls continuation)
      [described cluster (.ok description)] (.ok (.complete (arrival target description))) := by
    rw [check_eq (by rw [same]; exact changes) (by rw [same]; exact declared) read]
    exact Flow.ends_bind_pure.mpr ⟨_, ends_step_of_moved referred watching active moved, rfl⟩
  rw [Engine.attempt_pending routed]
  exact Dialogue.ends_bind_done.mpr ⟨_, checked, rfl⟩

/-- A check completes under the identifier that the event has been given. -/
theorem id_of_attempt_pending {continuation : Continuation} {id : String} {data : Properties}
    (ends : (attempt settings event startedAt (.pending continuation)).Ends log
      (.completed id data)) : id = continuation.physicalId := by
  obtain ⟨outcome, -, completed⟩ := Dialogue.ends_bind_done.mp ends
  cases outcome with
  | error failure => cases completed
  | ok result =>
      cases complete : result.isComplete <;>
        simp only [Standing.ofCheck, complete] at completed <;> cases completed
      rfl

/-- A step that is stable has described an active cluster, and has found what it looked for. -/
theorem Taken.of_stable (taken : Taken threshold cluster desired checkpoint log (.ok reached))
    (stable : reached.phase = .stable) :
    ∃ description, log = [described cluster (.ok description)] ∧
      description.state.isActive = true ∧
      reached = checkpoint.waits description .stable checkpoint.stalePolls ∧
      (checkpoint.submitted = false → description.connectivity = some desired) ∧
      (checkpoint.submitted = true →
        checkpoint.submittedToken ≠ some description.versionToken) := by
  generalize whole : (.ok reached : Outcome Checkpoint) = outcome at taken
  cases taken with
  | undescribed failure => cases whole
  | lost description permanent => cases whole
  | waiting description fresh passing inactive => cases whole; cases stable
  | desired description fresh active same =>
      cases whole
      refine ⟨description, rfl, active, rfl, fun _ => same, fun watching => ?_⟩
      exact absurd (fresh.symm.trans watching) Bool.false_ne_true
  | submitted description reply fresh active different =>
      cases reply <;> cases whole
      cases stable
  | applying description watching passing inactive => cases whole; cases stable
  | effective description watching active moved =>
      cases whole
      refine ⟨description, rfl, active, rfl, fun fresh => ?_, fun _ => moved⟩
      exact absurd (fresh.symm.trans watching) Bool.false_ne_true
  | stale description watching active same stays => cases whole; cases stable
  | resubmitted description reply watching active same due =>
      cases reply <;> cases whole
      cases stable

/-- **Before a submission has been accepted, a run completes only if the desired connectivity is
reported; after one has been accepted for a token, it completes if another token is shown, and
would have done so whatever the description had reported.** A deletion completes without a
description. -/
theorem completion_decided {earlier : List (List Exchange)} {id : String} {data : Properties}
    (kind : ResourceKind.ofName event.resourceType = .ok .connectivityUpdate)
    (run : Run settings event startedAt (earlier ++ [log]) (.completed id data)) :
    (event.request = .delete → log = []) ∧
    (event.request ≠ .delete →
      ∃ target cluster description, declaredTarget event = .ok target ∧
        log = [described cluster (.ok description)] ∧ description.state.isActive = true ∧
        data = arrival target description ∧
        ((∀ token, ¬ AcceptedFor token earlier.flatten) →
          description.connectivity = some target.desired) ∧
        (∀ token, AcceptedFor token earlier.flatten →
          description.versionToken ≠ token ∧
            ∀ reported,
              Run settings event startedAt
                (earlier ++
                  [[described cluster (.ok { description with connectivity := reported })]])
                (.completed id data))) := by
  obtain ⟨before, shorter, isOpen, ends⟩ := run.last
  constructor
  · intro deletes
    obtain ⟨-, rfl⟩ := run_of_delete kind deletes shorter isOpen
    exact (attempt_of_delete kind deletes ends).1
  · intro changes
    cases declared : declaredTarget event with
    | error failure =>
        obtain rfl := run_of_undeclared kind changes declared shorter isOpen
        cases (attempt_of_undeclared kind changes declared ends).2
    | ok target =>
        obtain ⟨cluster, referred⟩ := reference_of_declaredTarget declared
        obtain ⟨checkpoint, carries, recounts⟩ := run_recounts kind changes declared shorter isOpen
        obtain ⟨outcome, stepped, leads⟩ :=
          attempt_leads kind changes declared shorter.concerns carries ends
        obtain ⟨reached, rfl, stable, rfl⟩ := (leads.completed_iff data).mp ⟨id, rfl⟩
        obtain ⟨description, rfl, active, rfl, wanted, moved⟩ :=
          (step_taken referred stepped).of_stable stable
        refine ⟨target, cluster, description, rfl, rfl, active, rfl, ?_, ?_⟩
        · intro none
          exact wanted (recounts.fresh_of_none none)
        · intro token accepted
          have watching := recounts.watching_of_accepted accepted
          have told := (recounts.acceptedFor_iff watching).mp accepted
          refine ⟨?_, fun reported => ?_⟩
          · rintro rfl
            exact moved watching told
          · cases carries with
            | unanswered => cases watching
            | pending fits read =>
                obtain rfl := id_of_attempt_pending ends
                refine shorter.step isOpen ?_
                exact attempt_ends_of_moved kind changes declared (shorter.concerns _ rfl) referred
                  read watching active (moved watching)

/-- The new token completes the run. -/
theorem exists_run_contradicting :
    ∃ id data,
      Run { connectivity := ⟨1⟩ } opening Rehearsal.beginning
        ([submittedFirst] ++ [[described orders (.ok contradicting)]]) (.completed id data) := by
  have runs : ∃ standing, Run { connectivity := ⟨1⟩ } opening Rehearsal.beginning
      ([submittedFirst] ++ [[described orders (.ok contradicting)]]) standing :=
    exists_run_rehearsed (.tail _ (.tail _ (.head _)))
  obtain ⟨standing, run⟩ := runs
  have completing : Completing ⟨orders.arn, true, false, false, none⟩ [submittedFirst].flatten
      contradicting := ⟨rfl, .inr ⟨"K1", acceptedFor_submittedFirst, by decide⟩⟩
  obtain ⟨id, rfl⟩ := (run_completed_iff ofName_opening (by decide) (by decide) run _).mpr
    ⟨_, orders, contradicting, declaredTarget_opening, .head _, completing, rfl⟩
  exact ⟨id, _, run⟩

/-- The new token completes the run, whatever is reported with it. -/
theorem completion_decided_contradicting :
    ∃ id data, ∀ reported,
      Run { connectivity := ⟨1⟩ } opening Rehearsal.beginning
        ([submittedFirst] ++
          [[described orders (.ok { contradicting with connectivity := reported })]])
        (.completed id data) := by
  obtain ⟨id, data, run⟩ := exists_run_contradicting
  obtain ⟨target, cluster, description, -, same, -, -, -, after⟩ :=
    (completion_decided ofName_opening run).2 (by decide)
  cases same
  exact ⟨id, data, (after "K1" acceptedFor_submittedFirst).2⟩

/-- A run may complete although other settings are reported. -/
theorem completion_contradicted :
    ¬ ∀ (settings : Settings.Engine) (event : Event) (startedAt : Timestamp)
      (earlier : List (List Exchange)) (log : List Exchange) (id : String) (data : Properties)
      (target : Target) (cluster : Cluster.Reference) (description : Cluster.Description),
      ResourceKind.ofName event.resourceType = .ok .connectivityUpdate →
      declaredTarget event = .ok target →
      Run settings event startedAt (earlier ++ [log]) (.completed id data) →
      described cluster (.ok description) ∈ log →
      description.connectivity = none ∨ description.connectivity = some target.desired := by
  intro agreeing
  obtain ⟨id, data, run⟩ := exists_run_contradicting
  have agrees := agreeing _ _ _ _ _ id data _ orders contradicting ofName_opening
    declaredTarget_opening run (.head _)
  exact absurd agrees (by decide)

end Provision.Connectivity
