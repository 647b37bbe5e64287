import Provision.Proofs.Connectivity.Run
import Provision.Proofs.Engine.History
import Provision.Rehearsal.Stage

/-!
# When a connectivity change is submitted

A change is submitted right after the cluster has been described as active, with the version token
just described, and only once in a step. Once a submission has been acknowledged, the same settings
are submitted again for the same token only, and only after the cluster has been described as
active with that token so many times in a row (`submissions_regular`).

The checkpoint is all that the steps know of the history. `Tracks` says what it tells of it: the
flag tells whether a submission has been acknowledged, the token which one, and as many of the
latest descriptions as the count of stale polls says were active with the token.
-/

set_option autoImplicit false

namespace Provision.Connectivity

open Engine (Run Standing attempt)
open Lifecycle (Event ResourceKind)
open Time (Timestamp)

/-! ## Descriptions in a history -/

/-- The description that an exchange has brought. -/
def description? : Exchange → Option Cluster.Description
  | ⟨.describeCluster _, some (.ok description)⟩ => some description
  | _ => none

/-- The descriptions in a history, in order. -/
def descriptions (history : List Exchange) : List Cluster.Description :=
  history.filterMap description?

/-- The cluster accepts changes meant for the token. -/
def ActiveWith (token : String) (description : Cluster.Description) : Prop :=
  description.state.isActive = true ∧ description.versionToken = token

variable {history : List Exchange} {cluster : Cluster.Reference} {token : String}
  {desired : Cluster.Settings} {description : Cluster.Description}

theorem descriptions_append (history new : List Exchange) :
    descriptions (history ++ new) = descriptions history ++ descriptions new :=
  List.filterMap_append

theorem not_acknowledged_described (reply : Outcome Cluster.Description) :
    ¬ Acknowledged [described cluster reply] := by
  rintro ⟨exchange, member, accepted⟩
  rw [List.mem_singleton.mp member] at accepted
  cases accepted

theorem not_acknowledged_refused (failure : Failure) :
    ¬ Acknowledged [described cluster (.ok description),
      submission cluster token desired (.error failure)] := by
  rintro ⟨exchange, member, accepted⟩
  rcases List.mem_pair.mp member with rfl | rfl <;> cases accepted

theorem acknowledged_submission (operation : String) :
    Acknowledged [described cluster (.ok description),
      submission cluster token desired (.ok operation)] :=
  ⟨_, List.mem_pair.mpr (.inr rfl), rfl⟩

/-! ## What a checkpoint tells of the history -/

/-- The checkpoint is right about the history. -/
structure Tracks (history : List Exchange) (checkpoint : Checkpoint) : Prop where
  submitted : checkpoint.submitted = true ↔ Acknowledged history
  token : ∀ cluster token desired operation,
    submission cluster token desired (.ok operation) ∈ history →
      checkpoint.submittedToken = some token
  latest : ∀ token, checkpoint.submitted = true → checkpoint.submittedToken = some token →
    LatestAll checkpoint.stalePolls (ActiveWith token) (descriptions (sinceAcknowledged history))

namespace Tracks

variable {checkpoint reached : Checkpoint} {reply : Outcome Cluster.Description}

theorem initial (target : Target) : Tracks [] (Checkpoint.initial target) where
  submitted :=
    ⟨fun flag => absurd flag Bool.false_ne_true, fun accepted =>
      absurd accepted not_acknowledged_nil⟩
  token := fun _ _ _ _ member => nomatch member
  latest := fun _ flag => nomatch flag

/-- Exchanges without an acknowledged change leave the flag and the token right. -/
theorem append_quiet {new : List Exchange} (tracks : Tracks history checkpoint)
    (quiet : ¬ Acknowledged new) (flag : reached.submitted = checkpoint.submitted)
    (kept : reached.submittedToken = checkpoint.submittedToken)
    (latest : ∀ token, checkpoint.submitted = true → checkpoint.submittedToken = some token →
      LatestAll reached.stalePolls (ActiveWith token)
        (descriptions (sinceAcknowledged history) ++ descriptions new)) :
    Tracks (history ++ new) reached where
  submitted := by
    rw [flag, tracks.submitted, acknowledged_append, or_iff_left quiet]
  token := by
    intro cluster token desired operation member
    rw [kept]
    rcases List.mem_append.mp member with earlier | now
    · exact tracks.token cluster token desired operation earlier
    · exact absurd ⟨_, now, rfl⟩ quiet
  latest := by
    intro token submitted same
    rw [sinceAcknowledged_append quiet, descriptions_append]
    exact latest token (flag ▸ submitted) (kept ▸ same)

/-- A submission that is acknowledged starts the count anew. -/
theorem append_accepted (tracks : Tracks history checkpoint) {operation : String}
    (flag : reached.submitted = true) (now : reached.submittedToken = some token)
    (same : checkpoint.submitted = true → checkpoint.submittedToken = some token)
    (none : reached.stalePolls = 0) :
    Tracks (history ++ [described cluster (.ok description),
      submission cluster token desired (.ok operation)]) reached where
  submitted :=
    ⟨fun _ => acknowledged_append.mpr (.inr (acknowledged_submission operation)), fun _ => flag⟩
  token := by
    intro otherCluster other otherDesired otherOperation member
    rw [now]
    rcases List.mem_append.mp member with earlier | here
    · rw [← same (tracks.submitted.mpr ⟨_, earlier, rfl⟩)]
      exact tracks.token otherCluster other otherDesired otherOperation earlier
    · rcases List.mem_pair.mp here with absurd | found
      · cases absurd
      · cases found
        rfl
  latest := by
    intro other _ _
    rw [none]
    exact .zero _ _

/-- One more description of an active cluster with the token. -/
theorem latest_succ (tracks : Tracks history checkpoint) (watching : checkpoint.submitted = true)
    (active : description.state.isActive = true)
    (same : checkpoint.submittedToken = some description.versionToken) :
    LatestAll (checkpoint.stalePolls + 1) (ActiveWith description.versionToken)
      (descriptions (sinceAcknowledged history) ++ [description]) :=
  (tracks.latest _ watching same).concat ⟨active, rfl⟩

/-- A step that goes on leaves a checkpoint that is right about the longer history. -/
theorem step {threshold : Nat} {log : List Exchange} (tracks : Tracks history checkpoint)
    (taken : Taken threshold cluster desired checkpoint log (.ok reached))
    (unstable : reached.phase ≠ .stable) : Tracks (history ++ log) reached := by
  generalize whole : (.ok reached : Outcome Checkpoint) = outcome at taken
  cases taken with
  | undescribed failure => cases whole
  | lost description permanent => cases whole
  | waiting description fresh passing inactive =>
      cases whole
      refine tracks.append_quiet (not_acknowledged_described _) rfl rfl ?_
      intro token watching
      rw [fresh] at watching
      cases watching
  | desired description fresh active same =>
      cases whole
      exact absurd rfl unstable
  | submitted description reply fresh active different =>
      cases reply with
      | error failure => cases whole
      | ok operation =>
          cases whole
          refine tracks.append_accepted rfl rfl ?_ rfl
          intro watching
          rw [fresh] at watching
          cases watching
  | applying description watching passing inactive =>
      cases whole
      exact tracks.append_quiet (not_acknowledged_described _) rfl rfl fun _ _ _ => .zero _ _
  | effective description watching active moved =>
      cases whole
      exact absurd rfl unstable
  | stale description watching active same below =>
      cases whole
      refine tracks.append_quiet (not_acknowledged_described _) rfl rfl ?_
      intro token _ now
      obtain rfl : description.versionToken = token := Option.some.inj (same.symm.trans now)
      exact (tracks.latest_succ watching active same).of_le (Nat.mod_le _ _)
  | resubmitted description reply watching active same reached =>
      cases reply with
      | error failure => cases whole
      | ok operation =>
          cases whole
          exact tracks.append_accepted watching same (fun _ => same) rfl

/-- A step that fails for the time being leaves the checkpoint right about the longer history. -/
theorem keep {threshold : Nat} {log : List Exchange} {failure : Failure}
    (tracks : Tracks history checkpoint)
    (taken : Taken threshold cluster desired checkpoint log (.error failure))
    (transient : failure.isTransient = true) : Tracks (history ++ log) checkpoint := by
  generalize whole : (.error failure : Outcome Checkpoint) = outcome at taken
  cases taken with
  | undescribed failure =>
      refine tracks.append_quiet (not_acknowledged_described _) rfl rfl ?_
      intro token watching same
      show LatestAll _ _ (_ ++ [])
      rw [List.append_nil]
      exact tracks.latest token watching same
  | lost description permanent =>
      cases whole
      cases transient
  | waiting description fresh passing inactive => cases whole
  | desired description fresh active same => cases whole
  | submitted description reply fresh active different =>
      cases reply with
      | ok operation => cases whole
      | error failure =>
          refine tracks.append_quiet (not_acknowledged_refused _) rfl rfl ?_
          intro token watching
          rw [fresh] at watching
          cases watching
  | applying description watching passing inactive => cases whole
  | effective description watching active moved => cases whole
  | stale description watching active same below => cases whole
  | resubmitted description reply watching active same reached =>
      cases reply with
      | ok operation => cases whole
      | error failure =>
          refine tracks.append_quiet (not_acknowledged_refused _) rfl rfl ?_
          intro token _ now
          obtain rfl : description.versionToken = token := Option.some.inj (same.symm.trans now)
          exact (tracks.latest_succ watching active same).of_le (Nat.le_succ _)

end Tracks

/-! ## Runs -/

variable {settings : Settings.Engine} {event : Event} {startedAt : Timestamp} {target : Target}
  {standing : Standing}

/-- As long as a run goes on, the checkpoint it carries is right about its history. -/
theorem run_tracks {logs : List (List Exchange)}
    (kind : ResourceKind.ofName event.resourceType = .ok .connectivityUpdate)
    (changes : event.request ≠ .delete) (declared : declaredTarget event = .ok target)
    (run : Run settings event startedAt logs standing) (isOpen : standing.isOpen = true) :
    ∃ checkpoint, Carries target standing checkpoint ∧ Tracks logs.flatten checkpoint := by
  obtain ⟨cluster, referred⟩ := reference_of_declaredTarget declared
  refine run_invariant kind changes declared referred (Tracks.initial target) ?_ ?_ run isOpen
  · intro history checkpoint log reached tracks taken unstable
    exact tracks.step taken unstable
  · intro history checkpoint log failure tracks taken transient
    exact tracks.keep taken transient

/-- An event whose target is not declared well asks nothing at all. -/
theorem attempt_silent {failure : Failure} {log : List Exchange} {after : Standing}
    (kind : ResourceKind.ofName event.resourceType = .ok .connectivityUpdate)
    (changes : event.request ≠ .delete) (undeclared : declaredTarget event = .error failure)
    (concerns : ∀ continuation, standing = .pending continuation →
      Engine.Concerns event continuation)
    (isOpen : standing.isOpen = true)
    (ends : (attempt settings event startedAt standing).Ends log after) : log = [] := by
  cases standing with
  | unanswered => exact (attempt_of_undeclared kind changes undeclared ends).1
  | pending continuation =>
      obtain ⟨id, same, -⟩ := concerns continuation rfl
      have routed : Engine.route settings event = .ok (handler settings.connectivity) :=
        Engine.route_of_ofName kind
      rw [Engine.attempt_pending ((concerns continuation rfl).route_eq.trans routed)] at ends
      obtain ⟨outcome, checked, rfl⟩ := Dialogue.ends_bind_done.mp ends
      have stepped : Flow.Ends (check settings.connectivity.afterStalePolls continuation) log
          outcome := checked
      unfold check at stepped
      rw [same, if_neg fun asked => changes (beq_iff_eq.mp asked), declaredTarget_withId,
        undeclared] at stepped
      exact (Flow.ends_ofOutcome.mp stepped).1
  | completed id data => cases isOpen
  | failed failure => cases isOpen

/-! ## Submissions -/

/-- What a step has seen when it submits. -/
theorem Taken.of_submission {threshold : Nat} {wanted : Cluster.Settings} {log : List Exchange}
    {own : Cluster.Reference} {checkpoint : Checkpoint} {outcome : Outcome Checkpoint}
    {reply : Outcome String} (taken : Taken threshold own wanted checkpoint log outcome)
    (member : submission cluster token desired reply ∈ log) :
    ∃ description, ActiveWith token description ∧
      log = [described own (.ok description), submission own token wanted reply] ∧
      cluster = own ∧ desired = wanted ∧
      (checkpoint.submitted = true →
        checkpoint.submittedToken = some token ∧ threshold ≤ checkpoint.stalePolls + 1) := by
  cases taken with
  | submitted description answer fresh active different =>
      rcases List.mem_pair.mp member with absurd | here
      · cases absurd
      · cases here
        refine ⟨description, ⟨active, rfl⟩, rfl, rfl, rfl, ?_⟩
        intro watching
        rw [fresh] at watching
        cases watching
  | resubmitted description answer watching active same reached =>
      rcases List.mem_pair.mp member with absurd | here
      · cases absurd
      · cases here
        exact ⟨description, ⟨active, rfl⟩, rfl, rfl, rfl, fun _ =>
          ⟨same, reached.trans (Nat.mod_le _ _)⟩⟩
  | _ => cases List.mem_singleton.mp member

/-- **A change is submitted once in a step, for the description just made, and again only for the
same token and after enough descriptions of an active cluster with it.** -/
theorem submissions_regular {earlier later : List (List Exchange)} {log : List Exchange}
    {reply : Outcome String}
    (kind : ResourceKind.ofName event.resourceType = .ok .connectivityUpdate)
    (changes : event.request ≠ .delete)
    (decoded : event.declared Target.codec.decode = .ok target)
    (run : Run settings event startedAt (earlier ++ log :: later) standing)
    (member : submission cluster token desired reply ∈ log) :
    (target.reference = .ok cluster ∧ desired = target.desired ∧
      ∃ description, ActiveWith token description ∧
        log = [described cluster (.ok description), submission cluster token desired reply]) ∧
    (∀ other before settled operation,
      submission other before settled (.ok operation) ∈ earlier.flatten → before = token) ∧
    (Acknowledged earlier.flatten →
      LatestAll settings.connectivity.afterStalePolls (ActiveWith token)
        (descriptions (sinceAcknowledged earlier.flatten ++ log))) := by
  rw [List.append_cons] at run
  obtain ⟨middle, shorter⟩ := run.upTo
  obtain ⟨before, run, isOpen, ends⟩ := shorter.last
  cases referred : target.reference with
  | error failure =>
      have undeclared : declaredTarget event = .error failure := by
        unfold declaredTarget
        rw [decoded]
        show (do let _ ← target.reference; pure target) = _
        rw [referred]
        rfl
      rw [attempt_silent kind changes undeclared run.concerns isOpen ends] at member
      cases member
  | ok own =>
      have declared : declaredTarget event = .ok target := by
        unfold declaredTarget
        rw [decoded]
        show (do let _ ← target.reference; pure target) = _
        rw [referred]
        rfl
      obtain ⟨checkpoint, carries, tracks⟩ := run_tracks kind changes declared run isOpen
      obtain ⟨outcome, stepped, -⟩ :=
        attempt_leads kind changes declared run.concerns carries ends
      obtain ⟨description, active, rfl, rfl, rfl, again⟩ :=
        (step_taken referred stepped).of_submission member
      refine ⟨⟨rfl, rfl, description, active, rfl⟩, ?_, ?_⟩
      · intro other first settled operation accepted
        have same := tracks.token other first settled operation accepted
        have watching := tracks.submitted.mpr ⟨_, accepted, rfl⟩
        exact Option.some.inj (same.symm.trans (again watching).1)
      · intro accepted
        have watching := tracks.submitted.mpr accepted
        obtain ⟨same, reached⟩ := again watching
        rw [descriptions_append]
        exact ((tracks.latest token watching same).concat active).of_le reached

/-! ## A submission that is lost -/

/-- A cluster. -/
def orders : Cluster.Reference :=
  ⟨"arn:aws:kafka:eu-west-1:123456789012:cluster/orders/7", "orders"⟩

/-- The declaration that opens the cluster to the public. -/
def opening : Event :=
  { request := .create
    resourceType := "ConnectivityUpdate"
    properties := [("clusterArn", .text orders.arn), ("publicAccess", .bool true)]
    oldProperties := none
    physicalId := none }

/-- The cluster before it has been opened. -/
def closed : Cluster.Description :=
  { state := .active, versionToken := "K1", endpoints := [], connectivity := none }

/-- The attempts up to the one that submits again: the submission, a description that fails, and
one that still shows the old token. -/
def unheeded : List (List Exchange) :=
  [[described orders (.ok closed), submission orders "K1" ⟨true, false, false⟩ (.ok "first")],
    [described orders (.error (.transient "throttled"))],
    [described orders (.ok closed)]]

/-- The attempt that submits again. -/
def repeated : List Exchange :=
  [described orders (.ok closed), submission orders "K1" ⟨true, false, false⟩ (.ok "second")]

theorem submissions_regular_repeated :
    ∃ standing,
      Run { connectivity := ⟨2⟩ } opening Rehearsal.beginning (unheeded ++ repeated :: [])
        standing ∧
      (∀ other before settled operation,
        submission other before settled (.ok operation) ∈ unheeded.flatten → before = "K1") ∧
      Acknowledged unheeded.flatten ∧
      LatestAll 2 (ActiveWith "K1")
        (descriptions (sinceAcknowledged unheeded.flatten ++ repeated)) := by
  have runs : ∃ standing, Run { connectivity := ⟨2⟩ } opening Rehearsal.beginning
      (unheeded ++ repeated :: []) standing := Engine.exists_run (by decide +kernel)
  obtain ⟨standing, run⟩ := runs
  have decoded : opening.declared Target.codec.decode =
      .ok ⟨orders.arn, true, false, false, none⟩ := by decide +kernel
  have accepted : Acknowledged unheeded.flatten :=
    ⟨submission orders "K1" ⟨true, false, false⟩ (.ok "first"), .tail _ (.head _), rfl⟩
  obtain ⟨-, same, latest⟩ :=
    submissions_regular (by decide +kernel) (by decide) decoded run (List.mem_pair.mpr (.inr rfl))
  exact ⟨standing, run, same, accepted, latest accepted⟩

end Provision.Connectivity
