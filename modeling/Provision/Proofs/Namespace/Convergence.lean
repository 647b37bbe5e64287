import Provision.Proofs.Namespace.History
import Provision.Rehearsal.Stage

/-!
# How a run comes to the declared namespace

Each step reads the namespace once and then submits at most one change. It creates the namespace
only if it has found none and no change has been acknowledged before, and it changes the namespace
only if it is available and not yet as declared. What cannot become as declared is a conflict, and
the run completes with the first read of what is declared. Once a change has been acknowledged,
every continuation knows of it, and the next change waits until enough reads have found the old
values (`steps_convergent`).
-/

set_option autoImplicit false

namespace Provision.Namespace

open Engine (Run Standing attempt)
open Lifecycle (Continuation Event ResourceKind)
open Time (Timestamp)

/-! ## Steps -/

variable {threshold : Nat} {spec : Spec} {checkpoint : Properties} {current : Description}
  {reply : Outcome (Option Description)} {log calls : List Exchange} {outcome : Outcome Progress}

/-- A step reads the namespace once, and then submits at most one change. -/
theorem Taken.log_eq (taken : Taken threshold spec checkpoint log outcome) :
    ∃ reply calls, log = read spec.name reply :: calls ∧
      (calls = [] ∨
        (∃ answer, calls = [creation spec answer] ∧ reply = .ok none ∧
          isSubmitted checkpoint = false) ∨
        ∃ answer current, calls = [change spec answer] ∧ reply = .ok (some current) ∧
          Stale spec current ∧
          (isSubmitted checkpoint = true → threshold ≤ stalePolls checkpoint)) := by
  cases taken with
  | changed current answer stale due =>
      exact ⟨_, _, rfl, .inr (.inr ⟨answer, current, rfl, rfl, stale, due⟩)⟩
  | created answer fresh => exact ⟨_, _, rfl, .inr (.inl ⟨answer, rfl, rfl, fresh⟩)⟩
  | _ => exact ⟨_, _, rfl, .inl rfl⟩

theorem Taken.refused_of_hopeless
    (taken : Taken threshold spec checkpoint (read spec.name (.ok (some current)) :: calls) outcome)
    (hopeless : Hopeless spec current) :
    calls = [] ∧ ∃ message, outcome = .error (.conflict message) := by
  cases taken with
  | refused _ message _ => exact ⟨rfl, message, rfl⟩
  | settled _ settled => exact absurd settled.1 hopeless.not_usable
  | passing _ agrees elsewhere =>
      rcases hopeless with conflict | deleting
      · exact absurd agrees conflict
      · rcases elsewhere with modifying | unknown
        · rw [deleting] at modifying
          cases modifying
        · rw [deleting] at unknown
          cases unknown
  | counted _ stale submitted below => exact absurd stale.1 hopeless.not_usable
  | changed _ answer stale due => exact absurd stale.1 hopeless.not_usable

theorem Taken.finished_iff
    (taken : Taken threshold spec checkpoint (read spec.name reply :: calls) outcome)
    (data : Properties) :
    outcome = .ok (.finished data) ↔
      ∃ current, reply = .ok (some current) ∧ Settled spec current ∧ data = output current := by
  constructor
  · rintro rfl
    generalize whole : (.ok (.finished data) : Outcome Progress) = outcome at taken
    cases taken with
    | settled current settled =>
        cases whole
        exact ⟨current, rfl, settled, rfl⟩
    | changed current answer stale due => cases answer <;> cases whole
    | created answer fresh => cases answer <;> cases whole
    | _ => cases whole
  · rintro ⟨current, rfl, settled, rfl⟩
    cases taken with
    | refused _ message hopeless => exact absurd settled.1 hopeless.not_usable
    | settled _ _ => rfl
    | passing _ agrees elsewhere =>
        have available := settled.1.1
        rcases elsewhere with modifying | unknown
        · rw [available] at modifying
          cases modifying
        · rw [available] at unknown
          cases unknown
    | counted _ stale submitted below => exact absurd settled stale.not_settled
    | changed _ answer stale due => exact absurd settled stale.not_settled

/-! ## Where a step leads -/

variable {standing : Standing}

theorem Leads.completed_iff (leads : Leads spec checkpoint outcome standing) (id : String)
    (data : Properties) :
    standing = .completed id data ↔ id = spec.name ∧ outcome = .ok (.finished data) := by
  constructor
  · rintro rfl
    cases leads
    exact ⟨rfl, rfl⟩
  · rintro ⟨rfl, rfl⟩
    cases leads
    rfl

theorem Leads.failed_of_conflict {message : String}
    (leads : Leads spec checkpoint (.error (.conflict message)) standing) :
    standing = .failed (.conflict message) := by
  cases leads with
  | retries transient carries => cases transient
  | fails terminal => rfl

/-! ## Creations -/

/-- Whether the exchange is a creation that the warehouse has accepted. -/
def creates : Exchange → Bool
  | ⟨.createNamespace _, some (.ok _)⟩ => true
  | _ => false

theorem acknowledges_of_creates {exchange : Exchange} (created : creates exchange = true) :
    exchange.acknowledges = true := by
  unfold creates at created
  split at created
  · rfl
  · cases created

theorem countP_creates_of_not_acknowledged {history : List Exchange}
    (quiet : ¬ Acknowledged history) : history.countP creates = 0 := by
  refine List.countP_eq_zero.mpr ?_
  intro exchange member created
  exact quiet ⟨exchange, member, acknowledges_of_creates created⟩

variable {settings : Settings.Engine} {event : Event} {startedAt : Timestamp}

/-- A run has at most one acknowledged creation. -/
theorem run_countP_creates {logs : List (List Exchange)}
    (kind : ResourceKind.ofName event.resourceType = .ok .warehouseNamespace)
    (changes : event.request ≠ .delete) (declared : declaration event = .ok spec)
    (named : event.request = .update → physicalId event = .ok spec.name)
    (run : Run settings event startedAt logs standing) : logs.flatten.countP creates ≤ 1 := by
  induction run with
  | start => exact Nat.zero_le 1
  | step run isOpen ends ih =>
      obtain ⟨checkpoint, carries, tracks⟩ := run_tracks kind changes declared named run isOpen
      obtain ⟨outcome, stepped, -⟩ :=
        attempt_leads kind changes declared named run.concerns carries ends
      obtain ⟨reply, calls, rfl, none | ⟨answer, rfl, -, fresh⟩ | ⟨answer, current, rfl, -⟩⟩ :=
        (converge_taken stepped).log_eq
      · rw [List.flatten_concat, List.countP_append, none]
        exact ih
      · have quiet := countP_creates_of_not_acknowledged fun accepted =>
          Bool.false_ne_true (fresh.symm.trans (tracks.submitted.mpr accepted))
        rw [List.flatten_concat, List.countP_append, quiet, Nat.zero_add]
        exact List.countP_le_length (l := [creation spec answer])
      · rw [List.flatten_concat, List.countP_append]
        exact ih

/-! ## Runs -/

/-- **Every step of a run reads once and submits at most one change, and only the one that its
read calls for; the run ends as soon as a read settles it.** Each step of a run is the last one of
a shorter run. -/
theorem steps_convergent {earlier : List (List Exchange)}
    (kind : ResourceKind.ofName event.resourceType = .ok .warehouseNamespace)
    (changes : event.request ≠ .delete) (declared : declaration event = .ok spec)
    (named : event.request = .update → physicalId event = .ok spec.name)
    (run : Run settings event startedAt (earlier ++ [log]) standing) :
    (∃ reply calls, log = read spec.name reply :: calls ∧
      (calls = [] ∨
        (∃ answer, calls = [creation spec answer] ∧ reply = .ok none ∧
          ¬ Acknowledged earlier.flatten) ∨
        ∃ answer current, calls = [change spec answer] ∧ reply = .ok (some current) ∧
          Stale spec current ∧
          (Acknowledged earlier.flatten → settings.namespaces.afterStalePolls ≤
            staleReads spec (sinceAcknowledged earlier.flatten))) ∧
      (∀ current, reply = .ok (some current) → Hopeless spec current →
        calls = [] ∧ ∃ message, standing = .failed (.conflict message)) ∧
      ∀ id data, standing = .completed id data ↔
        id = spec.name ∧
          ∃ current, reply = .ok (some current) ∧ Settled spec current ∧ data = output current) ∧
    (earlier ++ [log]).flatten.countP creates ≤ 1 ∧
    (Acknowledged (earlier ++ [log]).flatten →
      ∀ continuation, standing = .pending continuation →
        isSubmitted continuation.checkpoint = true) := by
  obtain ⟨before, shorter, isOpen, ends⟩ := run.last
  obtain ⟨checkpoint, carries, tracks⟩ := run_tracks kind changes declared named shorter isOpen
  obtain ⟨outcome, stepped, leads⟩ :=
    attempt_leads kind changes declared named shorter.concerns carries ends
  have taken := converge_taken stepped
  refine ⟨?_, run_countP_creates kind changes declared named run, ?_⟩
  · obtain ⟨reply, calls, rfl, submits⟩ := taken.log_eq
    refine ⟨reply, calls, rfl, ?_, ?_, ?_⟩
    · rcases submits with
        none | ⟨answer, created, missing, fresh⟩ | ⟨answer, current, changed, found, stale, due⟩
      · exact .inl none
      · refine .inr (.inl ⟨answer, created, missing, ?_⟩)
        rw [← tracks.submitted, fresh]
        exact Bool.false_ne_true
      · refine .inr (.inr ⟨answer, current, changed, found, stale, ?_⟩)
        intro accepted
        have submitted := tracks.submitted.mpr accepted
        exact (tracks.due_iff submitted).mp (due submitted)
    · rintro current rfl hopeless
      obtain ⟨none, message, rfl⟩ := taken.refused_of_hopeless hopeless
      exact ⟨none, message, leads.failed_of_conflict⟩
    · intro id data
      rw [leads.completed_iff, taken.finished_iff]
  · rintro accepted continuation rfl
    obtain ⟨reached, carried, known⟩ := run_tracks kind changes declared named run rfl
    cases carried with
    | pending about => exact known.submitted.mpr accepted

/-! ## An update that takes its time -/

/-- The declaration of a namespace with an audit log. -/
def auditing : Event :=
  { request := .update
    resourceType := "Namespace"
    properties :=
      [("namespaceName", .text "sales"), ("logExports", .list [.text "useractivitylog"])]
    oldProperties := none
    physicalId := some "sales" }

/-- The declared namespace. -/
def audited : Spec :=
  { name := "sales", dbName := "dev", adminUsername := none, kmsKeyId := none, iamRoles := []
    defaultIamRole := none, logExports := ["useractivitylog"] }

/-- The namespace in a status, with the log exports. -/
def sales (status : Status) (logExports : List String) : Description :=
  { name := "sales", id := "1", arn := "arn:aws:redshift-serverless:eu-west-1:1:namespace/1", status
    dbName := "dev", adminUsername := none, kmsKeyId := none, iamRoles := []
    defaultIamRole := none, logExports }

/-- The change is submitted, and the namespace is seen to be at it. -/
def awaited : List (List Exchange) :=
  [[read "sales" (.ok (some (sales .available []))),
      change audited (.ok (sales .modifying ["useractivitylog"]))],
    [read "sales" (.error (.transient "throttled"))],
    [read "sales" (.ok (some (sales .modifying ["useractivitylog"])))]]

/-- The namespace is read as declared. -/
def arrived : List Exchange :=
  [read "sales" (.ok (some (sales .available ["useractivitylog"])))]

theorem steps_convergent_arrived :
    ∃ standing, Run {} auditing Rehearsal.beginning (awaited ++ [arrived]) standing ∧
      standing = .completed "sales" (output (sales .available ["useractivitylog"])) ∧
      (awaited ++ [arrived]).flatten.countP creates ≤ 1 := by
  have runs : ∃ standing, Run {} auditing Rehearsal.beginning (awaited ++ [arrived]) standing :=
    Engine.exists_run (by decide +kernel)
  obtain ⟨standing, run⟩ := runs
  have declared : declaration auditing = .ok audited := by decide +kernel
  have named : physicalId auditing = .ok audited.name := by decide +kernel
  obtain ⟨⟨reply, calls, same, -, -, completes⟩, once, -⟩ :=
    steps_convergent (by decide +kernel) (by decide) declared (fun _ => named) run
  cases same
  have settled : Settled audited (sales .available ["useractivitylog"]) :=
    ⟨⟨rfl, by decide +kernel⟩, by decide +kernel⟩
  exact ⟨standing, run, (completes _ _).mpr ⟨rfl, _, rfl, settled, rfl⟩, once⟩

end Provision.Namespace
