import Provision.Proofs.Namespace.Convergence

/-!
# When a change is submitted again

After a change has been acknowledged, the next one is submitted by the first step whose read finds
the old values when the threshold has been reached by the reads before it that found them, all
since the acknowledgement (`change_resent_iff`). The reads that count need not follow on each
other: a read that finds no namespace, or one in another status, does not start the count anew, so
the latest reads are all of old values only if none of them was such a read
(`stale_polls_interrupted` is a run in which one was).
-/

set_option autoImplicit false

namespace Provision.Namespace

open Engine (Run Standing)
open Lifecycle (Event ResourceKind)
open Time (Timestamp)

variable {threshold : Nat} {spec : Spec} {checkpoint : Properties} {history log : List Exchange}
  {outcome : Outcome Progress}

/-- After a submission a step submits the change exactly if its read finds the old values and the
threshold is reached. -/
theorem Taken.mem_change_iff (taken : Taken threshold spec checkpoint log outcome)
    (submitted : isSubmitted checkpoint = true) :
    (∃ answer, change spec answer ∈ log) ↔
      (∃ current, read spec.name (.ok (some current)) ∈ log ∧ Stale spec current) ∧
        threshold ≤ stalePolls checkpoint := by
  constructor
  · rintro ⟨answer, member⟩
    cases taken with
    | changed current reply stale due =>
        exact ⟨⟨current, List.mem_pair.mpr (.inl rfl), stale⟩, due submitted⟩
    | created reply fresh =>
        rw [fresh] at submitted
        cases submitted
    | _ => cases List.mem_singleton.mp member
  · rintro ⟨⟨current, member, stale⟩, reached⟩
    cases taken with
    | changed _ reply _ due => exact ⟨reply, List.mem_pair.mpr (.inr rfl)⟩
    | counted _ _ _ below => exact absurd reached (Nat.not_le_of_lt below)
    | settled _ settled =>
        cases List.mem_singleton.mp member
        exact absurd settled stale.not_settled
    | refused _ message hopeless =>
        cases List.mem_singleton.mp member
        exact absurd stale.1 hopeless.not_usable
    | passing _ agrees elsewhere =>
        cases List.mem_singleton.mp member
        have available := stale.1.1
        rcases elsewhere with modifying | unknown
        · rw [available] at modifying
          cases modifying
        · rw [available] at unknown
          cases unknown
    | created reply fresh =>
        rw [fresh] at submitted
        cases submitted
    | unread failure => cases List.mem_singleton.mp member
    | unseen _ => cases List.mem_singleton.mp member

/-- The latest reads have all found the old values if they have all found the namespace available:
any other read of an available namespace would have ended the run. -/
theorem Tracks.latest_stale_iff (tracks : Tracks threshold spec history checkpoint) (count : Nat) :
    LatestAll count (FoundStale spec) (readings (sinceAcknowledged history)) ↔
      LatestAll count FoundAvailable (readings (sinceAcknowledged history)) := by
  constructor
  · intro stale
    refine stale.imp ?_
    rintro found - ⟨current, here, old⟩
    exact ⟨current, here, old.1.1⟩
  · intro available
    refine available.imp ?_
    rintro found member ⟨current, here, status⟩
    obtain ⟨exchange, since, finds⟩ := List.mem_filterMap.mp member
    have earlier : some current ∈ readings history :=
      List.mem_filterMap.mpr
        ⟨exchange, mem_of_mem_sinceAcknowledged since, finds.trans (congrArg some here)⟩
    exact ⟨current, here, tracks.stale current earlier status⟩

/-- **After an acknowledged change, the change is submitted again exactly if the old values are
read and have been read often enough since; the latest reads were then all of old values exactly
if all of them found the namespace available.** -/
theorem change_resent_iff {settings : Settings.Engine} {event : Event} {startedAt : Timestamp}
    {standing : Standing} {earlier later : List (List Exchange)}
    (kind : ResourceKind.ofName event.resourceType = .ok .warehouseNamespace)
    (changes : event.request ≠ .delete) (declared : declaration event = .ok spec)
    (named : event.request = .update → physicalId event = .ok spec.name)
    (run : Run settings event startedAt (earlier ++ log :: later) standing)
    (accepted : Acknowledged earlier.flatten) :
    ((∃ answer, change spec answer ∈ log) ↔
      (∃ current, read spec.name (.ok (some current)) ∈ log ∧ Stale spec current) ∧
        settings.namespaces.afterStalePolls ≤
          staleReads spec (sinceAcknowledged earlier.flatten)) ∧
    (LatestAll settings.namespaces.afterStalePolls (FoundStale spec)
        (readings (sinceAcknowledged earlier.flatten)) ↔
      LatestAll settings.namespaces.afterStalePolls FoundAvailable
        (readings (sinceAcknowledged earlier.flatten))) := by
  rw [List.append_cons] at run
  obtain ⟨middle, shorter⟩ := run.upTo
  obtain ⟨before, run, isOpen, ends⟩ := shorter.last
  obtain ⟨checkpoint, carries, tracks⟩ := run_tracks kind changes declared named run isOpen
  obtain ⟨outcome, stepped, -⟩ :=
    attempt_leads kind changes declared named run.concerns carries ends
  have submitted := tracks.submitted.mpr accepted
  refine ⟨?_, tracks.latest_stale_iff _⟩
  rw [(converge_taken stepped).mem_change_iff submitted, tracks.due_iff submitted]

/-! ## Old values with an interruption -/

/-- The change is submitted, the old values are read once, and the namespace is seen to be
modified. -/
def interrupted : List (List Exchange) :=
  [[read "sales" (.ok (some (sales .available []))),
      change audited (.ok (sales .available ["useractivitylog"]))],
    [read "sales" (.ok (some (sales .available [])))],
    [read "sales" (.ok (some (sales .modifying [])))]]

/-- The old values are read, and the change is submitted again. -/
def resent : List Exchange :=
  [read "sales" (.ok (some (sales .available []))),
    change audited (.ok (sales .available ["useractivitylog"]))]

theorem interrupted_acknowledged : Acknowledged interrupted.flatten :=
  ⟨change audited (.ok (sales .available ["useractivitylog"])), .tail _ (.head _), rfl⟩

theorem exists_run_interrupted :
    ∃ standing, Run { namespaces := ⟨1⟩ } auditing Rehearsal.beginning (interrupted ++ resent :: [])
      standing :=
  Engine.exists_run (by decide +kernel)

theorem change_resent_interrupted :
    (∃ standing, Run { namespaces := ⟨1⟩ } auditing Rehearsal.beginning
      (interrupted ++ resent :: []) standing) ∧
    Acknowledged interrupted.flatten ∧
    1 ≤ staleReads audited (sinceAcknowledged interrupted.flatten) := by
  obtain ⟨standing, run⟩ := exists_run_interrupted
  have declared : declaration auditing = .ok audited := by decide +kernel
  have named : physicalId auditing = .ok audited.name := by decide +kernel
  have resends : ∃ answer, change audited answer ∈ resent := ⟨_, List.mem_pair.mpr (.inr rfl)⟩
  obtain ⟨sent, -⟩ := change_resent_iff (by decide +kernel) (by decide) declared (fun _ => named)
    run interrupted_acknowledged
  exact ⟨⟨standing, run⟩, interrupted_acknowledged, (sent.mp resends).2⟩

/-- **Polls with old values need not be consecutive**: the change is submitted again although the
read right before found the namespace in another status. -/
theorem stale_polls_interrupted :
    (∃ standing, Run { namespaces := ⟨1⟩ } auditing Rehearsal.beginning
      (interrupted ++ resent :: []) standing) ∧
    Acknowledged interrupted.flatten ∧ (∃ answer, change audited answer ∈ resent) ∧
    ¬ LatestAll 1 (FoundStale audited) (readings (sinceAcknowledged interrupted.flatten)) := by
  refine ⟨exists_run_interrupted, interrupted_acknowledged, ⟨_, List.mem_pair.mpr (.inr rfl)⟩, ?_⟩
  rintro ⟨older, latest, seen, counted, stale⟩
  obtain ⟨one, rfl⟩ := List.length_eq_one_iff.mp counted
  have last : one = some (sales .modifying []) := by
    have here : readings (sinceAcknowledged interrupted.flatten) =
        [some (sales .available [])] ++ [some (sales .modifying [])] := by decide
    exact List.singleton_inj.mp (List.append_inj_right' (seen.symm.trans here) rfl)
  obtain ⟨current, found, old⟩ := stale one (List.mem_singleton.mpr rfl)
  rw [last] at found
  cases found
  exact absurd old.1.1 (by decide)

end Provision.Namespace
