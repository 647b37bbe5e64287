import Provision.Proofs.Engine.History
import Provision.Proofs.Namespace.Run

/-!
# What a checkpoint tells of a namespace's history

The checkpoint is all that the steps know of the history. `Tracks` says what it tells of it: the
flag tells whether a change has been acknowledged, and the count of stale polls how many reads
since the latest one have found the old values, up to the threshold. A read that finds no
namespace, or one in another status, leaves the count as it is.
-/

set_option autoImplicit false

namespace Provision.Namespace

open Engine (Run Standing attempt)
open Lifecycle (Event ResourceKind)
open Time (Timestamp)

/-! ## Reads in a history -/

/-- What a successful read has found. -/
def found? : Exchange → Option (Option Description)
  | ⟨.getNamespace _, some (.ok found)⟩ => some found
  | _ => none

/-- What the successful reads in a history have found, in order. -/
def readings (history : List Exchange) : List (Option Description) :=
  history.filterMap found?

/-- The read has found a namespace that is available. -/
def FoundAvailable (found : Option Description) : Prop :=
  ∃ current ∈ found, current.status = .available

/-- The read has found a namespace that could be as declared, and is not. -/
def FoundStale (spec : Spec) (found : Option Description) : Prop :=
  ∃ current ∈ found, Stale spec current

instance (spec : Spec) (current : Description) : Decidable (Usable spec current) :=
  inferInstanceAs (Decidable (_ ∧ _))

instance (spec : Spec) (current : Description) : Decidable (Stale spec current) :=
  inferInstanceAs (Decidable (_ ∧ _))

instance (spec : Spec) : DecidablePred (FoundStale spec) := fun found =>
  inferInstanceAs (Decidable (∃ current ∈ found, Stale spec current))

/-- How many reads in a history have found the old values. -/
def staleReads (spec : Spec) (history : List Exchange) : Nat :=
  (readings history).countP fun found => decide (FoundStale spec found)

variable {spec : Spec} {history new : List Exchange} {current : Description}

theorem readings_append (history new : List Exchange) :
    readings (history ++ new) = readings history ++ readings new :=
  List.filterMap_append

theorem staleReads_append (spec : Spec) (history new : List Exchange) :
    staleReads spec (history ++ new) = staleReads spec history + staleReads spec new := by
  unfold staleReads
  rw [readings_append, List.countP_append]

theorem foundStale_some : FoundStale spec (some current) ↔ Stale spec current := by
  constructor
  · rintro ⟨found, member, stale⟩
    cases member
    exact stale
  · intro stale
    exact ⟨current, rfl, stale⟩

theorem not_foundStale_none : ¬ FoundStale spec none := by
  rintro ⟨found, member, -⟩
  cases member

theorem staleReads_of_stale {rest : List Exchange} {name : String} (stale : Stale spec current)
    (only : readings rest = []) :
    staleReads spec (read name (.ok (some current)) :: rest) = 1 := by
  have seen : readings (read name (.ok (some current)) :: rest) = some current :: readings rest :=
    rfl
  unfold staleReads
  rw [seen, only, List.countP_singleton, decide_eq_true (foundStale_some.mpr stale), if_pos rfl]

theorem staleReads_of_not {rest : List Exchange} {name : String} {found : Option Description}
    (other : ¬ FoundStale spec found) (only : readings rest = []) :
    staleReads spec (read name (.ok found) :: rest) = 0 := by
  have seen : readings (read name (.ok found) :: rest) = found :: readings rest := rfl
  unfold staleReads
  rw [seen, only, List.countP_singleton, decide_eq_false other, if_neg Bool.false_ne_true]

/-! ## Acknowledged changes of a step -/

variable {name : String} {reply : Outcome (Option Description)}

theorem not_acknowledged_read : ¬ Acknowledged [read name reply] := by
  rintro ⟨exchange, member, accepted⟩
  rw [List.mem_singleton.mp member] at accepted
  cases accepted

theorem not_acknowledged_refused_change (failure : Failure) :
    ¬ Acknowledged [read name reply, change spec (.error failure)] := by
  rintro ⟨exchange, member, accepted⟩
  rcases List.mem_pair.mp member with rfl | rfl <;> cases accepted

theorem not_acknowledged_refused_creation (failure : Failure) :
    ¬ Acknowledged [read name reply, creation spec (.error failure)] := by
  rintro ⟨exchange, member, accepted⟩
  rcases List.mem_pair.mp member with rfl | rfl <;> cases accepted

/-! ## What a checkpoint tells of the history -/

/-- The checkpoint is right about the history. -/
structure Tracks (threshold : Nat) (spec : Spec) (history : List Exchange)
    (checkpoint : Properties) : Prop where
  submitted : isSubmitted checkpoint = true ↔ Acknowledged history
  count : isSubmitted checkpoint = true →
    stalePolls checkpoint = min threshold (staleReads spec (sinceAcknowledged history))
  stale : ∀ current, some current ∈ readings history → current.status = .available →
    Stale spec current

namespace Tracks

variable {threshold : Nat} {checkpoint reached : Properties} {log : List Exchange}

theorem initial (threshold : Nat) (spec : Spec) : Tracks threshold spec [] [] where
  submitted :=
    ⟨fun flag => absurd flag Bool.false_ne_true, fun accepted =>
      absurd accepted not_acknowledged_nil⟩
  count := fun flag => absurd flag Bool.false_ne_true
  stale := fun _ member => nomatch member

/-- Once a change has been acknowledged, the next one is due when the threshold is reached by the
reads that have found the old values since. -/
theorem due_iff (tracks : Tracks threshold spec history checkpoint)
    (submitted : isSubmitted checkpoint = true) :
    threshold ≤ stalePolls checkpoint ↔
      threshold ≤ staleReads spec (sinceAcknowledged history) := by
  rw [tracks.count submitted]
  omega

/-- Exchanges without an acknowledged change leave the flag right. -/
theorem append_quiet (tracks : Tracks threshold spec history checkpoint)
    (quiet : ¬ Acknowledged new) (flag : isSubmitted reached = isSubmitted checkpoint)
    (count : isSubmitted checkpoint = true → stalePolls reached =
      min threshold (staleReads spec (sinceAcknowledged history) + staleReads spec new))
    (stale : ∀ current, some current ∈ readings new → current.status = .available →
      Stale spec current) :
    Tracks threshold spec (history ++ new) reached where
  submitted := by
    rw [flag, tracks.submitted, acknowledged_append, or_iff_left quiet]
  count := by
    intro submitted
    rw [sinceAcknowledged_append quiet, staleReads_append]
    exact count (flag ▸ submitted)
  stale := by
    intro current member available
    rw [readings_append] at member
    rcases List.mem_append.mp member with earlier | now
    · exact tracks.stale current earlier available
    · exact stale current now available

/-- An acknowledged change at the end of a step starts the count anew. -/
theorem append_accepted (tracks : Tracks threshold spec history checkpoint) {first last : Exchange}
    (accepted : last.acknowledges = true)
    (stale : ∀ current, some current ∈ readings [first, last] → current.status = .available →
      Stale spec current) :
    Tracks threshold spec (history ++ [first, last]) submittedCheckpoint where
  submitted :=
    ⟨fun _ => acknowledged_append.mpr (.inr ⟨last, List.mem_pair.mpr (.inr rfl), accepted⟩),
      fun _ => isSubmitted_submittedCheckpoint⟩
  count := by
    intro _
    have none : sinceAcknowledged ((history ++ [first]) ++ [last]) = [] :=
      sinceAcknowledged_concat accepted
    rw [List.append_cons, none, stalePolls_submittedCheckpoint]
    exact (Nat.min_zero threshold).symm
  stale := by
    intro current member available
    rw [readings_append] at member
    rcases List.mem_append.mp member with earlier | now
    · exact tracks.stale current earlier available
    · exact stale current now available

/-- A step that goes on leaves a checkpoint that is right about the longer history. -/
theorem step (tracks : Tracks threshold spec history checkpoint)
    (taken : Taken threshold spec checkpoint log (.ok (.pending reached))) :
    Tracks threshold spec (history ++ log) reached := by
  generalize whole : (.ok (.pending reached) : Outcome Progress) = outcome at taken
  cases taken with
  | unread failure => cases whole
  | refused current message hopeless => cases whole
  | settled current settled => cases whole
  | passing current agrees elsewhere =>
      cases whole
      have other : current.status ≠ .available := by
        rcases elsewhere with modifying | unknown
        · simp [modifying]
        · simp [unknown]
      refine tracks.append_quiet not_acknowledged_read rfl ?_ ?_
      · intro submitted
        rw [staleReads_of_not (fun stale => other (foundStale_some.mp stale).1.1) rfl,
          Nat.add_zero]
        exact tracks.count submitted
      · intro found member available
        cases List.mem_singleton.mp member
        exact absurd available other
  | counted current stale submitted below =>
      cases whole
      refine tracks.append_quiet not_acknowledged_read (isSubmitted_insert _ _) ?_ ?_
      · intro _
        have count := tracks.count submitted
        rw [stalePolls_insert, staleReads_of_stale stale rfl]
        omega
      · intro found member _
        cases List.mem_singleton.mp member
        exact stale
  | changed current answer stale due =>
      cases answer with
      | error failure => cases whole
      | ok description =>
          cases whole
          refine tracks.append_accepted rfl ?_
          intro found member _
          cases List.mem_singleton.mp member
          exact stale
  | unseen submitted =>
      cases whole
      refine tracks.append_quiet not_acknowledged_read rfl ?_ ?_
      · intro _
        rw [staleReads_of_not not_foundStale_none rfl, Nat.add_zero]
        exact tracks.count submitted
      · intro found member _
        cases List.mem_singleton.mp member
  | created answer fresh =>
      cases answer with
      | error failure => cases whole
      | ok description =>
          cases whole
          refine tracks.append_accepted rfl ?_
          intro found member _
          cases List.mem_singleton.mp member

/-- A step that fails for the time being leaves the checkpoint right about the longer history. -/
theorem keep {failure : Failure} (tracks : Tracks threshold spec history checkpoint)
    (taken : Taken threshold spec checkpoint log (.error failure))
    (transient : failure.isTransient = true) :
    Tracks threshold spec (history ++ log) checkpoint := by
  generalize whole : (.error failure : Outcome Progress) = outcome at taken
  cases taken with
  | unread failure =>
      refine tracks.append_quiet not_acknowledged_read rfl ?_ ?_
      · intro submitted
        exact tracks.count submitted
      · intro found member
        cases member
  | refused current message hopeless =>
      cases whole
      cases transient
  | settled current settled => cases whole
  | passing current agrees elsewhere => cases whole
  | counted current stale submitted below => cases whole
  | changed current answer stale due =>
      cases answer with
      | ok description => cases whole
      | error failure =>
          refine tracks.append_quiet (not_acknowledged_refused_change _) rfl ?_ ?_
          · intro submitted
            have count := tracks.count submitted
            have reached := (tracks.due_iff submitted).mp (due submitted)
            rw [staleReads_of_stale stale rfl]
            omega
          · intro found member _
            cases List.mem_singleton.mp member
            exact stale
  | unseen submitted => cases whole
  | created answer fresh =>
      cases answer with
      | ok description => cases whole
      | error failure =>
          refine tracks.append_quiet (not_acknowledged_refused_creation _) rfl ?_ ?_
          · intro submitted
            rw [fresh] at submitted
            cases submitted
          · intro found member _
            cases List.mem_singleton.mp member

end Tracks

/-! ## Runs -/

/-- As long as a run goes on, the checkpoint it carries is right about its history. -/
theorem run_tracks {settings : Settings.Engine} {event : Event} {startedAt : Timestamp}
    {standing : Standing} {logs : List (List Exchange)}
    (kind : ResourceKind.ofName event.resourceType = .ok .warehouseNamespace)
    (changes : event.request ≠ .delete) (declared : declaration event = .ok spec)
    (named : event.request = .update → physicalId event = .ok spec.name)
    (run : Run settings event startedAt logs standing) (isOpen : standing.isOpen = true) :
    ∃ checkpoint, Carries spec standing checkpoint ∧
      Tracks settings.namespaces.afterStalePolls spec logs.flatten checkpoint := by
  induction run with
  | start => exact ⟨_, .unanswered, .initial _ _⟩
  | step run wasOpen ends ih =>
      obtain ⟨checkpoint, carries, tracks⟩ := ih wasOpen
      obtain ⟨outcome, stepped, leads⟩ :=
        attempt_leads kind changes declared named run.concerns carries ends
      have taken := converge_taken stepped
      rw [List.flatten_concat]
      cases leads with
      | completes data => cases isOpen
      | goesOn carried => exact ⟨_, carried, tracks.step taken⟩
      | retries transient carried => exact ⟨_, carried, tracks.keep taken transient⟩
      | fails terminal => cases isOpen

/-- The last attempt of a run is a step, from a checkpoint that is right about what was before. -/
theorem run_last_taken {settings : Settings.Engine} {event : Event} {startedAt : Timestamp}
    {standing : Standing} {earlier : List (List Exchange)} {log : List Exchange}
    (kind : ResourceKind.ofName event.resourceType = .ok .warehouseNamespace)
    (changes : event.request ≠ .delete) (declared : declaration event = .ok spec)
    (named : event.request = .update → physicalId event = .ok spec.name)
    (run : Run settings event startedAt (earlier ++ [log]) standing) :
    ∃ checkpoint outcome,
      Tracks settings.namespaces.afterStalePolls spec earlier.flatten checkpoint ∧
        Taken settings.namespaces.afterStalePolls spec checkpoint log outcome ∧
        Leads spec checkpoint outcome standing := by
  obtain ⟨before, shorter, isOpen, ends⟩ := run.last
  obtain ⟨checkpoint, carries, tracks⟩ := run_tracks kind changes declared named shorter isOpen
  obtain ⟨outcome, stepped, leads⟩ :=
    attempt_leads kind changes declared named shorter.concerns carries ends
  exact ⟨checkpoint, outcome, tracks, converge_taken stepped, leads⟩

end Provision.Namespace
