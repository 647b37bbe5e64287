import Mathlib.Data.List.DropRight
import Provision.Proofs.Engine.Run

/-!
# Histories of runs

The history of a run is all that its attempts have exchanged, in order. Of a history one asks
what was exchanged since the latest acknowledged change (`sinceAcknowledged`), and whether the
latest few of something are all of one sort (`LatestAll`). Both are followed exchange by exchange,
so that an invariant of the attempts can be stated with them.
-/

set_option autoImplicit false

namespace Provision

/-! ## Acknowledged changes -/

/-- Whether the exchange is a change that its service has accepted. -/
def Exchange.acknowledges : Exchange → Bool
  | ⟨.updateConnectivity _ _ _, some (.ok _)⟩ => true
  | ⟨.createNamespace _, some (.ok _)⟩ => true
  | ⟨.updateNamespace _, some (.ok _)⟩ => true
  | ⟨.deleteNamespace _, some (.ok _)⟩ => true
  | _ => false

/-- Some change in the history has been accepted. -/
def Acknowledged (history : List Exchange) : Prop :=
  ∃ exchange ∈ history, exchange.acknowledges = true

/-- What was exchanged after the latest acknowledged change; everything if there was none. -/
def sinceAcknowledged (history : List Exchange) : List Exchange :=
  history.rtakeWhile fun exchange => !exchange.acknowledges

variable {history new : List Exchange} {exchange : Exchange}

theorem not_acknowledged_nil : ¬ Acknowledged [] := by
  rintro ⟨exchange, member, -⟩
  cases member

theorem acknowledged_append :
    Acknowledged (history ++ new) ↔ Acknowledged history ∨ Acknowledged new := by
  unfold Acknowledged
  simp only [List.mem_append, or_and_right, exists_or]

theorem sinceAcknowledged_append (quiet : ¬ Acknowledged new) :
    sinceAcknowledged (history ++ new) = sinceAcknowledged history ++ new := by
  have passed : ∀ exchange ∈ new.reverse, (!exchange.acknowledges) = true := by
    intro exchange member
    cases accepted : exchange.acknowledges with
    | true => exact absurd ⟨exchange, List.mem_reverse.mp member, accepted⟩ quiet
    | false => rfl
  unfold sinceAcknowledged List.rtakeWhile
  rw [List.reverse_append, List.takeWhile_append_of_pos passed, List.reverse_append,
    List.reverse_reverse]

theorem sinceAcknowledged_concat (accepted : exchange.acknowledges = true) :
    sinceAcknowledged (history ++ [exchange]) = [] := by
  refine List.rtakeWhile_concat_neg _ _ _ ?_
  rw [accepted]
  exact Bool.false_ne_true

theorem mem_of_mem_sinceAcknowledged (member : exchange ∈ sinceAcknowledged history) :
    exchange ∈ history :=
  (List.rtakeWhile_suffix _ history).mem member

/-! ## The latest of a list -/

variable {α : Type}

/-- The latest so many of the list all have the property. -/
def LatestAll (count : Nat) (holds : α → Prop) (seen : List α) : Prop :=
  ∃ older latest, seen = older ++ latest ∧ latest.length = count ∧ ∀ one ∈ latest, holds one

namespace LatestAll

variable {count fewer : Nat} {holds : α → Prop} {seen : List α}

theorem zero (holds : α → Prop) (seen : List α) : LatestAll 0 holds seen :=
  ⟨seen, [], (List.append_nil seen).symm, rfl, fun _ member => nomatch member⟩

theorem concat (before : LatestAll count holds seen) {one : α} (here : holds one) :
    LatestAll (count + 1) holds (seen ++ [one]) := by
  obtain ⟨older, latest, rfl, rfl, all⟩ := before
  refine ⟨older, latest ++ [one], List.append_assoc older latest [one], List.length_append, ?_⟩
  intro other member
  rcases List.mem_append.mp member with earlier | last
  · exact all other earlier
  · rw [List.mem_singleton.mp last]
    exact here

/-- What follows from the property holds of the latest as well. -/
theorem imp {follows : α → Prop} (all : LatestAll count holds seen)
    (step : ∀ one ∈ seen, holds one → follows one) : LatestAll count follows seen := by
  obtain ⟨older, latest, rfl, counted, all⟩ := all
  refine ⟨older, latest, rfl, counted, ?_⟩
  intro one member
  exact step one (List.mem_append_right older member) (all one member)

/-- What holds of the latest holds of fewer of them. -/
theorem of_le (more : LatestAll count holds seen) (le : fewer ≤ count) :
    LatestAll fewer holds seen := by
  obtain ⟨older, latest, rfl, rfl, all⟩ := more
  refine ⟨older ++ latest.take (latest.length - fewer), latest.drop (latest.length - fewer),
    ?_, ?_, fun one member => all one (List.mem_of_mem_drop member)⟩
  · rw [List.append_assoc, List.take_append_drop]
  · rw [List.length_drop]
    omega

/-- The latest so many and one more are the last one and the latest so many before it. -/
theorem of_concat {one : α} (more : LatestAll (count + 1) holds (seen ++ [one])) :
    LatestAll count holds seen ∧ holds one := by
  obtain ⟨older, latest, same, counted, all⟩ := more
  obtain rfl | ⟨front, last, rfl⟩ := List.eq_nil_or_concat' latest
  · cases counted
  · rw [← List.append_assoc] at same
    obtain ⟨rfl, shared⟩ := List.append_inj' same rfl
    obtain rfl := List.singleton_inj.mp shared
    refine ⟨⟨older, front, rfl, ?_, ?_⟩, all one (List.mem_append_right front (.head _))⟩
    · simpa only [List.length_append, List.length_singleton, Nat.succ.injEq] using counted
    · intro other member
      exact all other (List.mem_append_left _ member)

/-- There are at least so many. -/
theorem le_length (all : LatestAll count holds seen) : count ≤ seen.length := by
  obtain ⟨older, latest, rfl, rfl, -⟩ := all
  simp only [List.length_append, Nat.le_add_left]

end LatestAll

/-! ## Parts of a run -/

namespace Engine.Run

variable {settings : Settings.Engine} {event : Lifecycle.Event} {startedAt : Time.Timestamp}
  {earlier : List (List Exchange)} {log : List Exchange} {standing : Standing}

/-- The last attempt of a run, and the run before it. -/
theorem last (run : Run settings event startedAt (earlier ++ [log]) standing) :
    ∃ before, Run settings event startedAt earlier before ∧ before.isOpen = true ∧
      (attempt settings event startedAt before).Ends log standing := by
  cases same : earlier ++ [log] with
  | nil => simp at same
  | cons first rest =>
      rw [same] at run
      generalize whole : first :: rest = logs at run
      cases run with
      | start => cases whole
      | step run isOpen ends =>
          obtain ⟨rfl, shared⟩ := List.append_inj' (same.trans whole) rfl
          obtain rfl := List.singleton_inj.mp shared
          exact ⟨_, run, isOpen, ends⟩

/-- The first attempts of a run are a run. -/
theorem upTo {later : List (List Exchange)}
    (run : Run settings event startedAt (earlier ++ later) standing) :
    ∃ middle, Run settings event startedAt earlier middle := by
  induction later using List.reverseRecOn generalizing standing with
  | nil =>
      rw [List.append_nil] at run
      exact ⟨standing, run⟩
  | append_singleton front log ih =>
      rw [← List.append_assoc] at run
      obtain ⟨before, shorter, -, -⟩ := run.last
      exact ih shorter

end Engine.Run

end Provision
