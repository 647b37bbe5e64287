import Provision.Namespace.Lifecycle
import Provision.Proofs.Dialogue.Transcript

/-!
# Steps towards a declared namespace

A step reads the namespace, and what it does next depends on what it has found and on the
checkpoint it started from. `Taken` lists everything that a step can do, with the exchanges it
makes, how far it comes and the conditions for it; `converge_taken` says that the list is complete.
-/

set_option autoImplicit false

namespace Provision.Namespace

/-! ## What a read can find -/

/-- The namespace is read. -/
abbrev read (name : String) (reply : Outcome (Option Description)) : Exchange :=
  ⟨.getNamespace name, some reply⟩

/-- The creation of the declared namespace is submitted. -/
abbrev creation (spec : Spec) (reply : Outcome Description) : Exchange :=
  ⟨.createNamespace spec, some reply⟩

/-- The change to the declared values is submitted. -/
abbrev change (spec : Spec) (reply : Outcome Description) : Exchange :=
  ⟨.updateNamespace spec, some reply⟩

/-- The namespace is available, and nothing that is fixed at creation contradicts the spec. -/
def Usable (spec : Spec) (current : Description) : Prop :=
  current.status = .available ∧ spec.immutableConflict current = none

/-- The namespace is as declared. -/
def Settled (spec : Spec) (current : Description) : Prop :=
  Usable spec current ∧ spec.matchesMutable current = true

/-- The namespace could be as declared, and is not. -/
def Stale (spec : Spec) (current : Description) : Prop :=
  Usable spec current ∧ spec.matchesMutable current = false

/-- The namespace cannot become as declared. -/
def Hopeless (spec : Spec) (current : Description) : Prop :=
  spec.immutableConflict current ≠ none ∨ current.status = .deleting

variable {spec : Spec} {current : Description}

theorem Stale.not_settled (stale : Stale spec current) : ¬ Settled spec current := by
  rintro ⟨-, same⟩
  rw [stale.2] at same
  cases same

theorem Hopeless.not_usable (hopeless : Hopeless spec current) : ¬ Usable spec current := by
  rintro ⟨available, agrees⟩
  rcases hopeless with conflict | deleting
  · exact conflict agrees
  · rw [available] at deleting
    cases deleting

/-! ## Checkpoints -/

theorem isSubmitted_submittedCheckpoint : isSubmitted submittedCheckpoint = true := by
  decide

theorem stalePolls_submittedCheckpoint : stalePolls submittedCheckpoint = 0 := by
  decide

/-- Counting a read leaves the note of the submission. -/
theorem isSubmitted_insert (checkpoint : Properties) (value : Json) :
    isSubmitted (checkpoint.insert stalePollsKey value) = isSubmitted checkpoint := by
  unfold isSubmitted
  rw [Properties.get?_insert, if_neg (by decide)]

theorem stalePolls_insert (checkpoint : Properties) (count : Nat) :
    stalePolls (checkpoint.insert stalePollsKey (.whole (count : Int))) = count := by
  unfold stalePolls
  rw [Properties.get?_insert, if_pos rfl]

/-! ## What a step can do -/

/-- What a step from a checkpoint can exchange and come to. -/
inductive Taken (threshold : Nat) (spec : Spec) (checkpoint : Properties) :
    List Exchange → Outcome Progress → Prop where
  | unread (failure : Failure) :
      Taken threshold spec checkpoint [read spec.name (.error failure)] (.error failure)
  | refused (current : Description) (message : String) (hopeless : Hopeless spec current) :
      Taken threshold spec checkpoint [read spec.name (.ok (some current))]
        (.error (.conflict message))
  | settled (current : Description) (settled : Settled spec current) :
      Taken threshold spec checkpoint [read spec.name (.ok (some current))]
        (.ok (.finished (output current)))
  | passing (current : Description) (agrees : spec.immutableConflict current = none)
      (elsewhere : current.status = .modifying ∨ current.status = .unknown) :
      Taken threshold spec checkpoint [read spec.name (.ok (some current))]
        (.ok (.pending checkpoint))
  | counted (current : Description) (stale : Stale spec current)
      (submitted : isSubmitted checkpoint = true) (below : stalePolls checkpoint < threshold) :
      Taken threshold spec checkpoint [read spec.name (.ok (some current))]
        (.ok (.pending (checkpoint.insert stalePollsKey
          (.whole ((stalePolls checkpoint + 1 : Nat) : Int)))))
  | changed (current : Description) (reply : Outcome Description) (stale : Stale spec current)
      (due : isSubmitted checkpoint = true → threshold ≤ stalePolls checkpoint) :
      Taken threshold spec checkpoint
        [read spec.name (.ok (some current)), change spec reply]
        ((fun _ => .pending submittedCheckpoint) <$> reply)
  | unseen (submitted : isSubmitted checkpoint = true) :
      Taken threshold spec checkpoint [read spec.name (.ok none)] (.ok (.pending checkpoint))
  | created (reply : Outcome Description) (fresh : isSubmitted checkpoint = false) :
      Taken threshold spec checkpoint [read spec.name (.ok none), creation spec reply]
        ((fun _ => .pending submittedCheckpoint) <$> reply)

variable {threshold : Nat} {checkpoint : Properties} {log : List Exchange}
  {outcome : Outcome Progress}

theorem taken_of_submitChange (stale : Stale spec current)
    (ends : Flow.Ends (submitChange threshold spec checkpoint) log outcome) :
    Taken threshold spec checkpoint (read spec.name (.ok (some current)) :: log) outcome := by
  unfold submitChange at ends
  by_cases waits : (isSubmitted checkpoint && decide (stalePolls checkpoint < threshold)) = true
  · rw [if_pos waits] at ends
    obtain ⟨rfl, rfl⟩ := Flow.ends_pure.mp ends
    obtain ⟨submitted, below⟩ := Bool.and_eq_true_iff.mp waits
    exact .counted current stale submitted (of_decide_eq_true below)
  · rw [if_neg waits] at ends
    obtain ⟨reply, asked, rfl⟩ := Flow.ends_bind_pure.mp ends
    rw [Flow.ends_updateNamespace asked]
    refine .changed current reply stale ?_
    intro submitted
    refine Nat.le_of_not_lt fun below => waits ?_
    rw [submitted, decide_eq_true below]
    rfl

theorem taken_of_settle (ends : Flow.Ends (settle threshold spec current checkpoint) log outcome) :
    Taken threshold spec checkpoint (read spec.name (.ok (some current)) :: log) outcome := by
  unfold settle at ends
  cases agrees : spec.immutableConflict current with
  | some conflict =>
      rw [agrees] at ends
      obtain ⟨rfl, rfl⟩ := Flow.ends_throw.mp ends
      refine .refused current conflict (.inl ?_)
      rw [agrees]
      exact Option.some_ne_none conflict
  | none =>
      rw [agrees] at ends
      cases status : current.status with
      | available =>
          rw [status] at ends
          cases same : spec.matchesMutable current with
          | true =>
              rw [same] at ends
              obtain ⟨rfl, rfl⟩ := Flow.ends_pure.mp ends
              exact .settled current ⟨⟨status, agrees⟩, same⟩
          | false =>
              rw [same] at ends
              exact taken_of_submitChange ⟨⟨status, agrees⟩, same⟩ ends
      | deleting =>
          rw [status] at ends
          obtain ⟨rfl, rfl⟩ := Flow.ends_throw.mp ends
          exact .refused current _ (.inr status)
      | modifying =>
          rw [status] at ends
          obtain ⟨rfl, rfl⟩ := Flow.ends_pure.mp ends
          exact .passing current agrees (.inl status)
      | unknown =>
          rw [status] at ends
          obtain ⟨rfl, rfl⟩ := Flow.ends_pure.mp ends
          exact .passing current agrees (.inr status)

/-- **A step does nothing but what is listed.** -/
theorem converge_taken (ends : Flow.Ends (converge threshold spec checkpoint) log outcome) :
    Taken threshold spec checkpoint log outcome := by
  unfold converge at ends
  obtain ⟨failure, asked, rfl⟩ | ⟨first, found, rest, asked, follows, rfl⟩ :=
    Flow.ends_bind.mp ends
  · rw [Flow.ends_getNamespace asked]
    exact .unread failure
  · rw [Flow.ends_getNamespace asked]
    cases found with
    | some current => exact taken_of_settle follows
    | none =>
        cases submitted : isSubmitted checkpoint with
        | true =>
            rw [submitted] at follows
            obtain ⟨rfl, rfl⟩ := Flow.ends_pure.mp follows
            exact .unseen submitted
        | false =>
            rw [submitted] at follows
            obtain ⟨reply, created, rfl⟩ := Flow.ends_bind_pure.mp follows
            rw [Flow.ends_createNamespace created]
            exact .created reply submitted

end Provision.Namespace
