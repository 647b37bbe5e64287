import Provision.Dialogue.Basic

/-!
# Transcripts of dialogues

A transcript is the list of requests that a dialogue has made, each with its reply. A dialogue
ends with a value on a transcript when that value is reached by taking every reply from it. The
services behind the replies are arbitrary: a request may be answered in any way its type allows,
a request with a time limit may also go unanswered, and the clock may show any time. A given
transcript can be replayed to see what a dialogue ends with on it.

The laws say what a dialogue put together from parts ends with. A flow that goes on after another
flow ends as the first one does when that fails, and otherwise on the two transcripts in a row
(`Flow.ends_bind`). A flow that asks one question ends on that question with whatever the reply
is.
-/

set_option autoImplicit false

namespace Provision

open Dialogue (Request)

/-- A request with its reply; without one if none came within the limit. -/
structure Exchange where
  request : Request
  reply : Option request.Reply

namespace Dialogue

variable {α β : Type}

/-- The dialogue ends with the value when its requests are answered as the transcript says. -/
inductive Ends {α : Type} : Dialogue α → List Exchange → α → Prop where
  | done (value : α) : Ends (.done value) [] value
  | ask {request : Request} {next : request.Reply → Dialogue α} {rest : List Exchange} {value : α}
      (reply : request.Reply) (ends : Ends (next reply) rest value) :
      Ends (.ask request next) (⟨request, some reply⟩ :: rest) value
  | askWithin {limit : Nat} {request : Request} {next : Option request.Reply → Dialogue α}
      {rest : List Exchange} {value : α}
      (reply : Option request.Reply) (ends : Ends (next reply) rest value) :
      Ends (.askWithin limit request next) (⟨request, reply⟩ :: rest) value
  | pause {duration : Nat} {next : Unit → Dialogue α} {rest : List Exchange} {value : α}
      (ends : Ends (next ()) rest value) : Ends (.pause duration next) rest value
  | clock {next : Nat → Dialogue α} {rest : List Exchange} {value : α}
      (time : Nat) (ends : Ends (next time) rest value) : Ends (.clock next) rest value

theorem ends_done {found value : α} {log : List Exchange} :
    Ends (.done value) log found ↔ log = [] ∧ found = value := by
  constructor
  · intro ends
    cases ends with
    | done => exact ⟨rfl, rfl⟩
  · rintro ⟨rfl, rfl⟩
    exact .done _

theorem ends_ask {request : Request} {next : request.Reply → Dialogue α} {log : List Exchange}
    {value : α} :
    Ends (.ask request next) log value ↔
      ∃ reply rest, log = ⟨request, some reply⟩ :: rest ∧ Ends (next reply) rest value := by
  constructor
  · intro ends
    cases ends with
    | ask reply ends => exact ⟨reply, _, rfl, ends⟩
  · rintro ⟨reply, rest, rfl, ends⟩
    exact .ask reply ends

/-- Ends compose: what follows goes on with the transcript where the first part left it. -/
theorem Ends.bind {dialogue : Dialogue α} {follow : α → Dialogue β} {first rest : List Exchange}
    {middle : α} {value : β} (begins : Ends dialogue first middle)
    (ends : Ends (follow middle) rest value) :
    Ends (dialogue.bind follow) (first ++ rest) value := by
  induction begins with
  | done => exact ends
  | ask reply _ ih => exact .ask reply (ih ends)
  | askWithin reply _ ih => exact .askWithin reply (ih ends)
  | pause _ ih => exact .pause (ih ends)
  | clock time _ ih => exact .clock time (ih ends)

theorem ends_bind {dialogue : Dialogue α} {follow : α → Dialogue β} {log : List Exchange}
    {value : β} :
    Ends (dialogue.bind follow) log value ↔
      ∃ first middle rest, Ends dialogue first middle ∧ Ends (follow middle) rest value ∧
        log = first ++ rest := by
  constructor
  · intro ends
    induction dialogue generalizing log with
    | done middle => exact ⟨[], middle, log, .done middle, ends, rfl⟩
    | ask request next ih =>
        cases ends with
        | ask reply ends =>
            obtain ⟨first, middle, rest, begins, follows, rfl⟩ := ih reply ends
            exact ⟨_, middle, rest, .ask reply begins, follows, rfl⟩
    | askWithin limit request next ih =>
        cases ends with
        | askWithin reply ends =>
            obtain ⟨first, middle, rest, begins, follows, rfl⟩ := ih reply ends
            exact ⟨_, middle, rest, .askWithin reply begins, follows, rfl⟩
    | pause duration next ih =>
        cases ends with
        | pause ends =>
            obtain ⟨first, middle, rest, begins, follows, rfl⟩ := ih () ends
            exact ⟨_, middle, rest, .pause begins, follows, rfl⟩
    | clock next ih =>
        cases ends with
        | clock time ends =>
            obtain ⟨first, middle, rest, begins, follows, rfl⟩ := ih time ends
            exact ⟨_, middle, rest, .clock time begins, follows, rfl⟩
  · rintro ⟨first, middle, rest, begins, ends, rfl⟩
    exact begins.bind ends

/-- A dialogue whose value is only looked at ends on the same transcripts. -/
theorem ends_bind_done {dialogue : Dialogue α} {view : α → β} {log : List Exchange} {value : β} :
    Ends (dialogue.bind fun found => .done (view found)) log value ↔
      ∃ found, Ends dialogue log found ∧ value = view found := by
  constructor
  · intro ends
    obtain ⟨first, middle, rest, begins, looks, rfl⟩ := ends_bind.mp ends
    obtain ⟨rfl, rfl⟩ := ends_done.mp looks
    rw [List.append_nil]
    exact ⟨middle, begins, rfl⟩
  · rintro ⟨found, ends, rfl⟩
    have looked : Ends (dialogue.bind fun found => .done (view found)) (log ++ []) (view found) :=
      ends.bind (.done (view found))
    rwa [List.append_nil] at looked

/-! ## Replaying transcripts -/

/-- The value that a dialogue reaches on a transcript, with the clock at zero. -/
def replay : Dialogue α → List Exchange → Option α
  | .done value, [] => some value
  | .done _, _ :: _ => none
  | .ask _ _, [] => none
  | .ask request next, ⟨asked, reply⟩ :: rest =>
      if same : asked = request then
        match reply with
        | some reply => (next (same ▸ reply)).replay rest
        | none => none
      else none
  | .askWithin _ _ _, [] => none
  | .askWithin _ request next, ⟨asked, reply⟩ :: rest =>
      if same : asked = request then (next (same ▸ reply)).replay rest else none
  | .pause _ next, log => (next ()).replay log
  | .clock next, log => (next 0).replay log

/-- What a dialogue reaches on a transcript is something it ends with. -/
theorem ends_of_replay {dialogue : Dialogue α} {log : List Exchange} {value : α}
    (reached : dialogue.replay log = some value) : Ends dialogue log value := by
  induction dialogue generalizing log with
  | done found =>
      cases log with
      | nil => cases reached; exact .done _
      | cons exchange rest => cases reached
  | ask request next ih =>
      cases log with
      | nil => cases reached
      | cons exchange rest =>
          obtain ⟨asked, reply⟩ := exchange
          unfold replay at reached
          split at reached
          · rename_i same
            subst same
            cases reply with
            | none => cases reached
            | some reply => exact .ask reply (ih reply reached)
          · cases reached
  | askWithin limit request next ih =>
      cases log with
      | nil => cases reached
      | cons exchange rest =>
          obtain ⟨asked, reply⟩ := exchange
          unfold replay at reached
          split at reached
          · rename_i same
            subst same
            exact .askWithin reply (ih reply reached)
          · cases reached
  | pause duration next ih => exact .pause (ih () reached)
  | clock next ih => exact .clock 0 (ih 0 reached)

end Dialogue

namespace Flow

variable {α β : Type}

/-! ## How flows go on -/

theorem run_bind (flow : Flow α) (follow : α → Flow β) :
    (flow >>= follow).run =
      flow.run.bind fun outcome =>
        match outcome with
        | .ok value => (follow value).run
        | .error failure => .done (.error failure) := by
  show Dialogue.bind flow.run (ExceptT.bindCont follow) = _
  congr 1
  funext outcome
  cases outcome <;> rfl

theorem bind_assoc {γ : Type} (flow : Flow α) (follow : α → Flow β) (last : β → Flow γ) :
    flow >>= follow >>= last = flow >>= fun value => follow value >>= last := by
  show (flow >>= follow >>= last).run = (flow >>= fun value => follow value >>= last).run
  rw [run_bind, run_bind, run_bind, Dialogue.bind_assoc]
  congr 1
  funext outcome
  cases outcome with
  | error failure => rfl
  | ok value => exact (run_bind (follow value) last).symm

theorem run_map (view : α → β) (flow : Flow α) :
    (view <$> flow).run = flow.run.bind fun outcome => .done (view <$> outcome) := by
  show Dialogue.bind flow.run _ = _
  congr 1
  funext outcome
  cases outcome <;> rfl

/-- To look at the value of a flow is to go on with the view of it. -/
theorem map_eq (view : α → β) (flow : Flow α) :
    view <$> flow = flow >>= fun value => pure (view value) := by
  show (view <$> flow).run = (flow >>= fun value => pure (view value)).run
  rw [run_map, run_bind]
  congr 1
  funext outcome
  cases outcome <;> rfl

/-- To go on with the value itself is to do nothing more. -/
theorem bind_pure (flow : Flow α) : flow >>= pure = flow := by
  show (flow >>= pure).run = flow.run
  rw [run_bind]
  refine Eq.trans ?_ (Dialogue.bind_done flow.run)
  congr 1
  funext outcome
  cases outcome <;> rfl

/-- A flow that has its outcome goes on at once. -/
theorem ofOutcome_ok_bind (value : α) (follow : α → Flow β) :
    ofOutcome (.ok value) >>= follow = follow value := rfl

theorem ofOutcome_error_bind (failure : Failure) (follow : α → Flow β) :
    ofOutcome (.error failure) >>= follow = ofOutcome (.error failure) := rfl

/-! ## How flows end -/

/-- The flow ends with the outcome when its requests are answered as the transcript says. -/
def Ends (flow : Flow α) (log : List Exchange) (outcome : Outcome α) : Prop :=
  Dialogue.Ends flow.run log outcome

theorem ends_ofOutcome {known outcome : Outcome α} {log : List Exchange} :
    Ends (ofOutcome known) log outcome ↔ log = [] ∧ outcome = known :=
  Dialogue.ends_done

theorem ends_pure {value : α} {outcome : Outcome α} {log : List Exchange} :
    Ends (pure value) log outcome ↔ log = [] ∧ outcome = .ok value :=
  Dialogue.ends_done

theorem ends_throw {failure : Failure} {outcome : Outcome α} {log : List Exchange} :
    Ends (throw failure) log outcome ↔ log = [] ∧ outcome = .error failure :=
  Dialogue.ends_done

/-- What is seen of the value that a flow reaches on a transcript. -/
theorem exists_ends_of_replay {flow : Flow α} {log : List Exchange} {view : α → β} {seen : β}
    (reached : ((Dialogue.replay flow.run log).bind fun outcome => outcome.toOption.map view) =
      some seen) : ∃ value, Ends flow log (.ok value) ∧ view value = seen := by
  obtain ⟨outcome, replayed, found⟩ := Option.bind_eq_some_iff.mp reached
  cases outcome with
  | error failure => cases found
  | ok value => exact ⟨value, Dialogue.ends_of_replay replayed, Option.some.inj found⟩

/-- The failure that a flow reaches on a transcript. -/
theorem ends_error_of_replay {flow : Flow α} {log : List Exchange} {failure : Failure}
    (reached : ((Dialogue.replay flow.run log).bind fun outcome =>
      match outcome with
      | .ok _ => none
      | .error found => some found) = some failure) : Ends flow log (.error failure) := by
  obtain ⟨outcome, replayed, found⟩ := Option.bind_eq_some_iff.mp reached
  cases outcome with
  | ok value => cases found
  | error fault =>
      cases found
      exact Dialogue.ends_of_replay replayed

/-- A flow followed by another one fails with the first, or ends with the second one. -/
theorem ends_bind {flow : Flow α} {follow : α → Flow β} {log : List Exchange}
    {outcome : Outcome β} :
    Ends (flow >>= follow) log outcome ↔
      (∃ failure, Ends flow log (.error failure) ∧ outcome = .error failure) ∨
        ∃ first value rest, Ends flow first (.ok value) ∧ Ends (follow value) rest outcome ∧
          log = first ++ rest := by
  unfold Ends
  rw [run_bind, Dialogue.ends_bind]
  constructor
  · rintro ⟨first, middle, rest, begins, ends, rfl⟩
    cases middle with
    | error failure =>
        obtain ⟨rfl, rfl⟩ := Dialogue.ends_done.mp ends
        rw [List.append_nil]
        exact .inl ⟨failure, begins, rfl⟩
    | ok value => exact .inr ⟨first, value, rest, begins, ends, rfl⟩
  · rintro (⟨failure, ends, rfl⟩ | ⟨first, value, rest, begins, ends, rfl⟩)
    · exact ⟨log, .error failure, [], ends, .done _, (List.append_nil log).symm⟩
    · exact ⟨first, .ok value, rest, begins, ends, rfl⟩

/-- A flow whose value is only looked at ends with the view of its outcome. -/
theorem ends_bind_pure {flow : Flow α} {view : α → β} {log : List Exchange} {outcome : Outcome β} :
    Ends (flow >>= fun value => pure (view value)) log outcome ↔
      ∃ found, Ends flow log found ∧ outcome = view <$> found := by
  constructor
  · intro ends
    obtain ⟨failure, fails, rfl⟩ | ⟨first, value, rest, begins, looks, rfl⟩ := ends_bind.mp ends
    · exact ⟨.error failure, fails, rfl⟩
    · obtain ⟨rfl, rfl⟩ := ends_pure.mp looks
      rw [List.append_nil]
      exact ⟨.ok value, begins, rfl⟩
  · rintro ⟨found, ends, rfl⟩
    cases found with
    | error failure => exact ends_bind.mpr (.inl ⟨failure, ends, rfl⟩)
    | ok value =>
        exact ends_bind.mpr (.inr ⟨log, value, [], ends, ends_pure.mpr ⟨rfl, rfl⟩,
          (List.append_nil log).symm⟩)

/-- A flow that looks at the clock goes on with whatever time it shows. -/
theorem exists_ends_of_now_bind {follow : Nat → Flow β} {log : List Exchange}
    {outcome : Outcome β} (ends : Ends (ExceptT.lift Dialogue.now >>= follow) log outcome) :
    ∃ time, Ends (follow time) log outcome := by
  have looks : Dialogue.Ends (.clock fun time => (follow time).run) log outcome := ends
  cases looks with
  | clock time ends => exact ⟨time, ends⟩

/-- A flow that asks one question ends with the reply, whatever it is. -/
theorem ends_question {request : Request} {outcomeOf : request.Reply → Outcome α}
    {log : List Exchange} {outcome : Outcome α} :
    Ends (ExceptT.mk (.ask request fun reply => .done (outcomeOf reply))) log outcome ↔
      ∃ reply, log = [⟨request, some reply⟩] ∧ outcome = outcomeOf reply := by
  constructor
  · intro ends
    obtain ⟨reply, rest, rfl, answered⟩ := Dialogue.ends_ask.mp ends
    obtain ⟨rfl, rfl⟩ := Dialogue.ends_done.mp answered
    exact ⟨reply, rfl, rfl⟩
  · rintro ⟨reply, rfl, rfl⟩
    exact Dialogue.ends_ask.mpr ⟨reply, [], rfl, .done _⟩

theorem ends_describeCluster {cluster : Cluster.Reference} {log : List Exchange}
    {outcome : Outcome Cluster.Description} (ends : Ends (describeCluster cluster) log outcome) :
    log = [⟨.describeCluster cluster, some outcome⟩] := by
  obtain ⟨reply, asked, rfl⟩ := ends_question.mp ends
  exact asked

theorem ends_updateConnectivity {cluster : Cluster.Reference} {token : String}
    {desired : Cluster.Settings} {log : List Exchange} {outcome : Outcome String}
    (ends : Ends (updateConnectivity cluster token desired) log outcome) :
    log = [⟨.updateConnectivity cluster token desired, some outcome⟩] := by
  obtain ⟨reply, asked, rfl⟩ := ends_question.mp ends
  exact asked

theorem ends_getNamespace {name : String} {log : List Exchange}
    {outcome : Outcome (Option Namespace.Description)}
    (ends : Ends (getNamespace name) log outcome) :
    log = [⟨.getNamespace name, some outcome⟩] := by
  obtain ⟨reply, asked, rfl⟩ := ends_question.mp ends
  exact asked

theorem ends_createNamespace {spec : Namespace.Spec} {log : List Exchange}
    {outcome : Outcome Namespace.Description} (ends : Ends (createNamespace spec) log outcome) :
    log = [⟨.createNamespace spec, some outcome⟩] := by
  obtain ⟨reply, asked, rfl⟩ := ends_question.mp ends
  exact asked

theorem ends_updateNamespace {spec : Namespace.Spec} {log : List Exchange}
    {outcome : Outcome Namespace.Description} (ends : Ends (updateNamespace spec) log outcome) :
    log = [⟨.updateNamespace spec, some outcome⟩] := by
  obtain ⟨reply, asked, rfl⟩ := ends_question.mp ends
  exact asked

end Flow

end Provision
