import Provision.Proofs.Dialogue.Transcript

/-!
# Dialogues with a service

A service answers every request from a state, and the request may change the state. A dialogue is
served as long as every reply arrives (`Dialogue.serve`). It is unaffected if it changes nothing and
ends with the same value in whatever states its requests are served (`Dialogue.Unaffected`). A reply
may also be lost, and the request may then have reached the service or not (`Dialogue.Suffers`).

A dialogue is fragile if it fails as soon as a reply is lost. What a fragile dialogue leaves behind
is therefore a state that the service also passes when nothing is lost (`Suffers.passes`). A flow
recovers if from every such state it ends in the same way as from the start (`Flow.Recovers`), so
that it can be tried again after any loss.
-/

set_option autoImplicit false

namespace Provision

open Dialogue (Request)

/-- Whether the refusal says that the call, or the reply to it, was lost. -/
def Session.AdminFailure.isLoss (refusal : Session.AdminFailure) : Bool :=
  refusal.kind == .networkException || refusal.kind == .requestTimedOut

/-- Answers a request in a state, with the state after it. -/
abbrev Service (State : Type) := (request : Request) → State → request.Reply × State

namespace Dialogue

variable {State α β : Type}

/-! ## Serving -/

/-- The value of a dialogue whose every reply arrives, and the state after it. -/
def serve (service : Service State) : Dialogue α → State → α × State
  | .done value, state => (value, state)
  | .ask request next, state =>
      (next (service request state).1).serve service (service request state).2
  | .askWithin _ request next, state =>
      (next (some (service request state).1)).serve service (service request state).2
  | .pause _ next, state => (next ()).serve service state
  | .clock next, state => (next 0).serve service state

/-- The service passes the state on the way. -/
def Passes (service : Service State) : Dialogue α → State → State → Prop
  | .done _, state, reached => reached = state
  | .ask request next, state, reached =>
      reached = state ∨
        (next (service request state).1).Passes service (service request state).2 reached
  | .askWithin _ request next, state, reached =>
      reached = state ∨
        (next (some (service request state).1)).Passes service (service request state).2 reached
  | .pause _ next, state, reached => (next ()).Passes service state reached
  | .clock next, state, reached => (next 0).Passes service state reached

variable {service : Service State}

theorem serve_bind (dialogue : Dialogue α) (follow : α → Dialogue β) (state : State) :
    (dialogue.bind follow).serve service state =
      (follow (dialogue.serve service state).1).serve service (dialogue.serve service state).2 := by
  induction dialogue generalizing state with
  | done value => rfl
  | ask request next ih => exact ih _ _
  | askWithin limit request next ih => exact ih _ _
  | pause duration next ih => exact ih () state
  | clock next ih => exact ih 0 state

theorem passes_start (dialogue : Dialogue α) (state : State) :
    dialogue.Passes service state state := by
  induction dialogue with
  | done value => rfl
  | ask request next ih => exact .inl rfl
  | askWithin limit request next ih => exact .inl rfl
  | pause duration next ih => exact ih ()
  | clock next ih => exact ih 0

theorem passes_end (dialogue : Dialogue α) (state : State) :
    dialogue.Passes service state (dialogue.serve service state).2 := by
  induction dialogue generalizing state with
  | done value => rfl
  | ask request next ih => exact .inr (ih _ _)
  | askWithin limit request next ih => exact .inr (ih _ _)
  | pause duration next ih => exact ih () state
  | clock next ih => exact ih 0 state

/-- The states on the way of two parts are those of the first and those of the second. -/
theorem passes_bind {dialogue : Dialogue α} {follow : α → Dialogue β} {state reached : State}
    (passes : (dialogue.bind follow).Passes service state reached) :
    dialogue.Passes service state reached ∨
      (follow (dialogue.serve service state).1).Passes service (dialogue.serve service state).2
        reached := by
  induction dialogue generalizing state with
  | done value => exact .inr passes
  | ask request next ih =>
      rcases passes with same | later
      · exact .inl (.inl same)
      · rcases ih _ later with first | second
        · exact .inl (.inr first)
        · exact .inr second
  | askWithin limit request next ih =>
      rcases passes with same | later
      · exact .inl (.inl same)
      · rcases ih _ later with first | second
        · exact .inl (.inr first)
        · exact .inr second
  | pause duration next ih => exact ih () passes
  | clock next ih => exact ih 0 passes

/-! ## Dialogues that are not affected -/

/-- In whatever states its requests are served, the dialogue changes nothing and ends with the
value. -/
def Unaffected (service : Service State) (value : α) : Dialogue α → Prop
  | .done found => found = value
  | .ask request next => ∀ state,
      (service request state).2 = state ∧
        (next (service request state).1).Unaffected service value
  | .askWithin _ request next => ∀ state,
      (service request state).2 = state ∧
        (next (some (service request state).1)).Unaffected service value
  | .pause _ next => (next ()).Unaffected service value
  | .clock next => ∀ time, (next time).Unaffected service value

theorem Unaffected.bind {value : α} {other : β} {dialogue : Dialogue α} {follow : α → Dialogue β}
    (first : dialogue.Unaffected service value)
    (second : (follow value).Unaffected service other) :
    (dialogue.bind follow).Unaffected service other := by
  induction dialogue with
  | done found =>
      cases first
      exact second
  | ask request next ih => exact fun state => (first state).imp_right (ih _)
  | askWithin limit request next ih => exact fun state => (first state).imp_right (ih _)
  | pause duration next ih => exact ih () first
  | clock next ih => exact fun time => ih time (first time)

theorem Unaffected.serve {value : α} {dialogue : Dialogue α} {state : State}
    (unaffected : dialogue.Unaffected service value) :
    dialogue.serve service state = (value, state) := by
  induction dialogue with
  | done found =>
      cases unaffected
      rfl
  | ask request next ih =>
      obtain ⟨same, later⟩ := unaffected state
      rw [Dialogue.serve, same]
      exact ih _ later
  | askWithin limit request next ih =>
      obtain ⟨same, later⟩ := unaffected state
      rw [Dialogue.serve, same]
      exact ih _ later
  | pause duration next ih => exact ih () unaffected
  | clock next ih => exact ih 0 (unaffected 0)

theorem Unaffected.passes {value : α} {dialogue : Dialogue α} {state reached : State}
    (unaffected : dialogue.Unaffected service value)
    (passes : dialogue.Passes service state reached) : reached = state := by
  induction dialogue with
  | done found => exact passes
  | ask request next ih =>
      rcases passes with here | later
      · exact here
      · obtain ⟨same, onward⟩ := unaffected state
        rw [same] at later
        exact ih _ onward later
  | askWithin limit request next ih =>
      rcases passes with here | later
      · exact here
      · obtain ⟨same, onward⟩ := unaffected state
        rw [same] at later
        exact ih _ onward later
  | pause duration next ih => exact ih () unaffected passes
  | clock next ih => exact ih 0 (unaffected 0) passes

/-! ## Losses -/

/-- The reply only says that the request, or the reply to it, was lost. -/
def IsLoss : (request : Request) → request.Reply → Prop
  | .describeCluster _, .error failure => failure.isTransient = true
  | .getSecret _, .error failure => failure.isTransient = true
  | .connect _, .error refusal => refusal.isLoss = true
  | .admin _ _, .error refusal => refusal.isLoss = true
  | _, _ => False

/-- The dialogue ends with the value and the state although replies may be lost. -/
inductive Suffers {α : Type} (service : Service State) :
    Dialogue α → State → α → State → Prop where
  | done (value : α) (state : State) : Suffers service (.done value) state value state
  | served {request : Request} {next : request.Reply → Dialogue α} {state after : State} {value : α}
      (ends : Suffers service (next (service request state).1) (service request state).2 value
        after) :
      Suffers service (.ask request next) state value after
  | lost {request : Request} {next : request.Reply → Dialogue α} {state between after : State}
      {value : α} (reply : request.Reply) (loss : IsLoss request reply)
      (reached : between = state ∨ between = (service request state).2)
      (ends : Suffers service (next reply) between value after) :
      Suffers service (.ask request next) state value after
  | servedWithin {limit : Nat} {request : Request} {next : Option request.Reply → Dialogue α}
      {state after : State} {value : α}
      (ends : Suffers service (next (some (service request state).1)) (service request state).2
        value after) :
      Suffers service (.askWithin limit request next) state value after
  | lostWithin {limit : Nat} {request : Request} {next : Option request.Reply → Dialogue α}
      {state between after : State} {value : α} (reply : Option request.Reply)
      (loss : ∀ found, reply = some found → IsLoss request found)
      (reached : between = state ∨ between = (service request state).2)
      (ends : Suffers service (next reply) between value after) :
      Suffers service (.askWithin limit request next) state value after
  | pause {duration : Nat} {next : Unit → Dialogue α} {state after : State} {value : α}
      (ends : Suffers service (next ()) state value after) :
      Suffers service (.pause duration next) state value after
  | clock {next : Nat → Dialogue α} {state after : State} {value : α} (time : Nat)
      (ends : Suffers service (next time) state value after) :
      Suffers service (.clock next) state value after

/-- What a dialogue ends with under losses is something it ends with on some transcript. -/
theorem Suffers.ends {dialogue : Dialogue α} {state after : State} {value : α}
    (suffers : Suffers service dialogue state value after) : ∃ log, Ends dialogue log value := by
  induction suffers with
  | done value state => exact ⟨[], .done value⟩
  | served _ ih =>
      obtain ⟨log, ends⟩ := ih
      exact ⟨_, .ask _ ends⟩
  | lost reply _ _ _ ih =>
      obtain ⟨log, ends⟩ := ih
      exact ⟨_, .ask reply ends⟩
  | servedWithin _ ih =>
      obtain ⟨log, ends⟩ := ih
      exact ⟨_, .askWithin _ ends⟩
  | lostWithin reply _ _ _ ih =>
      obtain ⟨log, ends⟩ := ih
      exact ⟨_, .askWithin reply ends⟩
  | pause _ ih =>
      obtain ⟨log, ends⟩ := ih
      exact ⟨log, .pause ends⟩
  | clock time _ ih =>
      obtain ⟨log, ends⟩ := ih
      exact ⟨log, .clock time ends⟩

/-- Serving is a way to suffer nothing. -/
theorem suffers_serve (service : Service State) (dialogue : Dialogue α) (state : State) :
    Suffers service dialogue state (dialogue.serve service state).1
      (dialogue.serve service state).2 := by
  induction dialogue generalizing state with
  | done value => exact .done value state
  | ask request next ih => exact .served (ih _ _)
  | askWithin limit request next ih => exact .servedWithin (ih _ _)
  | pause duration next ih => exact .pause (ih () state)
  | clock next ih => exact .clock 0 (ih 0 state)

/-- What happens to a request. -/
inductive Fate where
  | served
  /-- No reply arrives, whether the request has been carried out or not. -/
  | unanswered (carriedOut : Bool)

/-- What a dialogue ends with under the given fates of its requests, with the clock at zero. What is
asked without a time limit is always served, and so is everything that no fate is given for. -/
def endure (service : Service State) : Dialogue α → List Fate → State → α × State
  | .done value, _, state => (value, state)
  | .ask request next, fates, state =>
      (next (service request state).1).endure service fates.tail (service request state).2
  | .askWithin _ request next, fates, state =>
      match fates.headD .served with
      | .served =>
          (next (some (service request state).1)).endure service fates.tail
            (service request state).2
      | .unanswered carriedOut =>
          (next none).endure service fates.tail
            (if carriedOut then (service request state).2 else state)
  | .pause _ next, fates, state => (next ()).endure service fates state
  | .clock next, fates, state => (next 0).endure service fates state

/-- Given fates are a way to suffer losses. -/
theorem suffers_endure (service : Service State) (dialogue : Dialogue α) (fates : List Fate)
    (state : State) :
    Suffers service dialogue state (dialogue.endure service fates state).1
      (dialogue.endure service fates state).2 := by
  induction dialogue generalizing fates state with
  | done value => exact .done value state
  | ask request next ih => exact .served (ih _ _ _)
  | askWithin limit request next ih =>
      unfold endure
      cases fates.headD .served with
      | served => exact .servedWithin (ih _ _ _)
      | unanswered carriedOut =>
          refine .lostWithin none nofun ?_ (ih _ _ _)
          cases carriedOut with
          | false => exact .inl rfl
          | true => exact .inr rfl
  | pause duration next ih => exact .pause (ih () _ _)
  | clock next ih => exact .clock 0 (ih 0 _ _)

theorem suffers_bind_done {dialogue : Dialogue α} {view : α → β} {state after : State} {value : β}
    (suffers : Suffers service (dialogue.bind fun found => .done (view found)) state value after) :
    ∃ found, Suffers service dialogue state found after ∧ value = view found := by
  induction dialogue generalizing state with
  | done found =>
      cases suffers
      exact ⟨found, .done found _, rfl⟩
  | ask request next ih =>
      cases suffers with
      | served ends =>
          obtain ⟨found, begins, rfl⟩ := ih _ ends
          exact ⟨found, .served begins, rfl⟩
      | lost reply loss reached ends =>
          obtain ⟨found, begins, rfl⟩ := ih reply ends
          exact ⟨found, .lost reply loss reached begins, rfl⟩
  | askWithin limit request next ih =>
      cases suffers with
      | servedWithin ends =>
          obtain ⟨found, begins, rfl⟩ := ih _ ends
          exact ⟨found, .servedWithin begins, rfl⟩
      | lostWithin reply loss reached ends =>
          obtain ⟨found, begins, rfl⟩ := ih reply ends
          exact ⟨found, .lostWithin reply loss reached begins, rfl⟩
  | pause duration next ih =>
      cases suffers with
      | pause ends =>
          obtain ⟨found, begins, rfl⟩ := ih () ends
          exact ⟨found, .pause begins, rfl⟩
  | clock next ih =>
      cases suffers with
      | clock time ends =>
          obtain ⟨found, begins, rfl⟩ := ih time ends
          exact ⟨found, .clock time begins, rfl⟩

/-! ## Fragile dialogues -/

/-- The dialogue fails as soon as a reply is lost, and does not look at the clock. -/
def Fragile : Dialogue (Outcome α) → Prop
  | .done _ => True
  | .ask request next =>
      (∀ reply, IsLoss request reply → ∃ failure, next reply = .done (.error failure)) ∧
        ∀ reply, Fragile (next reply)
  | .askWithin _ request next =>
      (∀ reply : Option request.Reply, (∀ found, reply = some found → IsLoss request found) →
        ∃ failure, next reply = .done (.error failure)) ∧
        ∀ reply, Fragile (next reply)
  | .pause _ next => Fragile (next ())
  | .clock _ => False

/-- Whatever is lost, a fragile dialogue leaves a state that is passed when nothing is lost. -/
theorem Suffers.passes {dialogue : Dialogue (Outcome α)} {state after : State}
    {outcome : Outcome α} (suffers : Suffers service dialogue state outcome after)
    (fragile : Fragile dialogue) : dialogue.Passes service state after := by
  induction suffers with
  | done value state => rfl
  | served _ ih => exact .inr (ih (fragile.2 _))
  | lost reply loss reached ends _ =>
      obtain ⟨failure, stopped⟩ := fragile.1 reply loss
      rw [stopped] at ends
      cases ends
      rcases reached with rfl | rfl
      · exact .inl rfl
      · exact .inr (passes_start _ _)
  | servedWithin _ ih => exact .inr (ih (fragile.2 _))
  | lostWithin reply loss reached ends _ =>
      obtain ⟨failure, stopped⟩ := fragile.1 reply loss
      rw [stopped] at ends
      cases ends
      rcases reached with rfl | rfl
      · exact .inl rfl
      · exact .inr (passes_start _ _)
  | pause _ ih => exact ih fragile
  | clock time _ _ => exact fragile.elim

end Dialogue

namespace Flow

variable {State α β : Type} {service : Service State}

/-- The outcome of a flow whose every reply arrives, and the state after it. -/
def serve (service : Service State) (flow : Flow α) (state : State) : Outcome α × State :=
  Dialogue.serve service flow.run state

/-- The service passes the state on the way. -/
def Passes (service : Service State) (flow : Flow α) (state reached : State) : Prop :=
  Dialogue.Passes service flow.run state reached

/-- The flow fails as soon as a reply is lost. -/
def Fragile (flow : Flow α) : Prop := Dialogue.Fragile flow.run

theorem serve_bind_ok {flow : Flow α} {follow : α → Flow β} {state after : State} {value : α}
    (served : flow.serve service state = (.ok value, after)) :
    (flow >>= follow).serve service state = (follow value).serve service after := by
  unfold serve at served ⊢
  rw [run_bind, Dialogue.serve_bind, served]

theorem serve_bind_error {flow : Flow α} {follow : α → Flow β} {state after : State}
    {failure : Failure} (served : flow.serve service state = (.error failure, after)) :
    (flow >>= follow).serve service state = (.error failure, after) := by
  unfold serve at served ⊢
  rw [run_bind, Dialogue.serve_bind, served]
  rfl

/-- The states on the way of two parts are those of the first, and those of the second if the first
one does not fail. -/
theorem passes_bind {flow : Flow α} {follow : α → Flow β} {state reached : State}
    (passes : (flow >>= follow).Passes service state reached) :
    flow.Passes service state reached ∨
      (∃ failure, flow.serve service state = (.error failure, reached)) ∨
      ∃ value after, flow.serve service state = (.ok value, after) ∧
        (follow value).Passes service after reached := by
  unfold Passes at passes
  rw [run_bind] at passes
  rcases Dialogue.passes_bind passes with first | second
  · exact .inl first
  · cases served : Dialogue.serve service flow.run state with
    | mk outcome after =>
        rw [served] at second
        cases outcome with
        | error failure =>
            obtain rfl : reached = after := second
            exact .inr (.inl ⟨failure, served⟩)
        | ok value => exact .inr (.inr ⟨value, after, served, second⟩)

/-! ## Fragile flows -/

theorem fragile_ofOutcome (outcome : Outcome α) : (ofOutcome outcome).Fragile := trivial

theorem fragile_pure (value : α) : (pure value : Flow α).Fragile := trivial

theorem fragile_bind {flow : Flow α} {follow : α → Flow β} (first : flow.Fragile)
    (second : ∀ value, (follow value).Fragile) : (flow >>= follow).Fragile := by
  unfold Fragile at first ⊢
  rw [run_bind]
  generalize flow.run = dialogue at first ⊢
  induction dialogue with
  | done outcome =>
      cases outcome with
      | error failure => trivial
      | ok value => exact second value
  | ask request next ih =>
      refine ⟨?_, fun reply => ih reply (first.2 reply)⟩
      intro reply loss
      obtain ⟨failure, stopped⟩ := first.1 reply loss
      refine ⟨failure, ?_⟩
      show Dialogue.bind (next reply) _ = _
      rw [stopped]
      rfl
  | askWithin limit request next ih =>
      refine ⟨?_, fun reply => ih reply (first.2 reply)⟩
      intro reply loss
      obtain ⟨failure, stopped⟩ := first.1 reply loss
      refine ⟨failure, ?_⟩
      show Dialogue.bind (next reply) _ = _
      rw [stopped]
      rfl
  | pause duration next ih => exact ih () first
  | clock next ih => exact first.elim

/-! ## Flows that pass two states -/

/-- From the state the flow ends with the outcome and leaves the other state, and the service passes
no third one. -/
structure Leaves (service : Service State) (flow : Flow α) (state : State) (outcome : Outcome α)
    (left : State) : Prop where
  serves : flow.serve service state = (outcome, left)
  passes : ∀ reached, flow.Passes service state reached → reached = state ∨ reached = left

theorem leaves_ofOutcome (outcome : Outcome α) (state : State) :
    Leaves service (ofOutcome outcome) state outcome state :=
  ⟨rfl, fun _ same => .inl same⟩

theorem leaves_bind_error {flow : Flow α} {follow : α → Flow β} {state left : State}
    {failure : Failure} (first : Leaves service flow state (.error failure) left) :
    Leaves service (flow >>= follow) state (.error failure) left := by
  refine ⟨serve_bind_error first.serves, ?_⟩
  intro reached passes
  rcases passes_bind passes with here | ⟨other, served⟩ | ⟨value, after, served, -⟩
  · exact first.passes reached here
  · exact .inr (Prod.mk.inj (first.serves.symm.trans served)).2.symm
  · cases (Prod.mk.inj (first.serves.symm.trans served)).1

/-- Two parts pass two states together if one of them changes nothing. -/
theorem leaves_bind {flow : Flow α} {follow : α → Flow β} {state middle left : State} {value : α}
    {outcome : Outcome β} (first : Leaves service flow state (.ok value) middle)
    (second : Leaves service (follow value) middle outcome left)
    (small : middle = state ∨ left = middle) :
    Leaves service (flow >>= follow) state outcome left := by
  refine ⟨(serve_bind_ok first.serves).trans second.serves, ?_⟩
  intro reached passes
  have among : (reached = state ∨ reached = middle) ∨ reached = middle ∨ reached = left := by
    rcases passes_bind passes with here | ⟨failure, served⟩ | ⟨other, after, served, later⟩
    · exact .inl (first.passes reached here)
    · cases (Prod.mk.inj (first.serves.symm.trans served)).1
    · obtain ⟨same, rfl⟩ := Prod.mk.inj (first.serves.symm.trans served)
      cases same
      exact .inr (second.passes reached later)
  rcases small with rfl | rfl
  · rcases among with (same | same) | same | last
    · exact .inl same
    · exact .inl same
    · exact .inl same
    · exact .inr last
  · rcases among with (same | last) | last | last
    · exact .inl same
    · exact .inr last
    · exact .inr last
    · exact .inr last

/-- The flow changes nothing, and its outcome does not depend on the state. -/
def Steady (service : Service State) (flow : Flow α) (outcome : Outcome α) : Prop :=
  ∀ state, Leaves service flow state outcome state

theorem steady_ofOutcome (outcome : Outcome α) : Steady service (ofOutcome outcome) outcome :=
  leaves_ofOutcome outcome

/-! ## Flows that are not affected -/

/-- In whatever states its requests are served, the flow changes nothing and has the outcome. -/
def Unaffected (service : Service State) (flow : Flow α) (outcome : Outcome α) : Prop :=
  Dialogue.Unaffected service outcome flow.run

theorem unaffected_ofOutcome (outcome : Outcome α) :
    Unaffected service (ofOutcome outcome) outcome :=
  rfl

theorem unaffected_bind_error {flow : Flow α} {follow : α → Flow β} {failure : Failure}
    (first : Unaffected service flow (.error failure)) :
    Unaffected service (flow >>= follow) (.error failure) := by
  unfold Unaffected
  rw [run_bind]
  exact first.bind rfl

theorem unaffected_bind {flow : Flow α} {follow : α → Flow β} {value : α} {outcome : Outcome β}
    (first : Unaffected service flow (.ok value))
    (second : Unaffected service (follow value) outcome) :
    Unaffected service (flow >>= follow) outcome := by
  unfold Unaffected
  rw [run_bind]
  exact first.bind second

theorem exists_unaffected_bind {flow : Flow α} {follow : α → Flow β} {found : Outcome α}
    (first : Unaffected service flow found)
    (second : ∀ value, ∃ outcome, Unaffected service (follow value) outcome) :
    ∃ outcome, Unaffected service (flow >>= follow) outcome := by
  cases found with
  | error failure => exact ⟨_, unaffected_bind_error first⟩
  | ok value =>
      obtain ⟨outcome, later⟩ := second value
      exact ⟨outcome, unaffected_bind first later⟩

/-- What nothing affects is steady. -/
theorem Unaffected.steady {flow : Flow α} {outcome : Outcome α}
    (unaffected : Unaffected service flow outcome) : Steady service flow outcome :=
  fun _ => ⟨Dialogue.Unaffected.serve unaffected, fun _ passes =>
    .inl (Dialogue.Unaffected.passes unaffected passes)⟩

/-! ## Flows that recover -/

/-- From every state on the way the flow ends as from the start. -/
def Recovers (service : Service State) (flow : Flow α) : Prop :=
  ∀ state reached, flow.Passes service state reached →
    flow.serve service reached = flow.serve service state

/-- A flow recovers if what it leaves stays as it is with the same outcome. -/
theorem recovers_of_leaves {flow : Flow α}
    (leaves : ∀ state, ∃ outcome left, Leaves service flow state outcome left ∧
      flow.serve service left = (outcome, left)) : Recovers service flow := by
  intro state reached passes
  obtain ⟨outcome, left, first, again⟩ := leaves state
  rcases first.passes reached passes with rfl | rfl
  · rfl
  · rw [again, first.serves]

theorem recovers_of_steady {flow : Flow α} {outcome : Outcome α}
    (steady : Steady service flow outcome) : Recovers service flow :=
  recovers_of_leaves fun state => ⟨outcome, state, steady state, (steady state).serves⟩

/-- What is only looked up before does not stand in the way of recovery. -/
theorem recovers_bind_of_steady {flow : Flow α} {follow : α → Flow β} {found : Outcome α}
    (first : Steady service flow found)
    (second : ∀ value, found = .ok value → Recovers service (follow value)) :
    Recovers service (flow >>= follow) := by
  cases found with
  | error failure =>
      exact recovers_of_steady fun state => leaves_bind_error (first state)
  | ok value =>
      have serves : ∀ state, (flow >>= follow).serve service state =
          (follow value).serve service state := fun state => serve_bind_ok (first state).serves
      intro state reached passes
      rw [serves, serves]
      rcases passes_bind passes with here | ⟨failure, served⟩ | ⟨other, after, served, later⟩
      · rcases (first state).passes reached here with rfl | rfl <;> rfl
      · cases (Prod.mk.inj ((first state).serves.symm.trans served)).1
      · obtain ⟨same, rfl⟩ := Prod.mk.inj ((first state).serves.symm.trans served)
        cases same
        exact second value rfl state reached later

/-- What a flow does with its value in the end does not stand in the way of recovery either. -/
theorem recovers_bind_pure {flow : Flow α} {view : α → β} (recovers : Recovers service flow) :
    Recovers service (flow >>= fun value => pure (view value)) := by
  have serves : ∀ state, (flow >>= fun value => pure (view value)).serve service state =
      (view <$> (flow.serve service state).1, (flow.serve service state).2) := by
    intro state
    cases served : flow.serve service state with
    | mk outcome after =>
        cases outcome with
        | error failure => exact serve_bind_error served
        | ok value => exact serve_bind_ok served
  intro state reached passes
  have early : flow.Passes service state reached := by
    unfold Passes at passes ⊢
    rw [run_bind] at passes
    rcases Dialogue.passes_bind passes with here | last
    · exact here
    · have same : reached = (flow.serve service state).2 := by
        cases served : Dialogue.serve service flow.run state with
        | mk outcome after =>
            rw [served] at last
            cases outcome <;> exact last.trans (congrArg Prod.snd served).symm
      rw [same]
      exact Dialogue.passes_end _ _
  rw [serves, serves, recovers state reached early]

/-! ## What flows yield -/

/-- Every value that the flow ends with has the property. -/
def Yields (flow : Flow α) (holds : α → Prop) : Prop :=
  ∀ log value, flow.Ends log (.ok value) → holds value

theorem yields_pure {value : α} {holds : α → Prop} (here : holds value) :
    Yields (pure value) holds := by
  intro log found ends
  cases (ends_pure.mp ends).2
  exact here

theorem yields_error (failure : Failure) (holds : α → Prop) :
    Yields (ofOutcome (.error failure)) holds := by
  intro log found ends
  cases (ends_ofOutcome.mp ends).2

theorem yields_bind {flow : Flow α} {follow : α → Flow β} {holds : β → Prop}
    (follows : ∀ value, (follow value).Yields holds) : (flow >>= follow).Yields holds := by
  intro log found ends
  rcases ends_bind.mp ends with ⟨failure, -, same⟩ | ⟨first, value, rest, -, later, -⟩
  · cases same
  · exact follows value rest found later

/-- What follows a flow starts from a value that the flow yields. -/
theorem yields_bind_of {flow : Flow α} {follow : α → Flow β} {first : α → Prop}
    {holds : β → Prop} (begins : flow.Yields first)
    (follows : ∀ value, first value → (follow value).Yields holds) :
    (flow >>= follow).Yields holds := by
  intro log found ends
  rcases ends_bind.mp ends with ⟨failure, -, same⟩ | ⟨log, value, rest, here, later, -⟩
  · cases same
  · exact follows value (begins log value here) rest found later

/-- A flow goes on only with what is known. -/
theorem yields_ofOutcome_bind {known : Outcome α} {follow : α → Flow β} {holds : β → Prop}
    (follows : ∀ value, known = .ok value → (follow value).Yields holds) :
    (ofOutcome known >>= follow).Yields holds := by
  cases known with
  | error failure => exact yields_error failure holds
  | ok value => exact follows value rfl

/-! ## Flows that can be tried again -/

/-- The flow can be tried again after any loss, and what it ends with has the property. -/
structure Resumable (service : Service State) (flow : Flow α) (holds : α → Prop) : Prop where
  fragile : flow.Fragile
  recovers : flow.Recovers service
  yields : flow.Yields holds

theorem resumable_error (failure : Failure) (holds : α → Prop) :
    Resumable service (ofOutcome (.error failure)) holds :=
  ⟨trivial, recovers_of_steady (steady_ofOutcome _), yields_error failure holds⟩

theorem resumable_pure {value : α} {holds : α → Prop} (here : holds value) :
    Resumable service (pure value) holds :=
  ⟨trivial, recovers_of_steady (steady_ofOutcome (.ok value)), yields_pure here⟩

theorem resumable_bind {flow : Flow α} {follow : α → Flow β} {found : Outcome α}
    {holds : β → Prop} (fragile : flow.Fragile) (steady : Steady service flow found)
    (follows : ∀ value, Resumable service (follow value) holds) :
    Resumable service (flow >>= follow) holds where
  fragile := fragile_bind fragile fun value => (follows value).fragile
  recovers := recovers_bind_of_steady steady fun value _ => (follows value).recovers
  yields := yields_bind fun value => (follows value).yields

theorem resumable_bind_pure {flow : Flow α} {view : α → β} {holds : β → Prop}
    (fragile : flow.Fragile) (recovers : flow.Recovers service)
    (here : ∀ value, holds (view value)) :
    Resumable service (flow >>= fun value => pure (view value)) holds where
  fragile := fragile_bind fragile fun value => fragile_pure (view value)
  recovers := recovers_bind_pure recovers
  yields := yields_bind fun value => yields_pure (here value)

/-- A result that is known before anything is asked decides how the flow goes on. -/
theorem resumable_ofOutcome_bind {known : Outcome α} {follow : α → Flow β} {holds : β → Prop}
    (follows : ∀ value, known = .ok value → Resumable service (follow value) holds) :
    Resumable service (ofOutcome known >>= follow) holds := by
  cases known with
  | error failure => exact resumable_error failure holds
  | ok value => exact follows value rfl

end Flow

end Provision
