import Provision.Proofs.Dialogue.Timing
import Provision.Proofs.Session.Brokers

/-!
# Brokers that stay silent

A broker may leave a connection or a call unanswered for ever; whatever is looked up elsewhere is
answered at some time. A dialogue that asks brokers within time limits only comes to its end all the
same (`Dialogue.Limited`, `Dialogue.Limited.exists_outlast`).

A flow is punctual within a budget if the limits on each of its ways add up to the budget at most,
and if it fails for the time being as soon as a request is given up (`Flow.Punctual`). On a clock it
lasts no longer than the lookups and the budget together (`Dialogue.Punctual.ended_le`), and it
fails for the time being unless everything has been answered (`Dialogue.Punctual.failsForNow`).
-/

set_option autoImplicit false

namespace Provision

open Dialogue (AdminCall Request)
open Session (AdminFailure Handle Opening Properties replied)

variable {α β : Type}

/-- Whether the request goes to a broker. -/
def Dialogue.Request.toBroker : Request → Bool
  | .connect _ | .admin _ _ => true
  | _ => false

/-! ## Timed transcripts -/

/-- Some request has been given up. -/
def Unanswered (log : List TimedExchange) : Prop :=
  ∃ exchange ∈ log, exchange.reply = none

/-- How long an exchange with anyone but a broker has taken. -/
def TimedExchange.lookup (exchange : TimedExchange) : Nat :=
  if exchange.request.toBroker then 0 else exchange.answered - exchange.asked

/-- How long all lookups together have taken. -/
def consulted : List TimedExchange → Nat
  | [] => 0
  | exchange :: rest => exchange.lookup + consulted rest

theorem consulted_cons (exchange : TimedExchange) (rest : List TimedExchange) :
    consulted (exchange :: rest) = exchange.lookup + consulted rest := rfl

theorem consulted_append (first rest : List TimedExchange) :
    consulted (first ++ rest) = consulted first + consulted rest := by
  induction first with
  | nil => exact (Nat.zero_add (consulted rest)).symm
  | cons exchange first ih =>
      rw [List.cons_append, consulted_cons, consulted_cons, ih, Nat.add_assoc]

theorem unanswered_cons {exchange : TimedExchange} {rest : List TimedExchange} :
    Unanswered (exchange :: rest) ↔ exchange.reply = none ∨ Unanswered rest := by
  simp [Unanswered]

theorem not_unanswered_nil : ¬ Unanswered [] := by
  simp [Unanswered]

/-- The outcome is a failure for the time being. -/
def FailsForNow (outcome : Outcome α) : Prop :=
  ∃ failure, outcome = .error failure ∧ failure.isTransient = true

namespace Dialogue

/-! ## Dialogues that come to their end -/

/-- Nobody but those who always reply is asked without a time limit. -/
def Limited : Dialogue α → Prop
  | .done _ => True
  | .ask request next => request.toBroker = false ∧ ∀ reply, (next reply).Limited
  | .askWithin _ _ next => ∀ reply, (next reply).Limited
  | .pause _ next => (next ()).Limited
  | .clock next => ∀ time, (next time).Limited

theorem Limited.bind {dialogue : Dialogue α} {follow : α → Dialogue β} (first : dialogue.Limited)
    (second : ∀ value, (follow value).Limited) : (dialogue.bind follow).Limited := by
  induction dialogue with
  | done value => exact second value
  | ask request next ih => exact ⟨first.1, fun reply => ih reply (first.2 reply)⟩
  | askWithin limit request next ih => exact fun reply => ih reply (first reply)
  | pause duration next ih => exact ih () first
  | clock next ih => exact fun time => ih time (first time)

variable {State : Type}

/-- What a dialogue ends with, and when, if every request takes as long as the latency says; it does
not end if it waits for a reply that never comes. -/
def outlast (service : Service State) (latency : Request → State → Option Nat) :
    Dialogue α → State → Nat → Option (List TimedExchange × α × Nat)
  | .done value, _, time => some ([], value, time)
  | .ask request next, state, time => do
      let delay ← latency request state
      let (reply, later) := service request state
      let answered := time + delay
      let (rest, ended) ← (next reply).outlast service latency later answered
      some (⟨⟨request, some reply⟩, time, answered⟩ :: rest, ended)
  | .askWithin limit request next, state, time =>
      let (reply, later) := service request state
      match (latency request state).filter fun delay => decide (delay ≤ limit) with
      | some delay => do
          let answered := time + delay
          let (rest, ended) ← (next (some reply)).outlast service latency later answered
          some (⟨⟨request, some reply⟩, time, answered⟩ :: rest, ended)
      | none => do
          let (rest, ended) ← (next none).outlast service latency later (time + limit)
          some (⟨⟨request, none⟩, time, time + limit⟩ :: rest, ended)
  | .pause duration next, state, time => (next ()).outlast service latency state (time + duration)
  | .clock next, state, time => (next time).outlast service latency state time

section Outlast

variable {service : Service State} {latency : Request → State → Option Nat} {request : Request}
  {state : State} {began delay limit : Nat}

/-- A run that has begun with an exchange. -/
def preceded (exchange : TimedExchange) (run : Option (List TimedExchange × α × Nat)) :
    Option (List TimedExchange × α × Nat) :=
  run.map fun found => (exchange :: found.1, found.2)

/-- A reply without a time limit is waited for. -/
theorem outlast_ask {next : request.Reply → Dialogue α}
    (prompt : latency request state = some delay) :
    (ask request next).outlast service latency state began =
      preceded ⟨⟨request, some (service request state).1⟩, began, began + delay⟩
        ((next (service request state).1).outlast service latency (service request state).2
          (began + delay)) := by
  simp only [outlast, prompt, Option.bind_eq_bind, Option.bind_some]
  exact Option.map_eq_bind.symm

/-- Without a reply and without a time limit there is no end. -/
theorem outlast_ask_silent {next : request.Reply → Dialogue α}
    (silent : latency request state = none) :
    (ask request next).outlast service latency state began = none := by
  simp only [outlast, silent]
  rfl

/-- A reply that comes in time is taken when it comes. -/
theorem outlast_askWithin {next : Option request.Reply → Dialogue α}
    (prompt : (latency request state).filter (fun delay => decide (delay ≤ limit)) = some delay) :
    (askWithin limit request next).outlast service latency state began =
      preceded ⟨⟨request, some (service request state).1⟩, began, began + delay⟩
        ((next (some (service request state).1)).outlast service latency (service request state).2
          (began + delay)) := by
  simp only [outlast, prompt]
  exact Option.map_eq_bind.symm

/-- A reply that does not come in time is given up. -/
theorem outlast_giveUp {next : Option request.Reply → Dialogue α}
    (late : (latency request state).filter (fun delay => decide (delay ≤ limit)) = none) :
    (askWithin limit request next).outlast service latency state began =
      preceded ⟨⟨request, none⟩, began, began + limit⟩
        ((next none).outlast service latency (service request state).2 (began + limit)) := by
  simp only [outlast, late]
  exact Option.map_eq_bind.symm

end Outlast

/-- **Whatever brokers leave unanswered, a dialogue that asks them within time limits comes to its
end**, if everyone else replies. -/
theorem Limited.exists_outlast {service : Service State}
    {latency : Request → State → Option Nat} {dialogue : Dialogue α} (limited : dialogue.Limited)
    (answers : ∀ request state, request.toBroker = false → (latency request state).isSome = true)
    (state : State) (began : Nat) :
    ∃ log value ended, dialogue.outlast service latency state began = some (log, value, ended) ∧
      Lasts dialogue began log value ended := by
  induction dialogue generalizing state began with
  | done value => exact ⟨[], value, began, rfl, .done value began⟩
  | ask request next ih =>
      obtain ⟨delay, found⟩ := Option.isSome_iff_exists.mp (answers request state limited.1)
      obtain ⟨rest, value, ended, same, lasts⟩ := ih (service request state).1
        (limited.2 _) (service request state).2 (began + delay)
      refine ⟨_, value, ended, ?_, .ask _ (Nat.le_add_right began delay) lasts⟩
      simp [outlast, found, same]
  | askWithin limit request next ih =>
      cases found : (latency request state).filter fun delay => decide (delay ≤ limit) with
      | some delay =>
          obtain ⟨rest, value, ended, same, lasts⟩ := ih (some (service request state).1)
            (limited _) (service request state).2 (began + delay)
          have within : delay ≤ limit := by
            simpa using (Option.filter_eq_some_iff.mp found).2
          refine ⟨_, value, ended, ?_,
            .askWithin _ (Nat.le_add_right began delay) (Nat.add_le_add_left within began) lasts⟩
          simp [outlast, found, same]
      | none =>
          obtain ⟨rest, value, ended, same, lasts⟩ := ih none (limited _)
            (service request state).2 (began + limit)
          refine ⟨_, value, ended, ?_, .giveUp lasts⟩
          simp [outlast, found, same]
  | pause duration next ih =>
      obtain ⟨log, value, ended, same, lasts⟩ := ih () limited state (began + duration)
      exact ⟨log, value, ended, same, .pause lasts⟩
  | clock next ih =>
      obtain ⟨log, value, ended, same, lasts⟩ := ih began (limited began) state began
      exact ⟨log, value, ended, same, .clock lasts⟩

/-! ## Punctual dialogues -/

/-- The time limits on every way add up to the budget at most, pauses included, and whatever is
given up ends the dialogue with a failure for the time being. -/
def Punctual : Dialogue (Outcome α) → Nat → Prop
  | .done _, _ => True
  | .ask request next, budget =>
      request.toBroker = false ∧ ∀ reply, (next reply).Punctual budget
  | .askWithin limit _ next, budget =>
      limit ≤ budget ∧ (∃ outcome, FailsForNow outcome ∧ next none = .done outcome) ∧
        ∀ reply, (next (some reply)).Punctual (budget - limit)
  | .pause duration next, budget => duration ≤ budget ∧ (next ()).Punctual (budget - duration)
  | .clock next, budget => ∀ time, (next time).Punctual budget

variable {dialogue : Dialogue (Outcome α)} {budget more spent rest : Nat}

theorem Punctual.mono (punctual : dialogue.Punctual budget) (le : budget ≤ more) :
    dialogue.Punctual more := by
  induction dialogue generalizing budget more with
  | done outcome => trivial
  | ask request next ih => exact ⟨punctual.1, fun reply => ih reply (punctual.2 reply) le⟩
  | askWithin limit request next ih =>
      exact ⟨Nat.le_trans punctual.1 le, punctual.2.1, fun reply =>
        ih (some reply) (punctual.2.2 reply) (Nat.sub_le_sub_right le limit)⟩
  | pause duration next ih =>
      exact ⟨Nat.le_trans punctual.1 le, ih () punctual.2 (Nat.sub_le_sub_right le duration)⟩
  | clock next ih => exact fun time => ih time (punctual time) le

/-- What follows a punctual dialogue has a budget of its own. -/
theorem Punctual.bind {follow : Outcome α → Dialogue (Outcome β)}
    (first : dialogue.Punctual spent)
    (second : ∀ log outcome, Ends dialogue log outcome → (follow outcome).Punctual rest)
    (passes : ∀ failure, follow (.error failure) = .done (.error failure)) :
    (dialogue.bind follow).Punctual (spent + rest) := by
  induction dialogue generalizing spent with
  | done outcome => exact (second [] outcome (.done outcome)).mono (Nat.le_add_left rest spent)
  | ask request next ih =>
      refine ⟨first.1, fun reply => ih reply (first.2 reply) ?_⟩
      intro log outcome ends
      exact second _ outcome (.ask reply ends)
  | askWithin limit request next ih =>
      obtain ⟨fits, ⟨outcome, ⟨failure, rfl, transient⟩, stops⟩, goesOn⟩ := first
      refine ⟨Nat.le_trans fits (Nat.le_add_right spent rest), ?_, fun reply => ?_⟩
      -- What is given up ends the dialogue, and nothing follows.
      · refine ⟨.error failure, ⟨failure, rfl, transient⟩, ?_⟩
        show (next none).bind follow = _
        rw [stops]
        exact passes failure
      · have later := ih (some reply) (goesOn reply) fun log outcome ends =>
          second _ outcome (.askWithin (some reply) ends)
        exact later.mono (by omega)
  | pause duration next ih =>
      have fits := first.1
      refine ⟨Nat.le_trans fits (Nat.le_add_right spent rest), ?_⟩
      have later := ih () first.2 fun log outcome ends => second log outcome (.pause ends)
      exact later.mono (by omega)
  | clock next ih =>
      intro time
      exact ih time (first time) fun log outcome ends => second log outcome (.clock time ends)

theorem Punctual.limited (punctual : dialogue.Punctual budget) : dialogue.Limited := by
  induction dialogue generalizing budget with
  | done outcome => trivial
  | ask request next ih => exact ⟨punctual.1, fun reply => ih reply (punctual.2 reply)⟩
  | askWithin limit request next ih =>
      intro reply
      cases reply with
      | some reply => exact ih (some reply) (punctual.2.2 reply)
      | none =>
          obtain ⟨outcome, -, stops⟩ := punctual.2.1
          rw [stops]
          trivial
  | pause duration next ih => exact ih () punctual.2
  | clock next ih => exact fun time => ih time (punctual time)

/-- **A punctual dialogue lasts no longer than the lookups and its budget together.** -/
theorem Punctual.ended_le {began ended : Nat} {log : List TimedExchange} {outcome : Outcome α}
    (punctual : dialogue.Punctual budget) (lasts : Lasts dialogue began log outcome ended) :
    ended ≤ began + consulted log + budget := by
  induction lasts generalizing budget with
  | done outcome time => omega
  | @ask request next began answered ended log outcome reply later lasts ih =>
      have rest := ih (punctual.2 reply)
      rw [consulted_cons]
      have asked : TimedExchange.lookup ⟨⟨request, some reply⟩, began, answered⟩ =
          answered - began := if_neg (by simp [punctual.1])
      omega
  | askWithin reply later inTime lasts ih =>
      have rest := ih (punctual.2.2 reply)
      have fits := punctual.1
      rw [consulted_cons]
      omega
  | giveUp lasts ih =>
      obtain ⟨fits, ⟨outcome, -, stops⟩, -⟩ := punctual
      rw [stops] at lasts
      obtain ⟨-, -, rfl⟩ := lasts_done.mp lasts
      omega
  | pause lasts ih =>
      have rest := ih punctual.2
      have fits := punctual.1
      omega
  | clock lasts ih => exact ih (punctual _)

/-- **A punctual dialogue that gives up a request fails for the time being.** -/
theorem Punctual.failsForNow {began ended : Nat} {log : List TimedExchange} {outcome : Outcome α}
    (punctual : dialogue.Punctual budget) (lasts : Lasts dialogue began log outcome ended)
    (unanswered : Unanswered log) : FailsForNow outcome := by
  induction lasts generalizing budget with
  | done outcome time => exact absurd unanswered not_unanswered_nil
  | ask reply later lasts ih =>
      rcases unanswered_cons.mp unanswered with here | there
      · cases here
      · exact ih (punctual.2 reply) there
  | askWithin reply later inTime lasts ih =>
      rcases unanswered_cons.mp unanswered with here | there
      · cases here
      · exact ih (punctual.2.2 reply) there
  | giveUp lasts ih =>
      obtain ⟨-, ⟨outcome, fails, stops⟩, -⟩ := punctual
      rw [stops] at lasts
      obtain ⟨-, rfl, -⟩ := lasts_done.mp lasts
      exact fails
  | pause lasts ih => exact ih punctual.2 unanswered
  | clock lasts ih => exact ih (punctual _) unanswered

end Dialogue

namespace Flow

theorem limited_bind {flow : Flow α} {follow : α → Flow β} (first : flow.run.Limited)
    (second : ∀ value, (follow value).run.Limited) : (flow >>= follow).run.Limited := by
  rw [run_bind]
  apply first.bind
  intro outcome
  cases outcome with
  | error failure => trivial
  | ok value => exact second value

/-! ## Punctual flows -/

/-- The limits on every way of the flow add up to the budget at most, and whatever is given up fails
it for the time being. -/
def Punctual (flow : Flow α) (budget : Nat) : Prop :=
  Dialogue.Punctual flow.run budget

variable {budget more spent rest : Nat}

theorem Punctual.mono {flow : Flow α} (punctual : flow.Punctual budget) (le : budget ≤ more) :
    flow.Punctual more :=
  Dialogue.Punctual.mono punctual le

theorem punctual_ofOutcome (outcome : Outcome α) : (ofOutcome outcome).Punctual budget := trivial

theorem punctual_pure (value : α) : (pure value : Flow α).Punctual budget := trivial

theorem punctual_throw (failure : Failure) : (throw failure : Flow α).Punctual budget := trivial

theorem punctual_ite {condition : Prop} [Decidable condition] {first second : Flow α}
    (holds : first.Punctual budget) (fails : second.Punctual budget) :
    (if condition then first else second).Punctual budget := by
  split
  · exact holds
  · exact fails

theorem punctual_bind {flow : Flow α} {follow : α → Flow β} (first : flow.Punctual spent)
    (second : ∀ log value, flow.Ends log (.ok value) → (follow value).Punctual rest) :
    (flow >>= follow).Punctual (spent + rest) := by
  unfold Punctual
  rw [run_bind]
  refine Dialogue.Punctual.bind first ?_ fun failure => rfl
  intro log outcome ends
  cases outcome with
  | error failure => trivial
  | ok value => exact second log value ends

/-- To look at the value of a flow takes no time. -/
theorem punctual_bind_pure {flow : Flow α} {view : α → β} (punctual : flow.Punctual budget) :
    (flow >>= fun value => pure (view value)).Punctual budget := by
  show Punctual _ (budget + 0)
  exact punctual_bind punctual fun _ value _ => punctual_pure (view value)

/-- What is known takes no time. -/
theorem punctual_ofOutcome_bind {known : Outcome α} {follow : α → Flow β}
    (follows : ∀ value, known = .ok value → (follow value).Punctual budget) :
    (ofOutcome known >>= follow).Punctual budget := by
  cases known with
  | error failure => trivial
  | ok value => exact follows value rfl

/-- A lookup takes none of the budget. -/
theorem punctual_question_bind {request : Request} {outcomeOf : request.Reply → Outcome α}
    {follow : α → Flow β} (elsewhere : request.toBroker = false)
    (follows : ∀ value, (follow value).Punctual budget) :
    Punctual (ExceptT.mk (.ask request fun reply => .done (outcomeOf reply)) >>= follow)
      budget := by
  have asks : Punctual (ExceptT.mk (.ask request fun reply => .done (outcomeOf reply))) 0 :=
    ⟨elsewhere, fun _ => trivial⟩
  exact (punctual_bind asks fun _ value _ => follows value).mono (by omega)

end Flow

namespace Session

variable {handle : Handle} {call : AdminCall} {rest : Nat}

/-- A call takes the time limit of its session at most. -/
theorem punctual_request_bind {follow : Except AdminFailure call.Result → Flow β}
    (stops : ∃ failure, failure.isTransient = true ∧
      follow (.error (Handle.unanswered call handle.requestMs)) = throw failure)
    (goesOn : ∀ answer, (follow answer).Punctual rest) :
    Flow.Punctual (ExceptT.lift (handle.request call) >>= follow) (handle.requestMs + rest) := by
  obtain ⟨failure, transient, stopped⟩ := stops
  unfold Flow.Punctual
  rw [run_request_bind]
  refine ⟨Nat.le_add_right _ _, ⟨.error failure, ⟨failure, rfl, transient⟩, ?_⟩, fun reply => ?_⟩
  · show (follow (.error _)).run = _
    rw [stopped]
    rfl
  · exact (goesOn _).mono (by omega)

theorem punctual_perform_bind {follow : call.Result → Flow β}
    (goesOn : ∀ result, (follow result).Punctual rest) :
    (handle.perform call >>= follow).Punctual (handle.requestMs + rest) := by
  rw [perform_bind]
  refine punctual_request_bind ⟨_, rfl, rfl⟩ ?_
  intro answer
  cases answer with
  | ok result => exact goesOn result
  | error refusal => exact Flow.punctual_throw _

/-- A call whose result is only looked at takes no longer than the call. -/
theorem punctual_perform_bind_pure {view : call.Result → β} :
    (handle.perform call >>= fun result => pure (view result)).Punctual handle.requestMs := by
  show Flow.Punctual _ (handle.requestMs + 0)
  exact punctual_perform_bind fun result => Flow.punctual_pure (view result)

theorem punctual_connect (cluster : Cluster.Reference) (limit : Nat)
    (options : Dialogue.ConnectOptions) : (connect cluster limit options).Punctual limit := by
  unfold Flow.Punctual
  rw [connect_run]
  exact ⟨Nat.le_refl _, ⟨_, ⟨_, rfl, rfl⟩, rfl⟩, fun _ => trivial⟩

/-- A session is opened within the time limit for connecting. -/
theorem punctual_openSession (opening : Opening) (properties : Properties) :
    (openSession opening properties).Punctual opening.limits.connectMs := by
  apply Flow.punctual_ofOutcome_bind
  intro cluster _
  refine Flow.punctual_question_bind rfl fun description => ?_
  apply Flow.punctual_ofOutcome_bind
  intro _ _
  refine Flow.punctual_question_bind rfl fun secret => ?_
  apply Flow.punctual_ofOutcome_bind
  intro credentials _
  exact Flow.punctual_bind_pure (punctual_connect _ _ _)

/-- What follows the opening of a session has a session with the time limit of the settings. -/
theorem punctual_openSession_bind {opening : Opening} {properties : Properties}
    {follow : Handle → Flow β}
    (follows : ∀ handle, handle.requestMs = opening.limits.requestMs →
      (follow handle).Punctual rest) :
    (openSession opening properties >>= follow).Punctual (opening.limits.connectMs + rest) := by
  refine Flow.punctual_bind (punctual_openSession opening properties) ?_
  intro log handle ends
  exact follows handle (yields_openSession opening properties log handle ends).2

end Session

end Provision
