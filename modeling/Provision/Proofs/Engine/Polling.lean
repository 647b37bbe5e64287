import Provision.Engine.Poller
import Provision.Proofs.Dialogue.Timing
import Provision.Proofs.Namespace.Convergence

/-!
# Polling on a clock

The poller does not depend on what the controller does: it drives an event to its end with any
answer and any checks, whatever they come to and however long they take (`Poller.drive`).

At the head of its loop it is known what time it is, when the next tick is due and what the next
check goes on with (`Head`). From there the loop makes a check (`Made`), goes on as long as checks
leave the event pending (`Laps`) and comes to its end (`Over`). This describes the loop without a
bound on the number of checks, and it is all that the poller does: the bound is never reached,
because by then it is too late for another check (`lasts_poll`).

A tick moves the next one by the interval at least, and the next tick is never further away than the
interval. So after every check the next one is due an interval later than it was, and still before
the time is over if the loop goes on (`Paced`). What is due in the course of a millisecond is only
seen at its end, so a check may begin after the total time, but not by a whole millisecond.
-/

set_option autoImplicit false

namespace Provision.Engine

open Lifecycle (Answer Check Continuation Event)
open Time (Timestamp)

namespace Poller

/-! ## Any controller -/

/-- Drives an event to its end with any controller. -/
def drive (poller : Poller) (respond : Flow Answer) (check : Continuation → Flow Check)
    (startedAt : Timestamp) (event : Event) : Flow Driven := do
  let start ← ExceptT.lift Dialogue.now
  if poller.horizon ≤ nanos start + poller.total then return .aborted
  let answer ← respond
  if answer.isComplete then
    return .provisioned { physicalId := answer.physicalId, data := answer.data, attempts := 0 }
  if poller.interval = 0 then return .aborted
  let answered ← ExceptT.lift Dialogue.now
  poller.poll check (nanos start + poller.total) (poller.total / poller.interval + 1)
    (nanos answered + poller.interval) (Continuation.begin event answer startedAt)

theorem run_eq_drive (poller : Poller) (settings : Settings.Engine) (startedAt : Timestamp)
    (event : Event) :
    poller.run settings startedAt event =
      poller.drive (Engine.respond settings event) (Engine.check settings) startedAt event :=
  rfl

/-! ## Milliseconds -/

theorem nanos_le_nanos {first second : Nat} : nanos first ≤ nanos second ↔ first ≤ second :=
  Nat.mul_le_mul_right_iff (by decide)

/-- A millisecond is not before an instant if it begins at the instant or later. -/
theorem millisFrom_le_iff {instant millis : Nat} :
    millisFrom instant ≤ millis ↔ instant ≤ nanos millis := by
  unfold millisFrom nanos
  omega

theorem le_nanos_millisFrom (instant : Nat) : instant ≤ nanos (millisFrom instant) :=
  millisFrom_le_iff.mp (Nat.le_refl _)

/-! ## The loop -/

/-- The head of the loop: the time in milliseconds, when the next tick is due in nanoseconds, and
what the next check goes on with. -/
structure Head where
  now : Nat
  due : Nat
  continuation : Continuation

/-- A check that was made, with all that was asked for it. -/
structure Call where
  continuation : Continuation
  began : Nat
  log : List TimedExchange
  outcome : Outcome Check
  ended : Nat

/-- The check has left the event pending. -/
def Call.Pends (call : Call) : Prop :=
  ∃ result, call.outcome = .ok result ∧ result.isComplete = false

/-- Where the loop begins after the answer. -/
def Head.begun (poller : Poller) (event : Event) (answer : Answer) (startedAt : Timestamp)
    (answered : Nat) : Head :=
  { now := answered
    due := nanos answered + poller.interval
    continuation := Continuation.begin event answer startedAt }

/-- Where the loop goes on after a check. -/
def Head.after (poller : Poller) (head : Head) (call : Call) (result : Check) : Head :=
  { now := call.ended
    due := poller.nextDue head.due call.began
    continuation := head.continuation.advance result }

section Loop

variable (poller : Poller) (check : Continuation → Flow Check) (deadline : Nat)

/-- There is time for another check, and it is made at the next tick. -/
structure Made (head : Head) (call : Call) : Prop where
  within : nanos head.now + poller.interval < poller.horizon
  early : nanos head.now + poller.interval ≤ deadline
  about : call.continuation = head.continuation
  began : call.began = max head.now (millisFrom head.due)
  lasts : (check call.continuation).Lasts call.began call.log call.outcome call.ended

/-- The loop makes checks, and all of them leave the event pending. -/
inductive Laps : Head → List Call → Head → Prop where
  | none (head : Head) : Laps head [] head
  | again {head last : Head} {call : Call} {result : Check} {calls : List Call}
      (made : Made poller check deadline head call) (told : call.outcome = .ok result)
      (pends : result.isComplete = false) (laps : Laps (head.after poller call result) calls last) :
      Laps head (call :: calls) last

/-- The loop comes to its end: the clock does not reach as far as the next interval, it is too late
for another check, or that check is the last one. -/
inductive Over : Head → List Call → Outcome Driven → Nat → Prop where
  | beyond {head : Head} (beyond : poller.horizon ≤ nanos head.now + poller.interval) :
      Over head [] (.ok .aborted) head.now
  | late {head : Head} (within : nanos head.now + poller.interval < poller.horizon)
      (late : deadline < nanos head.now + poller.interval) :
      Over head [] (.error (poller.tooLong head.continuation)) head.now
  | failed {head : Head} {call : Call} {failure : Failure}
      (made : Made poller check deadline head call) (told : call.outcome = .error failure) :
      Over head [call] (.error failure) call.ended
  | completed {head : Head} {call : Call} {result : Check}
      (made : Made poller check deadline head call) (told : call.outcome = .ok result)
      (completes : result.isComplete = true) :
      Over head [call]
        (.ok (.provisioned
          { physicalId := head.continuation.physicalId
            data := result.data
            attempts := head.continuation.polling.attempt + 1 }))
        call.ended

/-- The loop ends at the time with the outcome, after the checks. -/
def Polls (head : Head) (calls : List Call) (outcome : Outcome Driven) (ended : Nat) : Prop :=
  ∃ pending last final, Laps poller check deadline head pending last ∧
    Over poller check deadline last final outcome ended ∧ calls = pending ++ final

end Loop

variable {poller : Poller} {check : Continuation → Flow Check} {deadline : Nat} {head : Head}
  {call : Call} {result : Check} {log : List TimedExchange} {outcome : Outcome Driven}
  {ended : Nat}

/-- The loop is over, or it makes a check and goes on. -/
theorem polls_iff {calls : List Call} :
    Polls poller check deadline head calls outcome ended ↔
      Over poller check deadline head calls outcome ended ∨
        ∃ call result rest, Made poller check deadline head call ∧ call.outcome = .ok result ∧
          result.isComplete = false ∧
          Polls poller check deadline (head.after poller call result) rest outcome ended ∧
          calls = call :: rest := by
  constructor
  · rintro ⟨pending, last, final, laps, ends, rfl⟩
    cases laps with
    | none => exact .inl ends
    | again made told pends laps =>
        exact .inr ⟨_, _, _, made, told, pends, ⟨_, last, final, laps, ends, rfl⟩, rfl⟩
  · rintro (ends | ⟨call, result, rest, made, told, pends, ⟨pending, last, final, laps, ends, rfl⟩,
      rfl⟩)
    · exact ⟨[], head, calls, .none head, ends, rfl⟩
    · exact ⟨call :: pending, last, final, .again made told pends laps, ends, rfl⟩

/-! ## Ticks -/

theorem le_nextDue (poller : Poller) (due seen : Nat) :
    due + poller.interval ≤ poller.nextDue due seen := by
  unfold nextDue
  split <;> omega

theorem nextDue_le {due seen : Nat} (reached : due ≤ nanos seen) :
    poller.nextDue due seen ≤ nanos seen + poller.interval := by
  unfold nextDue
  split <;> omega

/-- A tick is seen at the end of the millisecond in which it is due, or at once if that is over. -/
theorem lasts_tick {due now seen : Nat} :
    (tick due).Lasts now log seen ended ↔
      log = [] ∧ seen = max now (millisFrom due) ∧ ended = seen := by
  show (Dialogue.now.bind fun time => if time < millisFrom due then
    (Dialogue.sleep (millisFrom due - time)).bind fun _ => .done (millisFrom due)
    else .done time).Lasts now log seen ended ↔ _
  rw [Dialogue.lasts_bind]
  constructor
  · rintro ⟨first, time, between, rest, looked, waits, rfl⟩
    obtain ⟨rfl, rfl, rfl⟩ := Dialogue.lasts_now.mp looked
    split at waits
    · rename_i early
      obtain ⟨before, waited, reached, after, sleeps, ends, rfl⟩ := Dialogue.lasts_bind.mp waits
      obtain ⟨rfl, rfl⟩ := Dialogue.lasts_sleep.mp sleeps
      obtain ⟨rfl, rfl, rfl⟩ := Dialogue.lasts_done.mp ends
      refine ⟨rfl, ?_, ?_⟩ <;> omega
    · rename_i late
      obtain ⟨rfl, rfl, rfl⟩ := Dialogue.lasts_done.mp waits
      refine ⟨rfl, ?_, rfl⟩
      omega
  · rintro ⟨rfl, rfl, rfl⟩
    refine ⟨[], now, now, [], Dialogue.lasts_now.mpr ⟨rfl, rfl, rfl⟩, ?_, rfl⟩
    split
    · rename_i early
      have due_eq : max now (millisFrom due) = millisFrom due := by omega
      rw [due_eq]
      refine Dialogue.lasts_bind.mpr ⟨[], (), millisFrom due, [], ?_, .done _ _, rfl⟩
      exact Dialogue.lasts_sleep.mpr ⟨rfl, by omega⟩
    · rename_i late
      have now_eq : max now (millisFrom due) = now := by omega
      rw [now_eq]
      exact .done _ _

theorem lasts_tick_bind {α : Type} {due now : Nat} {follow : Nat → Flow α} {reached : Outcome α} :
    Flow.Lasts (ExceptT.lift (tick due) >>= follow) now log reached ended ↔
      Flow.Lasts (follow (max now (millisFrom due))) (max now (millisFrom due)) log reached
        ended := by
  rw [Flow.lasts_lift_bind]
  constructor
  · rintro ⟨first, seen, between, rest, waits, lasts, rfl⟩
    obtain ⟨rfl, rfl, rfl⟩ := lasts_tick.mp waits
    exact lasts
  · intro lasts
    exact ⟨[], _, _, log, lasts_tick.mpr ⟨rfl, rfl, rfl⟩, lasts, rfl⟩

namespace Made

theorem due_le (made : Made poller check deadline head call) : head.due ≤ nanos call.began := by
  rw [← millisFrom_le_iff, made.began]
  exact Nat.le_max_right _ _

theorem le_ended (made : Made poller check deadline head call) : call.began ≤ call.ended :=
  made.lasts.le

theorem not_late (made : Made poller check deadline head call) :
    ¬ deadline < nanos head.now + poller.interval :=
  Nat.not_lt_of_le made.early

theorem not_beyond (made : Made poller check deadline head call) :
    ¬ poller.horizon ≤ nanos head.now + poller.interval :=
  Nat.not_le_of_lt made.within

/-- The check is made of the continuation at the head of the loop, when the tick is seen. -/
theorem checks (made : Made poller check deadline head call) :
    (check head.continuation).Lasts (max head.now (millisFrom head.due)) call.log call.outcome
      call.ended := by
  rw [← made.about, ← made.began]
  exact made.lasts

/-- After a check the next tick is not further away than the interval. -/
theorem after_due_le (made : Made poller check deadline head call) :
    (head.after poller call result).due ≤
      nanos (head.after poller call result).now + poller.interval :=
  Nat.le_trans (nextDue_le made.due_le)
    (Nat.add_le_add_right (nanos_le_nanos.mpr made.le_ended) _)

end Made

/-! ## The bound is never reached -/

theorem poll_succ (poller : Poller) (check : Continuation → Flow Check) (deadline fuel due : Nat)
    (continuation : Continuation) :
    poller.poll check deadline (fuel + 1) due continuation = (do
      let now ← ExceptT.lift Dialogue.now
      if poller.horizon ≤ nanos now + poller.interval then pure .aborted
      else if deadline < nanos now + poller.interval then throw (poller.tooLong continuation)
      else
        let seen ← ExceptT.lift (tick due)
        let result ← check continuation
        if result.isComplete then
          pure (.provisioned
            { physicalId := continuation.physicalId
              data := result.data
              attempts := continuation.polling.attempt + 1 })
        else
          poller.poll check deadline fuel (poller.nextDue due seen)
            (continuation.advance result)) :=
  rfl

/-- If the clock does not reach as far as the next interval, the loop is over. -/
theorem lasts_aborted (check : Continuation → Flow Check) (deadline : Nat)
    (beyond : poller.horizon ≤ nanos head.now + poller.interval) :
    Flow.Lasts (pure .aborted) head.now log outcome ended ↔
      ∃ calls, Over poller check deadline head calls outcome ended ∧
        log = calls.flatMap Call.log := by
  rw [Flow.lasts_pure]
  constructor
  · rintro ⟨rfl, rfl, rfl⟩
    exact ⟨[], .beyond beyond, rfl⟩
  · rintro ⟨calls, ends, rfl⟩
    cases ends with
    | beyond beyond => exact ⟨rfl, rfl, rfl⟩
    | late within late => exact absurd beyond (Nat.not_le_of_lt within)
    | failed made told => exact absurd beyond made.not_beyond
    | completed made told completes => exact absurd beyond made.not_beyond

/-- If it is too late for another check, the loop is over. -/
theorem lasts_tooLong (check : Continuation → Flow Check)
    (within : nanos head.now + poller.interval < poller.horizon)
    (late : deadline < nanos head.now + poller.interval) :
    Flow.Lasts (throw (poller.tooLong head.continuation)) head.now log outcome ended ↔
      ∃ calls, Over poller check deadline head calls outcome ended ∧
        log = calls.flatMap Call.log := by
  rw [Flow.lasts_throw]
  constructor
  · rintro ⟨rfl, rfl, rfl⟩
    exact ⟨[], .late within late, rfl⟩
  · rintro ⟨calls, ends, rfl⟩
    cases ends with
    | beyond beyond => exact absurd beyond (Nat.not_le_of_lt within)
    | late within late => exact ⟨rfl, rfl, rfl⟩
    | failed made told => exact absurd late made.not_late
    | completed made told completes => exact absurd late made.not_late

/-- If there is time, the next tick is awaited and a check is made. -/
theorem lasts_made_bind {α : Type} (within : nanos head.now + poller.interval < poller.horizon)
    (early : nanos head.now + poller.interval ≤ deadline)
    {follow : Nat → Check → Flow α} {reached : Outcome α} :
    Flow.Lasts (ExceptT.lift (tick head.due) >>= fun seen =>
        check head.continuation >>= follow seen) head.now log reached ended ↔
      ∃ call rest, Made poller check deadline head call ∧
        ((∃ failure, call.outcome = .error failure ∧ rest = [] ∧ reached = .error failure ∧
            ended = call.ended) ∨
          ∃ result, call.outcome = .ok result ∧
            (follow call.began result).Lasts call.ended rest reached ended) ∧
        log = call.log ++ rest := by
  rw [lasts_tick_bind, Flow.lasts_bind]
  constructor
  · rintro (⟨failure, fails, rfl⟩ | ⟨first, result, between, rest, checks, lasts, rfl⟩)
    · have made : Made poller check deadline head
          ⟨head.continuation, max head.now (millisFrom head.due), log, .error failure, ended⟩ :=
        ⟨within, early, rfl, rfl, fails⟩
      exact ⟨_, [], made, .inl ⟨failure, rfl, rfl, rfl, rfl⟩, (List.append_nil log).symm⟩
    · have made : Made poller check deadline head
          ⟨head.continuation, max head.now (millisFrom head.due), first, .ok result, between⟩ :=
        ⟨within, early, rfl, rfl, checks⟩
      exact ⟨_, rest, made, .inr ⟨result, rfl, lasts⟩, rfl⟩
  · rintro ⟨call, rest, made, ⟨failure, told, rfl, rfl, rfl⟩ | ⟨result, told, lasts⟩, rfl⟩
    · have fails := made.checks
      rw [told] at fails
      exact .inl ⟨failure, by rwa [List.append_nil], rfl⟩
    · have checks := made.checks
      rw [told] at checks
      rw [made.began] at lasts
      exact .inr ⟨call.log, result, call.ended, rest, checks, lasts, rfl⟩

/-- The poller goes through the loop once, and on from where that leads to. -/
theorem lasts_poll_succ {fuel : Nat} :
    (poller.poll check deadline (fuel + 1) head.due head.continuation).Lasts head.now log outcome
        ended ↔
      (∃ calls, Over poller check deadline head calls outcome ended ∧
        log = calls.flatMap Call.log) ∨
      ∃ call result rest, Made poller check deadline head call ∧ call.outcome = .ok result ∧
        result.isComplete = false ∧
        (poller.poll check deadline fuel (head.after poller call result).due
          (head.after poller call result).continuation).Lasts call.ended rest outcome ended ∧
        log = call.log ++ rest := by
  rw [poll_succ, Flow.lasts_now_bind]
  by_cases beyond : poller.horizon ≤ nanos head.now + poller.interval
  · rw [if_pos beyond, lasts_aborted check deadline beyond]
    refine (or_iff_left ?_).symm
    rintro ⟨call, result, rest, made, -⟩
    exact made.not_beyond beyond
  rw [if_neg beyond]
  have within := Nat.lt_of_not_le beyond
  by_cases late : deadline < nanos head.now + poller.interval
  · rw [if_pos late, lasts_tooLong check within late]
    refine (or_iff_left ?_).symm
    rintro ⟨call, result, rest, made, -⟩
    exact made.not_late late
  · rw [if_neg late, lasts_made_bind within (Nat.le_of_not_lt late)]
    constructor
    · rintro ⟨call, rest, made, ⟨failure, told, rfl, rfl, rfl⟩ | ⟨result, told, lasts⟩, rfl⟩
      · exact .inl ⟨[call], .failed made told, rfl⟩
      · split at lasts
        · rename_i completes
          obtain ⟨rfl, rfl, rfl⟩ := Flow.lasts_pure.mp lasts
          exact .inl ⟨[call], .completed made told completes, rfl⟩
        · rename_i pends
          exact .inr ⟨call, result, rest, made, told, Bool.not_eq_true _ ▸ pends, lasts, rfl⟩
    · rintro (⟨calls, ends, rfl⟩ | ⟨call, result, rest, made, told, pends, lasts, rfl⟩)
      · cases ends with
        | beyond tooFar => exact absurd tooFar beyond
        | late _ tooLate => exact absurd tooLate late
        | failed made told => exact ⟨_, [], made, .inl ⟨_, told, rfl, rfl, rfl⟩, rfl⟩
        | completed made told completes =>
            refine ⟨_, [], made, .inr ⟨_, told, ?_⟩, rfl⟩
            rw [if_pos completes]
            exact Flow.lasts_pure.mpr ⟨rfl, rfl, rfl⟩
      · refine ⟨call, rest, made, .inr ⟨result, told, ?_⟩, rfl⟩
        rw [if_neg (by rw [pends]; decide)]
        exact lasts

/-- If a check and what follows it are as in the loop, so is all from the head on. -/
theorem lasts_poll_onward {fuel : Nat}
    (onward : ∀ {call : Call} {result : Check} {rest : List TimedExchange},
      Made poller check deadline head call →
        ((poller.poll check deadline fuel (head.after poller call result).due
          (head.after poller call result).continuation).Lasts call.ended rest outcome ended ↔
          ∃ calls, Polls poller check deadline (head.after poller call result) calls outcome
            ended ∧ rest = calls.flatMap Call.log)) :
    (poller.poll check deadline (fuel + 1) head.due head.continuation).Lasts head.now log outcome
        ended ↔
      ∃ calls, Polls poller check deadline head calls outcome ended ∧
        log = calls.flatMap Call.log := by
  rw [lasts_poll_succ]
  constructor
  · rintro (⟨calls, ends, rfl⟩ | ⟨call, result, rest, made, told, pends, lasts, rfl⟩)
    · exact ⟨calls, polls_iff.mpr (.inl ends), rfl⟩
    · obtain ⟨calls, polls, rfl⟩ := (onward made).mp lasts
      refine ⟨call :: calls, polls_iff.mpr (.inr ?_), List.flatMap_cons.symm⟩
      exact ⟨call, result, calls, made, told, pends, polls, rfl⟩
  · rintro ⟨calls, polls, rfl⟩
    obtain ends | ⟨call, result, rest, made, told, pends, further, rfl⟩ := polls_iff.mp polls
    · exact .inl ⟨calls, ends, rfl⟩
    · refine .inr ⟨call, result, _, made, told, pends, ?_, List.flatMap_cons⟩
      exact (onward made).mpr ⟨rest, further, rfl⟩

/-- **The poller goes through its loop until that is over.** The bound on the number of checks cuts
nothing off: with so many checks behind it the next tick is due too late. -/
theorem lasts_poll {fuel : Nat} (ahead : head.due ≤ nanos head.now + poller.interval)
    (enough : deadline < head.due + fuel * poller.interval) :
    (poller.poll check deadline (fuel + 1) head.due head.continuation).Lasts head.now log outcome
        ended ↔
      ∃ calls, Polls poller check deadline head calls outcome ended ∧
        log = calls.flatMap Call.log := by
  -- Every lap takes one from the bound and puts the next tick off by an interval, so that there is
  -- always enough left to reach the deadline.
  induction fuel generalizing head log with
  | zero =>
      refine lasts_poll_onward fun made => absurd ?_ made.not_late
      omega
  | succ fuel ih =>
      refine lasts_poll_onward fun {call result rest} made => ih made.after_due_le ?_
      have later := le_nextDue poller head.due call.began
      rw [Nat.succ_mul] at enough
      show deadline < poller.nextDue head.due call.began + fuel * poller.interval
      omega

/-! ## The pace of the checks -/

/-- So many checks behind it, the loop has waited for as many intervals since the answer, and the
next tick is due in the course of one more. -/
structure Paced (poller : Poller) (answered : Nat) (id : String) (count : Nat) (head : Head) :
    Prop where
  ahead : head.due ≤ nanos head.now + poller.interval
  spaced : nanos answered + (count + 1) * poller.interval ≤ head.due
  attempt : head.continuation.polling.attempt = count
  named : head.continuation.physicalId = id

/-- The check of that number begins after as many intervals from the answer, which end within the
total time, and at the latest at the end of the millisecond in which the total time ends. -/
structure Timely (poller : Poller) (start answered number : Nat) (call : Call) : Prop where
  due : nanos answered + number * poller.interval ≤ nanos start + poller.total
  spaced : nanos answered + number * poller.interval ≤ nanos call.began
  inTime : call.began ≤ millisFrom (nanos start + poller.total)

variable {start answered count : Nat} {id : String}

/-- There is time for no more checks than there are intervals. -/
theorem Timely.le_div {number : Nat} (positive : 0 < poller.interval) (early : start ≤ answered)
    (timely : Timely poller start answered number call) :
    number ≤ poller.total / poller.interval := by
  rw [Nat.le_div_iff_mul_le positive]
  have due := timely.due
  have order := nanos_le_nanos.mpr early
  omega

theorem Made.timely (made : Made poller check (nanos start + poller.total) head call)
    (paced : Paced poller answered id count head) :
    Timely poller start answered (count + 1) call := by
  have early := made.early
  have ahead := paced.ahead
  have total := le_nanos_millisFrom (nanos start + poller.total)
  refine ⟨?_, Nat.le_trans paced.spaced made.due_le, ?_⟩
  · have spaced := paced.spaced
    omega
  · rw [made.began]
    refine Nat.max_le.mpr ⟨nanos_le_nanos.mp ?_, millisFrom_le_iff.mpr ?_⟩ <;> omega

/-- A check that leaves the event pending keeps the pace. -/
theorem Made.paced (made : Made poller check deadline head call)
    (paced : Paced poller answered id count head) (fits : count + 1 < Number.wordSize 32) :
    Paced poller answered id (count + 1) (head.after poller call result) where
  ahead := made.after_due_le
  spaced := by
    have later := le_nextDue poller head.due call.began
    have spaced := paced.spaced
    show _ ≤ poller.nextDue head.due call.began
    rw [Nat.succ_mul]
    omega
  attempt := by
    show Number.wrapped 32 (head.continuation.polling.attempt + 1) = count + 1
    rw [paced.attempt]
    exact Number.wrapped_of_lt fits
  named := paced.named

/-- What holds of the pace, and of every check so far, when the loop has made some checks. -/
theorem Laps.paced {last : Head} {calls : List Call} (positive : 0 < poller.interval)
    (few : poller.total / poller.interval < Number.wordSize 32) (early : start ≤ answered)
    (laps : Laps poller check (nanos start + poller.total) head calls last)
    (paced : Paced poller answered id count head) :
    Paced poller answered id (count + calls.length) last ∧
      (∀ call ∈ calls, call.Pends) ∧
      ∀ number call, calls[number]? = some call →
        Timely poller start answered (count + number + 1) call := by
  -- Every lap keeps the pace, which bounds the number of laps, so the count never wraps around.
  induction laps generalizing count with
  | none head =>
      exact ⟨paced, fun call mem => absurd mem List.not_mem_nil, fun number call found =>
        absurd found.symm (Option.some_ne_none call)⟩
  | again made told pends laps ih =>
      rename_i call result calls
      have timely := made.timely paced
      have fits : count + 1 < Number.wordSize 32 :=
        Nat.lt_of_le_of_lt (timely.le_div positive early) few
      obtain ⟨later, pending, spaced⟩ := ih (made.paced paced fits)
      refine ⟨?_, ?_, ?_⟩
      · rwa [List.length_cons, Nat.add_comm calls.length 1, ← Nat.add_assoc]
      · intro other mem
        rcases List.mem_cons.mp mem with rfl | mem
        · exact ⟨result, told, pends⟩
        · exact pending other mem
      · intro number other found
        cases number with
        | zero =>
            cases found
            exact timely
        | succ number =>
            have later := spaced number other found
            rwa [Nat.add_right_comm count 1 number] at later

/-! ## Whole runs -/

section Answer

variable (poller : Poller) (check : Continuation → Flow Check) (start : Nat)
  (startedAt : Timestamp) (event : Event) (answered : Nat)

/-- What comes after the answer: nothing, or the loop. -/
inductive Follows : Outcome Answer → List Call → Outcome Driven → Nat → Prop where
  | failed (failure : Failure) : Follows (.error failure) [] (.error failure) answered
  | completed {answer : Answer} (completes : answer.isComplete = true) :
      Follows (.ok answer) []
        (.ok (.provisioned
          { physicalId := answer.physicalId, data := answer.data, attempts := 0 })) answered
  | pending {answer : Answer} {calls : List Call} {outcome : Outcome Driven} {ended : Nat}
      (pends : answer.isComplete = false)
      (polls : Polls poller check (nanos start + poller.total)
        (.begun poller event answer startedAt answered) calls outcome ended) :
      Follows (.ok answer) calls outcome ended

/-- How a run ends: with the answer, with the first check that does not leave the event pending,
because the next interval would be too long, or because the clock does not reach so far. -/
inductive Ending : Outcome Answer → List Call → Outcome Driven → Nat → Prop where
  | refused (failure : Failure) : Ending (.error failure) [] (.error failure) answered
  | immediate {answer : Answer} (completes : answer.isComplete = true) :
      Ending (.ok answer) []
        (.ok (.provisioned
          { physicalId := answer.physicalId, data := answer.data, attempts := 0 })) answered
  | failed {answer : Answer} {pending : List Call} {call : Call} {failure : Failure}
      (pends : ∀ earlier ∈ pending, earlier.Pends) (told : call.outcome = .error failure) :
      Ending (.ok answer) (pending ++ [call]) (.error failure) call.ended
  | completed {answer : Answer} {pending : List Call} {call : Call} {result : Check}
      (pends : ∀ earlier ∈ pending, earlier.Pends) (told : call.outcome = .ok result)
      (completes : result.isComplete = true) :
      Ending (.ok answer) (pending ++ [call])
        (.ok (.provisioned
          { physicalId := answer.physicalId
            data := result.data
            attempts := pending.length + 1 }))
        call.ended
  | late {answer : Answer} {pending : List Call} {continuation : Continuation} {ended : Nat}
      (pends : ∀ earlier ∈ pending, earlier.Pends)
      (named : continuation.physicalId = answer.physicalId)
      (counted : continuation.polling.attempt = pending.length)
      (late : nanos start + poller.total < nanos ended + poller.interval) :
      Ending (.ok answer) pending (.error (poller.tooLong continuation)) ended
  | beyond {answer : Answer} {pending : List Call} {ended : Nat}
      (pends : ∀ earlier ∈ pending, earlier.Pends)
      (beyond : poller.horizon ≤ nanos ended + poller.interval) :
      Ending (.ok answer) pending (.ok .aborted) ended

end Answer

variable {respond : Flow Answer} {startedAt : Timestamp} {event : Event}

/-- A run that completes has counted its checks. -/
theorem Ending.length_eq {first : Outcome Answer} {calls : List Call} {provisioned : Provisioned}
    (ending : Ending poller start answered first calls (.ok (.provisioned provisioned)) ended) :
    calls.length = provisioned.attempts := by
  cases ending with
  | immediate completes => rfl
  | completed pends told completes => exact List.length_append

/-- After its answer the poller is in its loop. -/
theorem lasts_poll_answered {answer : Answer} {answered : Nat} (positive : 0 < poller.interval)
    (early : start ≤ answered) :
    (poller.poll check (nanos start + poller.total) (poller.total / poller.interval + 1)
      (nanos answered + poller.interval) (Continuation.begin event answer startedAt)).Lasts answered
        log outcome ended ↔
      ∃ calls, Polls poller check (nanos start + poller.total)
        (.begun poller event answer startedAt answered) calls outcome ended ∧
          log = calls.flatMap Call.log := by
  have covered : poller.total < poller.interval * (poller.total / poller.interval + 1) :=
    Nat.lt_mul_div_succ poller.total positive
  rw [Nat.mul_succ, Nat.mul_comm] at covered
  have order := nanos_le_nanos.mpr early
  have ahead : (Head.begun poller event answer startedAt answered).due ≤
      nanos (Head.begun poller event answer startedAt answered).now + poller.interval :=
    Nat.le_refl _
  have enough : nanos start + poller.total <
      (Head.begun poller event answer startedAt answered).due +
        poller.total / poller.interval * poller.interval := by
    show nanos start + poller.total <
      nanos answered + poller.interval + poller.total / poller.interval * poller.interval
    omega
  exact (lasts_poll ahead enough :)

/-- If the clock does not reach as far as the total time, the run is stopped before it begins. -/
theorem lasts_drive_beyond (beyond : poller.horizon ≤ nanos start + poller.total) :
    (poller.drive respond check startedAt event).Lasts start log outcome ended ↔
      log = [] ∧ outcome = .ok .aborted ∧ ended = start := by
  unfold drive
  rw [Flow.lasts_now_bind, if_pos beyond]
  exact Flow.lasts_pure

/-- A run is the answer and what follows it. -/
theorem lasts_drive (positive : 0 < poller.interval)
    (within : nanos start + poller.total < poller.horizon) :
    (poller.drive respond check startedAt event).Lasts start log outcome ended ↔
      ∃ opening first answered calls, respond.Lasts start opening first answered ∧
        Follows poller check start startedAt event answered first calls outcome ended ∧
        log = opening ++ calls.flatMap Call.log := by
  have ticking : poller.interval ≠ 0 := Nat.ne_of_gt positive
  unfold drive
  rw [Flow.lasts_now_bind, if_neg (Nat.not_le_of_lt within), Flow.lasts_bind]
  constructor
  · rintro (⟨failure, fails, rfl⟩ | ⟨opening, answer, answered, rest, answers, lasts, rfl⟩)
    · exact ⟨log, _, ended, [], fails, .failed failure, (List.append_nil log).symm⟩
    · by_cases completes : answer.isComplete = true
      · rw [if_pos completes] at lasts
        obtain ⟨rfl, rfl, rfl⟩ := Flow.lasts_pure.mp lasts
        exact ⟨opening, _, ended, [], answers, .completed completes, rfl⟩
      · rw [if_neg completes, if_neg ticking, Flow.lasts_now_bind] at lasts
        obtain ⟨calls, polls, rfl⟩ := (lasts_poll_answered positive answers.le).mp lasts
        have pending : answer.isComplete = false := Bool.not_eq_true _ ▸ completes
        exact ⟨opening, _, answered, calls, answers, .pending pending polls, rfl⟩
  · rintro ⟨opening, first, answered, calls, answers, follows, rfl⟩
    cases follows with
    | failed failure => exact .inl ⟨failure, by rwa [List.flatMap_nil, List.append_nil], rfl⟩
    | completed completes =>
        refine .inr ⟨opening, _, ended, [], answers, ?_, rfl⟩
        rw [if_pos completes]
        exact Flow.lasts_pure.mpr ⟨rfl, rfl, rfl⟩
    | pending pends polls =>
        refine .inr ⟨opening, _, answered, _, answers, ?_, rfl⟩
        rw [if_neg (by rw [pends]; decide), if_neg ticking, Flow.lasts_now_bind]
        exact (lasts_poll_answered positive answers.le).mpr ⟨calls, polls, rfl⟩

/-- What is begun with an answer is paced by it. -/
theorem paced_begin (poller : Poller) (event : Event) (answer : Answer) (startedAt : Timestamp)
    (answered : Nat) :
    Paced poller answered answer.physicalId 0
      (.begun poller event answer startedAt answered) where
  ahead := Nat.le_refl _
  spaced := by
    show nanos answered + (0 + 1) * poller.interval ≤ nanos answered + poller.interval
    rw [Nat.zero_add, Nat.one_mul]
  attempt := rfl
  named := rfl

/-- Checks in a row that all begin in their time are no more than there are intervals. -/
theorem length_le_of_timely {calls : List Call} (positive : 0 < poller.interval)
    (early : start ≤ answered)
    (timely : ∀ number call, calls[number]? = some call →
      Timely poller start answered (number + 1) call) :
    calls.length ≤ poller.total / poller.interval := by
  rcases calls.eq_nil_or_concat with rfl | ⟨earlier, last, rfl⟩
  · exact Nat.zero_le _
  · rw [List.concat_eq_append, List.length_append, List.length_singleton]
    rw [List.concat_eq_append] at timely
    exact (timely earlier.length last List.getElem?_concat_length).le_div positive early

/-- One more check in its time. -/
theorem timely_concat {pending : List Call}
    (before : ∀ number earlier, pending[number]? = some earlier →
      Timely poller start answered (number + 1) earlier)
    (timely : Timely poller start answered (pending.length + 1) call) :
    ∀ number other, (pending ++ [call])[number]? = some other →
      Timely poller start answered (number + 1) other := by
  intro number other found
  rcases Nat.lt_trichotomy number pending.length with within | rfl | beyond
  · rw [List.getElem?_append_left within] at found
    exact before number other found
  · rw [List.getElem?_concat_length] at found
    cases found
    exact timely
  · rw [List.getElem?_eq_none (by
      rw [List.length_append, List.length_singleton]
      omega)] at found
    cases found

/-- What the loop does after an answer, it does at its pace, and it ends the run. -/
theorem Polls.regular {answer : Answer} {calls : List Call} (positive : 0 < poller.interval)
    (few : poller.total / poller.interval < Number.wordSize 32) (early : start ≤ answered)
    (polls : Polls poller check (nanos start + poller.total) head calls outcome ended)
    (paced : Paced poller answered answer.physicalId 0 head) :
    (∀ number call, calls[number]? = some call →
      Timely poller start answered (number + 1) call) ∧
    Ending poller start answered (.ok answer) calls outcome ended := by
  obtain ⟨pending, last, final, laps, ends, rfl⟩ := polls
  obtain ⟨pace, pends, timely⟩ := laps.paced positive few early paced
  simp only [Nat.zero_add] at pace timely
  cases ends with
  | beyond beyond =>
      rw [List.append_nil]
      exact ⟨timely, .beyond pends beyond⟩
  | late within late =>
      rw [List.append_nil]
      exact ⟨timely, .late pends pace.named pace.attempt late⟩
  | failed made told =>
      exact ⟨timely_concat timely (made.timely pace), .failed pends told⟩
  | completed made told completes =>
      refine ⟨timely_concat timely (made.timely pace), ?_⟩
      rw [pace.named, pace.attempt]
      exact .completed pends told completes

/-- **Checks are an interval apart, and every run ends.** Whatever the controller comes to, and
however long it takes, the check of number `k` begins at least `k` intervals after the answer and at
the latest with the millisecond in which the total time ends, and there are no more checks than
intervals. A run ends with its answer, or with the first check that completes, after as many attempts
as checks, or with the first failure, and asks nothing after that. It fails for want of time only
when another interval would not have fitted in. It is stopped only if the clock does not reach as
far as the total time, and then nothing is asked at all, or as far as the next interval. -/
theorem polling_regular (poller : Poller) (positive : 0 < poller.interval)
    (few : poller.total / poller.interval < Number.wordSize 32) (respond : Flow Answer)
    (check : Continuation → Flow Check) (startedAt : Timestamp) (event : Event) (start : Nat) :
    (∀ settings, poller.run settings startedAt event =
      poller.drive (Engine.respond settings event) (Engine.check settings) startedAt event) ∧
    (∀ (State : Type) (service : Service State) latency state, ∃ log outcome ended,
      (poller.drive respond check startedAt event).run.elapse service latency state start =
        (log, outcome, ended) ∧
      (poller.drive respond check startedAt event).Lasts start log outcome ended) ∧
    (∀ answer answered calls last, start ≤ answered →
      Laps poller check (nanos start + poller.total) (.begun poller event answer startedAt answered)
        calls last →
      calls.length ≤ poller.total / poller.interval) ∧
    (poller.horizon ≤ nanos start + poller.total → ∀ log outcome ended,
      (poller.drive respond check startedAt event).Lasts start log outcome ended →
      log = [] ∧ outcome = .ok .aborted ∧ ended = start) ∧
    (nanos start + poller.total < poller.horizon → ∀ log outcome ended,
      (poller.drive respond check startedAt event).Lasts start log outcome ended →
      ∃ opening first answered calls, respond.Lasts start opening first answered ∧
        log = opening ++ calls.flatMap Call.log ∧
        Follows poller check start startedAt event answered first calls outcome ended ∧
        (∀ number call, calls[number]? = some call →
          Timely poller start answered (number + 1) call) ∧
        calls.length ≤ poller.total / poller.interval ∧
        Ending poller start answered first calls outcome ended) := by
  refine ⟨fun settings => run_eq_drive poller settings startedAt event, ?_, ?_, ?_, ?_⟩
  · intro State service latency state
    exact ⟨_, _, _, rfl, Dialogue.lasts_elapse service latency _ state start⟩
  · intro answer answered calls last early laps
    have begun := paced_begin poller event answer startedAt answered
    obtain ⟨-, -, timely⟩ := laps.paced positive few early begun
    simp only [Nat.zero_add] at timely
    exact length_le_of_timely positive early timely
  · intro beyond log outcome ended lasts
    exact (lasts_drive_beyond beyond).mp lasts
  · intro within log outcome ended lasts
    obtain ⟨opening, first, answered, calls, answers, follows, split⟩ :=
      (lasts_drive positive within).mp lasts
    have none : ∀ number (call : Call), ([] : List Call)[number]? = some call →
        Timely poller start answered (number + 1) call := fun number call found =>
      absurd found.symm (Option.some_ne_none call)
    have regular : (∀ number call, calls[number]? = some call →
        Timely poller start answered (number + 1) call) ∧
        Ending poller start answered first calls outcome ended := by
      cases follows with
      | failed failure => exact ⟨none, .refused failure⟩
      | completed completes => exact ⟨none, .immediate completes⟩
      | pending pends polls =>
          exact polls.regular positive few answers.le (paced_begin poller event _ startedAt _)
    exact ⟨opening, first, answered, calls, answers, split, follows, regular.1,
      length_le_of_timely positive answers.le regular.1, regular.2⟩

/-! ## A check that is late, and a clock that is too short -/

/-- A check after a millisecond and a half, and no more time than that. -/
def halfway : Poller := { interval := 1500000, total := 1500000 }

/-- The longest total time that settings can tell. -/
def longest : Settings.Engine :=
  { polling := { intervalSecs := 4294967297, totalSecs := 18446744073709551615 } }

/-- An answer that leaves an event pending. -/
def deferred : Answer := .pending "sales" []

/-- A check that finds every event complete. -/
def satisfied (_ : Continuation) : Flow Check := pure (.complete [])

/-- Where the loop begins if the answer takes no time. -/
def halfwayHead : Head := .begun halfway Namespace.auditing deferred Rehearsal.beginning 0

/-- The tick is due in the midst of the second millisecond, and so it is seen two milliseconds after
the answer. -/
theorem made_halfway :
    Made halfway satisfied (nanos 0 + halfway.total) halfwayHead
      ⟨halfwayHead.continuation, 2, [], .ok (.complete []), 2⟩ where
  within := by decide
  early := by decide
  about := rfl
  began := by decide
  lasts := Flow.lasts_pure.mpr ⟨rfl, rfl, rfl⟩

/-- A check that begins after the total time completes its run; and with a total time that the clock
does not reach nothing is asked, so that no answer completes the run. -/
theorem polling_overruns :
    (0 < halfway.interval ∧ halfway.total / halfway.interval < Number.wordSize 32 ∧
      ∃ call, (halfway.drive (pure deferred) satisfied Rehearsal.beginning
          Namespace.auditing).Lasts 0 call.log (.ok (.provisioned ⟨"sales", [], 1⟩)) 2 ∧
        Follows halfway satisfied 0 Rehearsal.beginning Namespace.auditing 0 (.ok deferred) [call]
          (.ok (.provisioned ⟨"sales", [], 1⟩)) 2 ∧
        nanos 0 + halfway.total < nanos call.began) ∧
      0 < (Poller.ofSettings longest).interval ∧
      (Poller.ofSettings longest).total / (Poller.ofSettings longest).interval <
        Number.wordSize 32 ∧
      ∀ respond check startedAt event,
        ((Poller.ofSettings longest).drive respond check startedAt event).Lasts 0 []
          (.ok .aborted) 0 := by
  have positive : 0 < halfway.interval := by decide
  have within : nanos 0 + halfway.total < halfway.horizon := by decide
  refine ⟨⟨positive, by decide, ?_⟩, by decide, by decide, ?_⟩
  · have follows := Follows.pending rfl (polls_iff.mpr (.inl (.completed made_halfway rfl rfl)))
    refine ⟨_, (lasts_drive positive within).mpr ?_, follows, by decide⟩
    exact ⟨[], _, 0, _, Flow.lasts_pure.mpr ⟨rfl, rfl, rfl⟩, follows, rfl⟩
  · intro respond check startedAt event
    exact (lasts_drive_beyond (by decide)).mpr ⟨rfl, rfl, rfl⟩

/-! ## A slow check -/

/-- The identifier and the attempts of a run that has not been stopped. -/
def counted : Driven → Option (String × Nat)
  | .provisioned outcome => some (outcome.physicalId, outcome.attempts)
  | .aborted => none

/-- Checks every twenty milliseconds, for a fifth of a second. -/
def brisk : Poller := { interval := nanos 20, total := nanos 200 }

/-- A warehouse that is still at the change when it is read again, and another service that is
away. -/
def warehouse : Service Nat := fun request count =>
  let reply : request.Reply :=
    match request with
    | .getNamespace _ =>
        if count = 0 then .ok (some (Namespace.sales .available []))
        else if count = 2 then .ok (some (Namespace.sales .modifying ["useractivitylog"]))
        else .ok (some (Namespace.sales .available ["useractivitylog"]))
    | .updateNamespace _ => .ok (Namespace.sales .modifying ["useractivitylog"])
    | .createNamespace _ => .error (.transient "away")
    | .deleteNamespace _ => .error (.transient "away")
    | .describeCluster _ => .error (.transient "away")
    | .updateConnectivity _ _ _ => .error (.transient "away")
    | .getSecret _ => .error (.transient "away")
    | .connect _ => .error ⟨.brokerNotAvailable, "away"⟩
    | .admin _ _ => .error ⟨.brokerNotAvailable, "away"⟩
  (reply, count + 1)

/-- The third request takes longer than two intervals. -/
def slow (_ : Dialogue.Request) (count : Nat) : Nat :=
  if count = 2 then 45 else 10

/-- The second check is made as soon as the slow one has ended, and completes the run. -/
theorem polling_regular_slow :
    ∃ log data answered, ∃ calls : List Call,
      (brisk.run {} Rehearsal.beginning Namespace.auditing).Lasts 0 log
        (.ok (.provisioned ⟨"sales", data, 2⟩)) 95 ∧
      calls.length = 2 ∧
      ∀ number call, calls[number]? = some call → Timely brisk 0 answered (number + 1) call := by
  obtain ⟨driven, ends, -, -, regular⟩ := polling_regular brisk (by decide) (by decide)
    (Engine.respond {} Namespace.auditing) (Engine.check {}) Rehearsal.beginning
    Namespace.auditing 0
  rw [← driven {}] at ends regular
  obtain ⟨log, outcome, ended, elapsed, lasts⟩ := ends Nat warehouse slow 0
  have seen : ((brisk.run {} Rehearsal.beginning Namespace.auditing).run.elapse warehouse slow 0
      0).2.1.toOption.bind counted = some ("sales", 2) ∧
      ((brisk.run {} Rehearsal.beginning Namespace.auditing).run.elapse warehouse slow 0 0).2.2 =
        95 := by
    decide +kernel
  rw [elapsed] at seen
  obtain ⟨told, rfl⟩ := seen
  cases outcome with
  | error failure => cases told
  | ok driven =>
      cases driven with
      | aborted => cases told
      | provisioned outcome =>
          obtain ⟨id, data, attempts⟩ := outcome
          cases told
          obtain ⟨opening, first, answered, calls, -, -, -, timely, -, ending⟩ :=
            regular (by decide) _ _ _ lasts
          refine ⟨log, data, answered, calls, lasts, ?_, timely⟩
          exact ending.length_eq

end Poller

end Provision.Engine
