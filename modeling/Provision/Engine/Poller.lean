import Provision.Engine.Controller

/-!
# The poller

Drives an event to its end: answers it once, then checks at regular intervals until it is complete
or fails, or until the next interval would pass the total time.  The interval runs from tick to
tick; only a tick that is seen more than five milliseconds late moves the ones after it.

Durations are nanoseconds.  The clock moves in whole milliseconds, as its timers do, so a tick in
the course of a millisecond is seen at the end of it.  The clock has an end, and to count on past
it, as also to ask for ticks without an interval, stops the run for good.
-/

set_option autoImplicit false

namespace Provision.Engine

open Lifecycle (Answer Check Continuation Event)
open Time (Timestamp)

/-- The nanoseconds of so many milliseconds. -/
def nanos (millis : Nat) : Nat := millis * 1000000

/-- The first millisecond that begins at an instant or later. -/
def millisFrom (instant : Nat) : Nat := (instant + 999999) / 1000000

/-- How an event is polled; times are nanoseconds. -/
structure Poller where
  interval : Nat
  total : Nat
  /-- The first instant that is no instant of the clock any more.  Usually seconds are counted in 63
  bits, and at least one has passed before a run. -/
  horizon : Nat := (Number.wordSize 63 - 1) * 1000000000

/-- The poller that the settings describe. -/
def Poller.ofSettings (settings : Settings.Engine) : Poller :=
  { interval := settings.polling.intervalSecs * 1000000000
    total := settings.polling.totalSecs * 1000000000 }

/-- An event driven to its end. -/
structure Provisioned where
  physicalId : String
  data : Properties
  attempts : Nat

/-- What comes of a run. -/
inductive Driven where
  | provisioned (outcome : Provisioned)
  /-- The run has been stopped. -/
  | aborted

namespace Poller

/-- How late a tick may be seen without moving the next one. -/
def tolerance : Nat := 5000000

/-- When the next tick is due, after one that was due at `due` and seen at the millisecond. -/
def nextDue (poller : Poller) (due seen : Nat) : Nat :=
  if due + tolerance < nanos seen then nanos seen + poller.interval else due + poller.interval

/-- The failure of polling for too long. -/
def tooLong (poller : Poller) (continuation : Continuation) : Failure :=
  ⟨.timeout,
    continuation.physicalId ++ " 在 " ++ Number.decimal (poller.total / 1000000000)
      ++ " 秒内未完成（已检查 " ++ Number.decimal continuation.polling.attempt
      ++ " 次，最近错误: " ++ continuation.polling.lastError.getD "无" ++ "）"⟩

/-- Waits for a tick: the millisecond at which it was seen. -/
def tick (due : Nat) : Dialogue Nat := do
  let now ← Dialogue.now
  if now < millisFrom due then
    Dialogue.sleep (millisFrom due - now)
    pure (millisFrom due)
  else pure now

/-- Checks at every tick until the end; `fuel` bounds the number of checks. -/
def poll (poller : Poller) (check : Continuation → Flow Check) (deadline : Nat) :
    Nat → Nat → Continuation → Flow Driven
  | 0, _, continuation => throw (poller.tooLong continuation)
  | fuel + 1, due, continuation => do
      let now ← ExceptT.lift Dialogue.now
      if poller.horizon ≤ nanos now + poller.interval then return .aborted
      if deadline < nanos now + poller.interval then throw (poller.tooLong continuation)
      let seen ← ExceptT.lift (tick due)
      let result ← check continuation
      if result.isComplete then
        return .provisioned
          { physicalId := continuation.physicalId
            data := result.data
            attempts := continuation.polling.attempt + 1 }
      poller.poll check deadline fuel (poller.nextDue due seen) (continuation.advance result)

/-- Drives an event to its end. -/
def run (poller : Poller) (settings : Settings.Engine) (startedAt : Timestamp) (event : Event) :
    Flow Driven := do
  let start ← ExceptT.lift Dialogue.now
  if poller.horizon ≤ nanos start + poller.total then return .aborted
  let answer ← respond settings event
  if answer.isComplete then
    return .provisioned { physicalId := answer.physicalId, data := answer.data, attempts := 0 }
  if poller.interval = 0 then return .aborted
  let answered ← ExceptT.lift Dialogue.now
  poller.poll (check settings) (nanos start + poller.total) (poller.total / poller.interval + 1)
    (nanos answered + poller.interval) (Continuation.begin event answer startedAt)

end Poller

end Provision.Engine
