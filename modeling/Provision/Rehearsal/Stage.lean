import Provision.Engine.Poller
import Provision.Json.Printer
import Provision.Rehearsal.World

/-!
# The stage of a rehearsal

The engine's settings, the world, and the continuation that the next check goes on with.  Acts on
the stage are what a caller of the engine does.
-/

set_option autoImplicit false

namespace Provision.Rehearsal

open Dialogue (AdminCall)
open Engine (Poller Provisioned)
open Lifecycle (Answer Check Continuation Event)
open Time (Timestamp)

/-- Where a rehearsal stands. -/
structure Stage where
  settings : Settings.Engine
  world : World
  continuation : Option Continuation

/-- What came of an act. -/
inductive Acted (α : Type) where
  | value (result : α)
  | failed (failure : Failure)
  /-- A check without anything to check. -/
  | nothingPending
  /-- A wait that never ends. -/
  | stuck
  /-- A run that has been stopped. -/
  | aborted

/-- When rehearsals begin. -/
def beginning : Timestamp :=
  { date := ⟨2024, 1, 1, by decide⟩, hour := 0, minute := 0, second := 0, nano := 0
    hour_lt := by decide, minute_lt := by decide, second_lt := by decide, nano_lt := by decide }

namespace Stage

/-- Runs a flow in the world. -/
def play {α : Type} (stage : Stage) (flow : Flow α) : Acted α × Stage :=
  let (result, world) := Rehearsal.run flow.run stage.world
  let after := { stage with world }
  match result with
  | some (.ok value) => (.value value, after)
  | some (.error failure) => (.failed failure, after)
  | none => (.stuck, after)

/-- Answers an event; the answer, or a pending one in its place, is what a check goes on with. -/
def handle (stage : Stage) (event : Event) : Acted Answer × Stage :=
  let (acted, after) := stage.play (Engine.respond stage.settings event)
  let answer :=
    match acted with
    | .value answer => answer
    | _ => Answer.pending (event.physicalId.getD "") []
  (acted, { after with continuation := some (Continuation.begin event answer beginning) })

/-- Takes a continuation through its text. -/
def throughText (continuation : Continuation) : Outcome Continuation :=
  match Continuation.codec.read (Json.compact (Continuation.codec.encode continuation)) with
  | .ok read => .ok read
  | .error fault => .error ⟨.json, fault.message⟩

/-- Checks what is pending: the check and the number of attempts. -/
def check (stage : Stage) : Acted (Check × Nat) × Stage :=
  match stage.continuation with
  | none => (.nothingPending, stage)
  | some given =>
      let flow : Flow (Check × Continuation) := do
        let continuation ← Flow.ofOutcome (throughText given)
        let result ← Engine.check stage.settings continuation
        pure (result, continuation.advance result)
      match stage.play flow with
      | (.value (result, next), after) =>
          (.value (result, next.polling.attempt), { after with continuation := some next })
      | (.failed failure, after) => (.failed failure, after)
      | (.nothingPending, after) => (.nothingPending, after)
      | (.stuck, after) => (.stuck, after)
      | (.aborted, after) => (.aborted, after)

/-- Drives an event to its end. -/
def provision (stage : Stage) (poller : Poller) (event : Event) : Acted Provisioned × Stage :=
  match stage.play (poller.run stage.settings beginning event) with
  | (.value (.provisioned outcome), after) => (.value outcome, after)
  | (.value .aborted, after) => (.aborted, after)
  | (.failed failure, after) => (.failed failure, after)
  | (.nothingPending, after) => (.nothingPending, after)
  | (.stuck, after) => (.stuck, after)
  | (.aborted, after) => (.aborted, after)

/-- The result of a call within a session. -/
abbrev CallResult := (call : AdminCall) × Except Session.AdminFailure call.Result

/-- Opens a session and makes calls in it. -/
def openSession (stage : Stage) (properties : Session.Properties) (calls : List AdminCall) :
    Acted (Session.Handle × List CallResult) × Stage :=
  stage.play do
    let handle ← Session.openSession (.ofSettings stage.settings) properties
    let results ← calls.mapM fun call => do
      let result ← ExceptT.lift (handle.request call)
      pure (⟨call, result⟩ : CallResult)
    pure (handle, results)

end Stage

end Provision.Rehearsal
