import Provision.Lifecycle.Event
import Provision.Number.Word
import Provision.Time.Timestamp

/-!
# Continuations

Completion is checked by independent calls, so all that a check needs travels with the
continuation: the event, the state of the polling and the checkpoint of the last answer.
-/

set_option autoImplicit false

namespace Provision.Lifecycle

open Json (Codec Record)
open Time (Timestamp)

/-- The result of one check. -/
structure Check where
  isComplete : Bool
  data : Properties
  checkpoint : Properties
  lastError : Option String

namespace Check

/-- The fields of a check. -/
def record : Record Check Check :=
  Check.mk
    <$> .required "IsComplete" Codec.flag Check.isComplete
    <*> .defaulted "Data" Codec.properties [] Check.data
    <*> .emptySkipped "Checkpoint" Check.checkpoint
    <*> .optional "LastError" Codec.text Check.lastError

/-- Checks as objects. -/
def codec : Codec Check := record.codec "CompletionCheck"

/-- A finished check. -/
def complete (data : Properties) : Check :=
  { isComplete := true, data, checkpoint := [], lastError := none }

/-- A check that is not finished. -/
def pending (checkpoint : Properties) : Check :=
  { isComplete := false, data := [], checkpoint, lastError := none }

/-- The check that an answer amounts to. -/
def ofAnswer (answer : Answer) : Check :=
  if answer.isComplete then complete answer.data else pending answer.checkpoint

end Check

/-- The state of the polling. -/
structure Polling where
  physicalId : String
  startedAt : Timestamp
  attempt : Nat
  lastError : Option String

/-- The fields of the polling state. -/
def Polling.record : Record Polling Polling :=
  Polling.mk
    <$> .required "physicalId" Codec.text Polling.physicalId
    <*> .required "startedAt" Timestamp.codec Polling.startedAt
    <*> .required "attempt" (Codec.unsigned 32) Polling.attempt
    <*> .optional "lastError" Codec.text Polling.lastError

/-- What travels from check to check. -/
structure Continuation where
  event : Event
  polling : Polling
  checkpoint : Properties

namespace Continuation

/-- The fields of a continuation. -/
def record : Record Continuation Continuation :=
  Continuation.mk
    <$> .required "event" Event.codec Continuation.event
    <*> .required "poll" (Polling.record.codec "PollState") Continuation.polling
    <*> .defaulted "checkpoint" Codec.properties [] Continuation.checkpoint

/-- Continuations as objects. -/
def codec : Codec Continuation := record.codec "Continuation"

/-- The continuation of an answered event; the event takes over the answer's identifier. -/
def begin (event : Event) (answer : Answer) (startedAt : Timestamp) : Continuation :=
  { event := { event with physicalId := some answer.physicalId }
    polling :=
      { physicalId := answer.physicalId, startedAt, attempt := 0, lastError := none }
    checkpoint := answer.checkpoint }

/-- The identifier of the resource. -/
def physicalId (continuation : Continuation) : String :=
  continuation.polling.physicalId

/-- The continuation after a check. -/
def advance (continuation : Continuation) (check : Check) : Continuation :=
  { continuation with
    polling :=
      { continuation.polling with
        attempt := Number.wrapped 32 (continuation.polling.attempt + 1)
        lastError := check.lastError }
    checkpoint := check.checkpoint }

/-- Whole milliseconds since the start. -/
def elapsedMs (continuation : Continuation) (now : Timestamp) : Int :=
  now.millisBetween continuation.polling.startedAt

end Continuation

end Provision.Lifecycle
