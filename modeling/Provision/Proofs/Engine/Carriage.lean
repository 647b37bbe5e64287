import Provision.Engine.Poller
import Provision.Proofs.Dialogue.Transcript
import Provision.Proofs.Json.Canonical
import Provision.Proofs.Time.Reading

/-!
# Continuations carried as JSON

A check may run in another process than the one before it, and then nothing reaches it but the JSON
form of the continuation. Nothing is lost on the way: events, answers, checks and continuations are
decoded again from what they are encoded as, with whatever properties they carry and whenever the
polling began (`Continuation.codec_keeps`). Only if it began in a leap second that follows another
second than 59, it is taken to have begun in the second that comes next (`Continuation.settled`).

So a poller that keeps nothing but the encoded continuation between two checks (`runCarried`) never
fails to decode it, and asks and tells the same as one that keeps the continuation itself
(`carriage_faithful`).
-/

set_option autoImplicit false

namespace Provision

open Json (Codec Record)
open Lifecycle (Answer Check Continuation Event)
open Time (Timestamp)

/-! ## What travels -/

theorem Time.Timestamp.codec_keeps {time : Timestamp} (regular : time.Regular) :
    Timestamp.codec.Keeps time := by
  simp only [Codec.Keeps, Timestamp.codec, Codec.ofScalar, Timestamp.decode,
    Timestamp.ofText_toText, Timestamp.settled_of_regular regular]

namespace Lifecycle

theorem Request.codec_keeps (request : Request) : Request.codec.Keeps request := by
  cases request <;> rfl

theorem Event.codec_keeps (event : Event) : Event.codec.Keeps event :=
  Record.codec_keeps "LifecycleEvent" (by decide) <|
    (Record.keeps_required (Request.codec_keeps _)).map Event.mk
      |>.seq (Record.keeps_required (Codec.keeps_text _))
      |>.seq (Record.keeps_defaulted (Codec.keeps_properties _))
      |>.seq (Record.keeps_optional fun _ _ => Codec.keeps_nullable_properties _)
      |>.seq (Record.keeps_optional fun _ _ => Codec.keeps_nullable_text _)

theorem Answer.codec_keeps (answer : Answer) : Answer.codec.Keeps answer :=
  Record.codec_keeps "ReconciliationResult" (by decide) <|
    (Record.keeps_required (Codec.keeps_text _)).map Answer.mk
      |>.seq (Record.keeps_defaulted (Codec.keeps_properties _))
      |>.seq (Record.keeps_required (Codec.keeps_flag _))
      |>.seq Record.keeps_emptySkipped

theorem Check.codec_keeps (check : Check) : Check.codec.Keeps check :=
  Record.codec_keeps "CompletionCheck" (by decide) <|
    (Record.keeps_required (Codec.keeps_flag _)).map Check.mk
      |>.seq (Record.keeps_defaulted (Codec.keeps_properties _))
      |>.seq Record.keeps_emptySkipped
      |>.seq (Record.keeps_optional fun _ _ => Codec.keeps_nullable_text _)

/-- The number of checks fits its word. -/
def Polling.Fits (polling : Polling) : Prop :=
  polling.attempt < Number.wordSize 32

theorem Polling.codec_keeps {polling : Polling} (fits : polling.Fits)
    (regular : polling.startedAt.Regular) : (Polling.record.codec "PollState").Keeps polling :=
  Record.codec_keeps "PollState" (by decide) <|
    (Record.keeps_required (Codec.keeps_text _)).map Polling.mk
      |>.seq (Record.keeps_required (Timestamp.codec_keeps regular))
      |>.seq (Record.keeps_required (Codec.keeps_unsigned fits))
      |>.seq (Record.keeps_optional fun _ _ => Codec.keeps_nullable_text _)

/-- The state of the polling as its JSON form is read. -/
def Polling.settled (polling : Polling) : Polling :=
  { polling with startedAt := polling.startedAt.settled }

theorem Polling.encode_settled (polling : Polling) :
    (Polling.record.codec "PollState").encode polling.settled =
      (Polling.record.codec "PollState").encode polling := by
  show Json.object (_ ++ [("startedAt", Json.text polling.startedAt.settled.toText)] ++ _ ++ _) = _
  rw [Timestamp.toText_settled]
  rfl

namespace Continuation

/-- **A continuation is decoded again from what it is encoded as.** -/
theorem codec_keeps {continuation : Continuation} (fits : continuation.polling.Fits)
    (regular : continuation.polling.startedAt.Regular) : Continuation.codec.Keeps continuation :=
  Record.codec_keeps "Continuation" (by decide) <|
    (Record.keeps_required (Event.codec_keeps _)).map Continuation.mk
      |>.seq (Record.keeps_required (Polling.codec_keeps fits regular))
      |>.seq (Record.keeps_defaulted (Codec.keeps_properties _))

/-- The continuation as its JSON form is read. -/
def settled (continuation : Continuation) : Continuation :=
  { continuation with polling := continuation.polling.settled }

/-- The continuation that is read is written as the one that it is read from. -/
theorem encode_settled (continuation : Continuation) :
    Continuation.codec.encode continuation.settled = Continuation.codec.encode continuation := by
  show Json.object (_ ++
    [("poll", (Polling.record.codec "PollState").encode continuation.polling.settled)] ++ _) = _
  rw [Polling.encode_settled]
  rfl

/-- Every continuation is read, as itself or as one that began in the second that shows. -/
theorem decode_encode {continuation : Continuation} (fits : continuation.polling.Fits) :
    Continuation.codec.decode (Continuation.codec.encode continuation) =
      .ok continuation.settled := by
  rw [← encode_settled]
  exact codec_keeps fits (Timestamp.settled_regular _)

theorem settled_eq_self_iff {continuation : Continuation} :
    continuation.settled = continuation ↔ continuation.polling.startedAt.Regular := by
  rw [← Timestamp.settled_eq_self_iff]
  constructor
  · intro same
    exact congrArg (fun other => other.polling.startedAt) same
  · intro same
    unfold settled Polling.settled
    rw [same]

theorem begin_fits (event : Event) (answer : Answer) (startedAt : Timestamp) :
    (begin event answer startedAt).polling.Fits :=
  Number.wordSize_pos 32

theorem advance_fits (continuation : Continuation) (check : Check) :
    (continuation.advance check).polling.Fits :=
  Number.wrapped_lt 32 _

end Continuation

end Lifecycle

/-! ## Polling -/

namespace Engine.Poller

/-- The continuation that has been carried. -/
def received (carried : Json) : Outcome Continuation :=
  match Continuation.codec.decode carried with
  | .ok continuation => .ok continuation
  | .error fault => .error ⟨.json, fault.message⟩

/-- Checks at every tick until the end, and carries the continuation as JSON from check to check. -/
def pollCarried (poller : Poller) (check : Continuation → Flow Check) (deadline : Nat) :
    Nat → Nat → Json → Flow Driven
  | 0, _, carried => do
      let continuation ← Flow.ofOutcome (received carried)
      throw (poller.tooLong continuation)
  | fuel + 1, due, carried => do
      let continuation ← Flow.ofOutcome (received carried)
      let now ← ExceptT.lift Dialogue.now
      if poller.horizon ≤ nanos now + poller.interval then return .aborted
      if deadline < nanos now + poller.interval then throw (poller.tooLong continuation)
      let seen ← ExceptT.lift (tick due)
      let result ← check continuation
      if result.isComplete then
        return .provisioned
          { physicalId := continuation.physicalId
            data := result.data
            attempts := continuation.polling.attempt + 1 }
      poller.pollCarried check deadline fuel (poller.nextDue due seen)
        (Continuation.codec.encode (continuation.advance result))

/-- Drives an event to its end, with the continuation carried as JSON from check to check. -/
def runCarried (poller : Poller) (settings : Settings.Engine) (startedAt : Timestamp)
    (event : Event) : Flow Driven := do
  let start ← ExceptT.lift Dialogue.now
  if poller.horizon ≤ nanos start + poller.total then return .aborted
  let answer ← respond settings event
  if answer.isComplete then
    return .provisioned { physicalId := answer.physicalId, data := answer.data, attempts := 0 }
  if poller.interval = 0 then return .aborted
  let answered ← ExceptT.lift Dialogue.now
  poller.pollCarried (check settings) (nanos start + poller.total)
    (poller.total / poller.interval + 1) (nanos answered + poller.interval)
    (Continuation.codec.encode (Continuation.begin event answer startedAt))

variable {continuation : Continuation}

/-- What has been sent arrives. -/
theorem received_encode (fits : continuation.polling.Fits) :
    received (Continuation.codec.encode continuation) = .ok continuation.settled := by
  unfold received
  rw [Continuation.decode_encode fits]

/-- Checks come to the same whether the continuation is carried or kept. -/
theorem pollCarried_encode (poller : Poller) (check : Continuation → Flow Check)
    (deadline fuel due : Nat) (fits : continuation.polling.Fits) :
    poller.pollCarried check deadline fuel due (Continuation.codec.encode continuation) =
      poller.poll check deadline fuel due continuation.settled := by
  induction fuel generalizing due continuation with
  | zero =>
      rw [pollCarried, received_encode fits]
      rfl
  | succ fuel ih =>
      -- What has arrived once arrives as itself at every later check.
      have next : ∀ due result, poller.pollCarried check deadline fuel due
          (Continuation.codec.encode (continuation.settled.advance result)) =
            poller.poll check deadline fuel due (continuation.settled.advance result) := by
        intro due result
        have same : (continuation.settled.advance result).settled =
            continuation.settled.advance result :=
          Continuation.settled_eq_self_iff.mpr (Timestamp.settled_regular _)
        rw [ih due (continuation.settled.advance_fits result), same]
      rw [pollCarried, received_encode fits, Flow.ofOutcome_ok_bind]
      simp only [next]
      rfl

theorem runCarried_eq_run (poller : Poller) (settings : Settings.Engine) (startedAt : Timestamp)
    (event : Event) :
    poller.runCarried settings startedAt event =
      poller.run settings startedAt.settled event := by
  unfold runCarried run
  have start := Continuation.begin_fits event
  simp only [pollCarried_encode poller (check settings) _ _ _ (start _ startedAt)]
  rfl

/-- **Nothing is lost between two checks.** Whatever travels is decoded again from what it is
encoded as, but for a beginning in a leap second that does not show. So a poller that carries the
continuation as JSON comes to the same as one that keeps it. -/
theorem carriage_faithful :
    (∀ event, Event.codec.Keeps event) ∧
      (∀ answer, Answer.codec.Keeps answer) ∧
      (∀ check, Check.codec.Keeps check) ∧
      (∀ continuation : Continuation, continuation.polling.Fits →
        Continuation.codec.decode (Continuation.codec.encode continuation) =
          .ok continuation.settled) ∧
      (∀ continuation : Continuation,
        continuation.settled = continuation ↔ continuation.polling.startedAt.Regular) ∧
      ∀ (poller : Poller) settings startedAt event,
        poller.runCarried settings startedAt event =
            poller.run settings startedAt.settled event ∧
          (startedAt.Regular → poller.runCarried settings startedAt event =
            poller.run settings startedAt event) := by
  refine ⟨Event.codec_keeps, Answer.codec_keeps, Check.codec_keeps,
    fun _ => Continuation.decode_encode, fun _ => Continuation.settled_eq_self_iff, ?_⟩
  intro poller settings startedAt event
  have same := runCarried_eq_run poller settings startedAt event
  refine ⟨same, fun regular => ?_⟩
  rw [same, Timestamp.settled_of_regular regular]

/-- The last nanosecond of the leap second at the end of the first year that there is. -/
def earliestLeap : Timestamp :=
  { date := { year := -262143, month := 12, day := 31, isDate := by decide }
    hour := 23
    minute := 59
    second := 59
    nano := 1999999999
    hour_lt := by decide
    minute_lt := by decide
    second_lt := by decide
    nano_lt := by decide }

/-- An update has been checked for as often as can be counted. Its old properties are there, and
empty, and so is its identifier. -/
def worn : Continuation :=
  { event :=
      { request := .update
        resourceType := "Topic"
        properties := [("name", .text "orders"), ("labels", .list [.null, .whole (-1)])]
        oldProperties := some []
        physicalId := some "" }
    polling :=
      { physicalId := "orders"
        startedAt := earliestLeap
        attempt := 4294967295
        lastError := some "" }
    checkpoint := [] }

/-- The continuation is carried from a leap second of a year before the first. -/
theorem carriage_faithful_worn :
    worn.polling.Fits ∧ earliestLeap.toText = "-262143-12-31T23:59:60.999999999Z" ∧
      Continuation.codec.Keeps worn := by
  obtain ⟨-, -, -, continuations, regular, -⟩ := carriage_faithful
  have fits : worn.polling.Fits := show 4294967295 < Number.wordSize 32 by decide
  have carried := continuations worn fits
  rw [(regular worn).mpr (.inr rfl)] at carried
  exact ⟨fits, by decide +kernel, carried⟩

/-- An instant within a leap second in the midst of a minute. -/
def midMinuteLeap : Timestamp :=
  { date := { year := 2016, month := 12, day := 31, isDate := by decide }
    hour := 23
    minute := 56
    second := 4
    nano := 1333333333
    hour_lt := by decide
    minute_lt := by decide
    second_lt := by decide
    nano_lt := by decide }

/-- A second after the one that is written for the leap second. -/
def afterMidMinuteLeap : Timestamp :=
  { midMinuteLeap with
    second := 6
    nano := 333333333
    second_lt := by decide
    nano_lt := by decide }

/-- The polling began within that leap second. -/
def begunMidMinute : Continuation :=
  { worn with polling := { worn.polling with startedAt := midMinuteLeap } }

/-- What arrives began in the second that is written for the leap second, and so a second later than
what has been sent. -/
theorem leap_second_displaced :
    midMinuteLeap.toText = "2016-12-31T23:56:05.333333333Z" ∧ begunMidMinute.polling.Fits ∧
      ∃ carried, Continuation.codec.decode (Continuation.codec.encode begunMidMinute) =
          .ok carried ∧
        carried ≠ begunMidMinute ∧ begunMidMinute.elapsedMs afterMidMinuteLeap = 2000 ∧
        carried.elapsedMs afterMidMinuteLeap = 1000 := by
  have fits : begunMidMinute.polling.Fits := show 4294967295 < Number.wordSize 32 by decide
  refine ⟨by decide +kernel, fits, _, Continuation.decode_encode fits, ?_, by decide +kernel,
    by decide +kernel⟩
  intro same
  rcases Continuation.settled_eq_self_iff.mp same with short | last
  · exact absurd short (by decide)
  · exact absurd last (by decide)

end Engine.Poller

end Provision
