import Provision.Proofs.Topic.Recovery

/-!
# Waiting for leaders

An answer about a topic has two parts. First the topic is created, grown or deleted (`prepare`), and
then, if the declaration asks for it, every partition has to get a leader (`Prepared.finish`). A
wait is a loop of one question per turn (`awaitLeaders_run`).
-/

set_option autoImplicit false

namespace Provision

open Dialogue (AdminCall Request)
open Lifecycle (Answer Event)
open Session (AdminFailure Handle Opening TopicDeclaration openSession)

namespace Topic

/-! ## One turn of a wait -/

/-- What the reply to a question says about the wait; without a reply the wait goes on. -/
def settledBy? : Option (Except AdminFailure (Option Description)) → Option (Outcome Unit)
  | some answer => settled? answer
  | none => none

/-- Whether a wait is given up after a question that was asked and answered at the given times. -/
def givesUp (interval : Nat) (handle : Handle) (deadline asked answered : Nat)
    (reply : Option (Except AdminFailure (Option Description))) : Bool :=
  reply.isNone && decide (deadline - asked < handle.requestMs)
    || decide (deadline < answered + interval)

/-- A turn asks for the partitions once, and is over with the reply or goes on to the next turn. -/
theorem awaitLeaders_run (interval : Nat) (handle : Handle) (spec : Spec) (deadline fuel : Nat) :
    (awaitLeaders interval handle spec deadline (fuel + 1)).run =
      .clock fun asked =>
        .askWithin (min handle.requestMs (deadline - asked))
          (.admin handle.cluster (.describePartitions spec.name)) fun reply =>
            match settledBy? reply with
            | some outcome => .done outcome
            | none => .clock fun answered =>
                if givesUp interval handle deadline asked answered reply then
                  .pause (deadline - answered) fun _ => .done (.error (noLeaders spec))
                else
                  .pause interval fun _ =>
                    (awaitLeaders interval handle spec deadline fuel).run := by
  show Dialogue.clock _ = _
  congr 1
  funext asked
  show Dialogue.askWithin _ _ _ = _
  congr 1
  funext reply
  cases reply with
  | none => rfl
  | some answer =>
      show (match settled? answer with | some outcome => _ | none => _ : Dialogue _) =
        match settled? answer with | some outcome => _ | none => _
      cases settled? answer with
      | none => rfl
      | some outcome => rfl

/-! ## Answers in two parts -/

/-- What comes before the wait: the answer that is given afterwards, and the session and the
declaration of the topic whose leaders are to be waited for, if there are any. -/
structure Prepared where
  answer : Answer
  awaited? : Option (Handle × Spec)

/-- Waits for the leaders and answers. -/
def Prepared.finish (leaders : Settings.Leaders) (prepared : Prepared) : Flow Answer := do
  match prepared.awaited? with
  | some (handle, spec) => awaitLeadersIfAsked leaders handle spec
  | none => pure ()
  pure prepared.answer

theorem Prepared.finish_eq {leaders : Settings.Leaders} {prepared : Prepared} {handle : Handle}
    {spec : Spec} (awaited : prepared.awaited? = some (handle, spec)) :
    prepared.finish leaders =
      awaitLeadersIfAsked leaders handle spec >>= fun _ => pure prepared.answer := by
  unfold finish
  rw [awaited]

/-- Whoever asks for leaders waits for them until the declared time has passed. -/
theorem awaitLeadersIfAsked_of_waits {leaders : Settings.Leaders} {handle : Handle} {spec : Spec}
    (waits : spec.waitForLeaders = true) :
    awaitLeadersIfAsked leaders handle spec =
      ExceptT.lift Dialogue.now >>= fun start =>
        awaitLeaders leaders.intervalMs handle spec (start + spec.leaderWaitMs)
          (spec.leaderWaitMs + 2) := by
  unfold awaitLeadersIfAsked
  rw [waits, if_pos rfl]

variable (opening : Opening) (leaders : Settings.Leaders) (event : Event)

/-- Creates a topic, or confirms it. -/
def prepareCreation : Flow Prepared := do
  let declared ← Flow.ofOutcome (declaration leaders event.properties)
  let handle ← openSession opening declared.session
  ensure handle declared.spec
  pure ⟨Answer.complete declared.spec.name (output declared.spec), some (handle, declared.spec)⟩

/-- Grows a topic, or creates it. -/
def prepareUpdate (id : String) : Flow Prepared := do
  let declared ← Flow.ofOutcome (declaration leaders event.properties)
  Flow.ofOutcome (checkUpdate event declared.spec id)
  let handle ← openSession opening declared.session
  match ← describe handle declared.spec.name with
  | none => prepareCreation opening leaders event
  | some current =>
      grow handle declared.spec current
      pure ⟨Answer.complete id (output declared.spec), some (handle, declared.spec)⟩

/-- Everything that is done for an event but the wait. -/
def prepare : Flow Prepared := do
  let id ← Flow.ofOutcome (physicalId leaders event)
  match event.request with
  | .create => prepareCreation opening leaders event
  | .update => prepareUpdate opening leaders event id
  | .delete => do
      let answer ← delete opening leaders event id
      pure ⟨answer, none⟩

variable {opening leaders event}

theorem create_eq_finish :
    create opening leaders event =
      prepareCreation opening leaders event >>= Prepared.finish leaders := by
  unfold create prepareCreation ensure
  simp only [Flow.bind_assoc]
  refine bind_congr fun declared => bind_congr fun handle => bind_congr fun found => ?_
  cases found <;> rfl

theorem update_eq_finish (id : String) :
    update opening leaders event id =
      prepareUpdate opening leaders event id >>= Prepared.finish leaders := by
  unfold update prepareUpdate
  simp only [Flow.bind_assoc]
  refine bind_congr fun declared => bind_congr fun _ => bind_congr fun handle =>
    bind_congr fun found => ?_
  cases found with
  | none => exact create_eq_finish
  | some current =>
      show _ = (grow handle declared.spec current >>= _) >>= _
      rw [Flow.bind_assoc]
      rfl

/-- **An answer about a topic is the work for the topic and then the wait for its leaders.** -/
theorem respond_eq_finish :
    respond opening leaders event =
      prepare opening leaders event >>= Prepared.finish leaders := by
  unfold respond prepare
  rw [Flow.bind_assoc]
  apply bind_congr
  intro id
  cases event.request with
  | create => exact create_eq_finish
  | update => exact update_eq_finish id
  | delete =>
      show _ = (delete opening leaders event id >>= _) >>= _
      rw [Flow.bind_assoc]
      exact (Flow.bind_pure _).symm

/-- The leaders are those of the declared topic, and the session is with its cluster. -/
structure Prepared.Concerns (opening : Opening) (leaders : Settings.Leaders) (event : Event)
    (declared : TopicDeclaration) (handle : Handle) : Prop where
  checked : declaration leaders event.properties = .ok declared
  referred : declared.session.validate = .ok handle.cluster
  limited : handle.requestMs = opening.limits.requestMs

theorem yields_prepareCreation :
    (prepareCreation opening leaders event).Yields fun prepared =>
      ∃ declared handle, Prepared.Concerns opening leaders event declared handle ∧
        prepared.awaited? = some (handle, declared.spec) := by
  apply Flow.yields_ofOutcome_bind
  intro declared checked
  refine Flow.yields_bind_of (Session.yields_openSession _ _) ?_
  rintro handle ⟨referred, limited⟩
  exact Flow.yields_bind fun _ =>
    Flow.yields_pure ⟨declared, handle, ⟨checked, referred, limited⟩, rfl⟩

theorem yields_prepareUpdate (id : String) :
    (prepareUpdate opening leaders event id).Yields fun prepared =>
      ∃ declared handle, Prepared.Concerns opening leaders event declared handle ∧
        prepared.awaited? = some (handle, declared.spec) := by
  refine Flow.yields_ofOutcome_bind fun declared checked => Flow.yields_bind fun _ => ?_
  refine Flow.yields_bind_of (Session.yields_openSession _ _) ?_
  rintro handle ⟨referred, limited⟩
  apply Flow.yields_bind
  intro found
  cases found with
  | none => exact yields_prepareCreation
  | some current =>
      exact Flow.yields_bind fun _ =>
        Flow.yields_pure ⟨declared, handle, ⟨checked, referred, limited⟩, rfl⟩

/-- Whatever is created or grown has leaders to wait for. -/
theorem yields_prepare (changes : event.request ≠ .delete) :
    (prepare opening leaders event).Yields fun prepared =>
      ∃ declared handle, Prepared.Concerns opening leaders event declared handle ∧
        prepared.awaited? = some (handle, declared.spec) := by
  apply Flow.yields_bind
  intro id
  cases asked : event.request with
  | create => exact yields_prepareCreation
  | update => exact yields_prepareUpdate id
  | delete => exact absurd asked changes

end Topic

end Provision
