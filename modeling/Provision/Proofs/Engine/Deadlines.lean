import Provision.Proofs.Dialogue.Punctuality
import Provision.Proofs.Engine.Transience
import Provision.Proofs.Session.Recovery
import Provision.Proofs.Topic.Waiting

/-!
# Events whose brokers stay silent

An event about an entry or a topic is answered although brokers may leave any connection and any
call unanswered for ever. Every way through a handler connects at most twice and makes at most four
calls, so that the answer is there in good time. The longest ways are the update of an entry that
moves to another cluster, and the update of a topic that is gone and has to be created
(`Acl.punctual_respond`, `Topic.punctual_prepare`). Only the wait for leaders has a time limit of
its own (`Topic.ended_le_of_awaitLeaders`).

A connection or a call that is given up leaves the event pending, unless the call was made while
leaders were waited for (`answered_in_time`).
-/

set_option autoImplicit false

namespace Provision

open Dialogue (Request)
open Lifecycle (Answer Event ResourceKind)
open Session (AclDeclaration Handle Opening TopicDeclaration)

/-! ## Entries -/

namespace Acl

variable {opening : Opening} {event : Event} {id : String}

theorem punctual_ensure (handle : Handle) (entry : Entry) :
    (ensure handle entry).Punctual (handle.requestMs + handle.requestMs) := by
  apply Session.punctual_perform_bind
  intro existing
  exact Flow.punctual_ite (Flow.punctual_pure ()) Session.punctual_perform_bind_pure

theorem punctual_remove (handle : Handle) (entry : Entry) :
    (remove handle entry).Punctual handle.requestMs :=
  Session.punctual_perform_bind_pure

/-- Removing the entry declared before may take another session. -/
theorem punctual_removeOld {handle : Handle} {declared old : AclDeclaration} {entry : Entry}
    (limited : handle.requestMs = opening.limits.requestMs) :
    (removeOld opening handle declared old entry).Punctual
      (opening.limits.connectMs + opening.limits.requestMs) := by
  refine Flow.punctual_ite ?_ ?_
  · apply Flow.punctual_ofOutcome_bind
    intro oldEntry _
    refine Flow.punctual_ite ?_ (Flow.punctual_pure ())
    exact (punctual_remove handle oldEntry).mono (by omega)
  · apply Session.punctual_openSession_bind
    intro oldHandle limited
    apply Flow.punctual_ofOutcome_bind
    intro oldEntry _
    exact (punctual_remove oldHandle oldEntry).mono (by omega)

theorem punctual_create :
    (create opening event id).Punctual
      (opening.limits.connectMs + 2 * opening.limits.requestMs) := by
  apply Flow.punctual_ofOutcome_bind
  intro declared _
  apply Session.punctual_openSession_bind
  intro handle limited
  apply Flow.punctual_ofOutcome_bind
  intro entry _
  exact Flow.punctual_bind_pure ((punctual_ensure handle entry).mono (by omega))

theorem punctual_update :
    (update opening event id).Punctual
      (2 * opening.limits.connectMs + 3 * opening.limits.requestMs) := by
  -- The old entry may be on another cluster, and its removal then takes another session.
  have parts : 2 * opening.limits.connectMs + 3 * opening.limits.requestMs =
      opening.limits.connectMs + (opening.limits.connectMs + opening.limits.requestMs +
        2 * opening.limits.requestMs) := by omega
  rw [parts]
  apply Flow.punctual_ofOutcome_bind
  intro declared _
  apply Flow.punctual_ofOutcome_bind
  intro before _
  apply Session.punctual_openSession_bind
  intro handle limited
  apply Flow.punctual_ofOutcome_bind
  intro entry _
  have ensures : ((ensure handle entry) >>= fun _ =>
      pure (Answer.complete id (output entry))).Punctual (2 * opening.limits.requestMs) :=
    Flow.punctual_bind_pure ((punctual_ensure handle entry).mono (by omega))
  cases before with
  | none => exact ensures.mono (by omega)
  | some old => exact Flow.punctual_bind (punctual_removeOld limited) fun _ _ _ => ensures

theorem punctual_delete :
    (delete opening event id).Punctual
      (opening.limits.connectMs + opening.limits.requestMs) := by
  unfold delete
  cases declaration event with
  | error failure => exact Flow.punctual_pure _
  | ok declared =>
      apply Session.punctual_openSession_bind
      intro handle limited
      apply Flow.punctual_ofOutcome_bind
      intro entry _
      exact Flow.punctual_bind_pure ((punctual_remove handle entry).mono (by omega))

/-- **An answer about an entry connects at most twice and makes at most three calls.** -/
theorem punctual_respond (opening : Opening) (event : Event) :
    (respond opening event).Punctual
      (2 * opening.limits.connectMs + 3 * opening.limits.requestMs) := by
  apply Flow.punctual_ofOutcome_bind
  intro id _
  cases event.request with
  | create => exact punctual_create.mono (by omega)
  | update => exact punctual_update
  | delete => exact punctual_delete.mono (by omega)

end Acl

/-! ## Topics -/

namespace Topic

variable {opening : Opening} {leaders : Settings.Leaders} {event : Event} {id : String}
  {handle : Handle} {spec : Spec}

/-- A missing topic is created by one call, and looked at again if it is there by then. -/
theorem punctual_createAbsent (handle : Handle) (spec : Spec) :
    (createAbsent handle spec).Punctual (handle.requestMs + handle.requestMs) := by
  refine Session.punctual_request_bind ⟨_, rfl, rfl⟩ fun answer => ?_
  cases answer with
  | ok result => exact Flow.punctual_pure ()
  | error refusal =>
      refine Flow.punctual_ite ?_ (Flow.punctual_throw _)
      show Flow.Punctual _ (handle.requestMs + 0)
      apply Session.punctual_perform_bind
      intro found
      cases found with
      | none => exact Flow.punctual_throw _
      | some current => exact Flow.punctual_ofOutcome _

theorem punctual_ensure (handle : Handle) (spec : Spec) :
    (ensure handle spec).Punctual (handle.requestMs + (handle.requestMs + handle.requestMs)) := by
  apply Session.punctual_perform_bind
  intro found
  cases found with
  | none => exact punctual_createAbsent handle spec
  | some current => exact Flow.punctual_ofOutcome _

theorem punctual_prepareCreation :
    (prepareCreation opening leaders event).Punctual
      (opening.limits.connectMs + 3 * opening.limits.requestMs) := by
  apply Flow.punctual_ofOutcome_bind
  intro declared _
  apply Session.punctual_openSession_bind
  intro handle limited
  exact Flow.punctual_bind_pure ((punctual_ensure handle declared.spec).mono (by omega))

theorem punctual_grow (handle : Handle) (spec : Spec) (current : Description) :
    (grow handle spec current).Punctual handle.requestMs := by
  rcases grow_cases handle spec current with ⟨failure, same⟩ | ⟨-, same⟩ | ⟨-, -, same⟩
  · rw [same]
    exact Flow.punctual_ofOutcome _
  · rw [same]
    exact Flow.punctual_pure ()
  · rw [same]
    exact Session.punctual_perform_bind_pure

theorem punctual_prepareUpdate :
    (prepareUpdate opening leaders event id).Punctual
      (2 * opening.limits.connectMs + 4 * opening.limits.requestMs) := by
  -- A topic that is gone is created, in a session of its own.
  have parts : 2 * opening.limits.connectMs + 4 * opening.limits.requestMs =
      opening.limits.connectMs + (opening.limits.requestMs +
        (opening.limits.connectMs + 3 * opening.limits.requestMs)) := by omega
  rw [parts]
  apply Flow.punctual_ofOutcome_bind
  intro declared _
  apply Flow.punctual_ofOutcome_bind
  intro _ _
  apply Session.punctual_openSession_bind
  intro handle limited
  rw [← limited]
  apply Session.punctual_perform_bind
  intro found
  rw [limited]
  cases found with
  | none => exact punctual_prepareCreation
  | some current =>
      exact Flow.punctual_bind_pure ((punctual_grow handle _ current).mono (by omega))

theorem punctual_delete :
    (delete opening leaders event id).Punctual
      (opening.limits.connectMs + 2 * opening.limits.requestMs) := by
  unfold delete
  cases declaration leaders event.properties with
  | error failure => exact Flow.punctual_pure _
  | ok declared =>
      apply Session.punctual_openSession_bind
      intro handle limited
      rw [← limited, Nat.two_mul]
      apply Session.punctual_perform_bind
      intro found
      cases found with
      | none => exact Flow.punctual_pure _
      | some current =>
          show Flow.Punctual _ (handle.requestMs + 0)
          refine Session.punctual_request_bind ⟨_, rfl, rfl⟩ fun answer => ?_
          cases answer with
          | ok result => exact Flow.punctual_pure _
          | error refusal =>
              exact Flow.punctual_ite (Flow.punctual_pure _) (Flow.punctual_throw _)

/-- **The work for a topic connects at most twice and makes at most four calls.** -/
theorem punctual_prepare (opening : Opening) (leaders : Settings.Leaders) (event : Event) :
    (prepare opening leaders event).Punctual
      (2 * opening.limits.connectMs + 4 * opening.limits.requestMs) := by
  apply Flow.punctual_ofOutcome_bind
  intro id _
  cases event.request with
  | create => exact punctual_prepareCreation.mono (by omega)
  | update => exact punctual_prepareUpdate
  | delete => exact Flow.punctual_bind_pure (punctual_delete.mono (by omega))

/-! ### The wait -/

section Wait

variable {interval deadline fuel began ended : Nat} {log : List TimedExchange}
  {outcome : Outcome Unit}

/-- A turn of a wait on a clock: one question, and then the end of the wait or the next turn. -/
theorem lasts_awaitLeaders_succ :
    (awaitLeaders interval handle spec deadline (fuel + 1)).Lasts began log outcome ended ↔
      ∃ reply answered rest,
        log = ⟨⟨.admin handle.cluster (.describePartitions spec.name), reply⟩, began, answered⟩
          :: rest ∧
        began ≤ answered ∧ answered ≤ began + min handle.requestMs (deadline - began) ∧
        (reply = none → answered = began + min handle.requestMs (deadline - began)) ∧
        match settledBy? reply with
        | some found => rest = [] ∧ outcome = found ∧ ended = answered
        | none =>
            if givesUp interval handle deadline began answered reply then
              rest = [] ∧ outcome = .error (noLeaders spec) ∧
                ended = answered + (deadline - answered)
            else
              (awaitLeaders interval handle spec deadline fuel).Lasts (answered + interval) rest
                outcome ended := by
  unfold Flow.Lasts
  rw [awaitLeaders_run, Dialogue.lasts_clock, Dialogue.lasts_askWithin]
  refine exists_congr fun reply => exists_congr fun answered => exists_congr fun rest => ?_
  refine and_congr_right fun _ => and_congr_right fun _ => and_congr_right fun _ =>
    and_congr_right fun _ => ?_
  cases settledBy? reply with
  | some found => exact Dialogue.lasts_done
  | none =>
      dsimp only
      rw [Dialogue.lasts_clock]
      split
      · rw [Dialogue.lasts_pause, Dialogue.lasts_done]
      · exact Dialogue.lasts_pause

/-- A wait that goes on has time for another turn. -/
theorem le_deadline_of_goesOn {asked answered : Nat}
    {reply : Option (Except Session.AdminFailure (Option Description))}
    (goesOn : ¬ givesUp interval handle deadline asked answered reply = true) :
    answered + interval ≤ deadline := by
  unfold givesUp at goesOn
  simp only [Bool.or_eq_true, not_or, decide_eq_true_eq, Nat.not_lt] at goesOn
  exact goesOn.2

/-- **A wait is over at its deadline.** -/
theorem ended_le_of_awaitLeaders
    (lasts : (awaitLeaders interval handle spec deadline fuel).Lasts began log outcome ended)
    (inTime : began ≤ deadline) : ended ≤ deadline := by
  induction fuel generalizing began log with
  | zero =>
      obtain ⟨-, -, rfl⟩ := Flow.lasts_throw.mp lasts
      exact inTime
  | succ fuel ih =>
      obtain ⟨reply, answered, rest, -, -, within, -, follows⟩ := lasts_awaitLeaders_succ.mp lasts
      have early : answered ≤ deadline := by omega
      cases verdict : settledBy? reply with
      | some found =>
          rw [verdict] at follows
          omega
      | none =>
          rw [verdict] at follows
          dsimp only at follows
          split at follows
          · omega
          · rename_i goesOn
            exact ih follows (le_deadline_of_goesOn goesOn)

/-- A wait asks for the partitions of its topic, and for nothing else. -/
theorem request_eq_of_awaitLeaders
    (lasts : (awaitLeaders interval handle spec deadline fuel).Lasts began log outcome ended) :
    ∀ exchange ∈ log, exchange.request = .admin handle.cluster (.describePartitions spec.name) := by
  induction fuel generalizing began log with
  | zero =>
      obtain ⟨rfl, -, -⟩ := Flow.lasts_throw.mp lasts
      exact fun exchange member => absurd member List.not_mem_nil
  | succ fuel ih =>
      obtain ⟨reply, answered, rest, rfl, -, -, -, follows⟩ := lasts_awaitLeaders_succ.mp lasts
      have later : ∀ exchange ∈ rest,
          exchange.request = .admin handle.cluster (.describePartitions spec.name) := by
        cases verdict : settledBy? reply with
        | some found =>
            rw [verdict] at follows
            rw [follows.1]
            exact fun exchange member => absurd member List.not_mem_nil
        | none =>
            rw [verdict] at follows
            dsimp only at follows
            split at follows
            · rw [follows.1]
              exact fun exchange member => absurd member List.not_mem_nil
            · exact ih follows
      intro exchange member
      rcases List.mem_cons.mp member with rfl | member
      · rfl
      · exact later exchange member

/-- A wait is the same with one turn more, if it has as many turns as its time allows. -/
theorem lasts_awaitLeaders_iff (moving : 0 < interval) (inTime : began ≤ deadline)
    (enough : deadline - began < fuel) :
    (awaitLeaders interval handle spec deadline (fuel + 1)).Lasts began log outcome ended ↔
      (awaitLeaders interval handle spec deadline fuel).Lasts began log outcome ended := by
  -- Every turn that goes on brings the clock nearer to the deadline, so that turns outlast time.
  induction fuel generalizing began log with
  | zero => omega
  | succ fuel ih =>
      rw [lasts_awaitLeaders_succ, lasts_awaitLeaders_succ]
      refine exists_congr fun reply => exists_congr fun answered => exists_congr fun rest => ?_
      refine and_congr_right fun _ => and_congr_right fun later => and_congr_right fun _ =>
        and_congr_right fun _ => ?_
      cases settledBy? reply with
      | some found => rfl
      | none =>
          dsimp only
          split
          · rfl
          · rename_i goesOn
            have next := le_deadline_of_goesOn goesOn
            exact ih next (by omega)

/-- **A wait is cut short by its deadline only**: it is the same with any number of turns more. -/
theorem lasts_awaitLeadersIfAsked_iff (moving : 0 < leaders.intervalMs)
    (waits : spec.waitForLeaders = true) (more : Nat) :
    (awaitLeadersIfAsked leaders handle spec).Lasts began log outcome ended ↔
      (awaitLeaders leaders.intervalMs handle spec (began + spec.leaderWaitMs)
        (spec.leaderWaitMs + 2 + more)).Lasts began log outcome ended := by
  rw [awaitLeadersIfAsked_of_waits waits, Flow.lasts_now_bind]
  induction more with
  | zero => rfl
  | succ more ih =>
      rw [ih]
      exact (lasts_awaitLeaders_iff moving (Nat.le_add_right _ _) (by omega)).symm

theorem limited_awaitLeaders :
    (awaitLeaders interval handle spec deadline fuel).run.Limited := by
  induction fuel with
  | zero => trivial
  | succ fuel ih =>
      rw [awaitLeaders_run]
      intro asked reply
      dsimp only
      split
      · trivial
      · intro answered
        dsimp only
        split
        · trivial
        · exact ih

end Wait

/-- How long an event about a topic may wait for leaders. -/
def leaderWait (leaders : Settings.Leaders) (properties : Properties) : Nat :=
  match declaration leaders properties with
  | .ok declared => if declared.spec.waitForLeaders then declared.spec.leaderWaitMs else 0
  | .error _ => 0

theorem leaderWait_of_declaration {declared : TopicDeclaration} {properties : Properties}
    (checked : declaration leaders properties = .ok declared) :
    leaderWait leaders properties =
      if declared.spec.waitForLeaders then declared.spec.leaderWaitMs else 0 := by
  unfold leaderWait
  rw [checked]

/-- Whoever waits for leaders does so for a declared topic. -/
theorem yields_prepare_awaited :
    (prepare opening leaders event).Yields fun prepared =>
      ∀ handle spec, prepared.awaited? = some (handle, spec) →
        ∃ declared, declaration leaders event.properties = .ok declared ∧
          declared.spec = spec := by
  by_cases deletes : event.request = .delete
  · unfold prepare
    rw [deletes]
    refine Flow.yields_bind fun id => Flow.yields_bind fun answer => Flow.yields_pure ?_
    intro handle spec nothing
    cases nothing
  · intro log prepared ends handle spec awaited
    obtain ⟨declared, other, concerns, same⟩ := yields_prepare deletes log prepared ends
    cases same.symm.trans awaited
    exact ⟨declared, concerns.checked, rfl⟩

/-- Whoever waits for leaders waits no longer than declared, and nobody else waits. -/
theorem ended_le_of_awaitLeadersIfAsked {began ended : Nat} {log : List TimedExchange}
    {outcome : Outcome Unit}
    (lasts : (awaitLeadersIfAsked leaders handle spec).Lasts began log outcome ended) :
    ended ≤ began + if spec.waitForLeaders then spec.leaderWaitMs else 0 := by
  cases waits : spec.waitForLeaders with
  | true =>
      rw [awaitLeadersIfAsked_of_waits waits, Flow.lasts_now_bind] at lasts
      exact ended_le_of_awaitLeaders lasts (Nat.le_add_right began spec.leaderWaitMs)
  | false =>
      rw [awaitLeadersIfAsked_eq waits] at lasts
      obtain ⟨-, -, rfl⟩ := Flow.lasts_pure.mp lasts
      exact Nat.le_add_right _ _

theorem request_eq_of_awaitLeadersIfAsked {began ended : Nat} {log : List TimedExchange}
    {outcome : Outcome Unit}
    (lasts : (awaitLeadersIfAsked leaders handle spec).Lasts began log outcome ended) :
    ∀ exchange ∈ log, exchange.request = .admin handle.cluster (.describePartitions spec.name) := by
  cases waits : spec.waitForLeaders with
  | true =>
      rw [awaitLeadersIfAsked_of_waits waits, Flow.lasts_now_bind] at lasts
      exact request_eq_of_awaitLeaders lasts
  | false =>
      rw [awaitLeadersIfAsked_eq waits] at lasts
      obtain ⟨rfl, -, -⟩ := Flow.lasts_pure.mp lasts
      exact fun exchange member => absurd member List.not_mem_nil

theorem limited_awaitLeadersIfAsked :
    (awaitLeadersIfAsked leaders handle spec).run.Limited := by
  cases waits : spec.waitForLeaders with
  | true =>
      rw [awaitLeadersIfAsked_of_waits waits]
      exact fun start => limited_awaitLeaders
  | false =>
      rw [awaitLeadersIfAsked_eq waits]
      trivial

theorem limited_finish (leaders : Settings.Leaders) (prepared : Prepared) :
    (prepared.finish leaders).run.Limited := by
  cases awaited : prepared.awaited? with
  | none =>
      unfold Prepared.finish
      rw [awaited]
      trivial
  | some waiting =>
      rw [Prepared.finish_eq awaited]
      exact Flow.limited_bind limited_awaitLeadersIfAsked fun _ => trivial

/-- Nothing but partitions is asked for while leaders are waited for. -/
theorem exists_request_eq_of_finish {prepared : Prepared} {began ended : Nat}
    {log : List TimedExchange} {outcome : Outcome Answer}
    (lasts : (prepared.finish leaders).Lasts began log outcome ended) :
    ∀ exchange ∈ log, ∃ cluster topic,
      exchange.request = .admin cluster (.describePartitions topic) := by
  cases awaited : prepared.awaited? with
  | none =>
      unfold Prepared.finish at lasts
      rw [awaited] at lasts
      obtain ⟨rfl, -, -⟩ := Flow.lasts_pure.mp lasts
      exact fun exchange member => absurd member List.not_mem_nil
  | some waiting =>
      rw [Prepared.finish_eq awaited] at lasts
      obtain ⟨found, waits, -⟩ := Flow.lasts_bind_pure.mp lasts
      intro exchange member
      exact ⟨_, _, request_eq_of_awaitLeadersIfAsked waits exchange member⟩

/-- The wait takes no longer than declared. -/
theorem ended_le_of_finish {prepared : Prepared} {began ended : Nat} {log : List TimedExchange}
    {outcome : Outcome Answer}
    (declares : ∀ handle spec, prepared.awaited? = some (handle, spec) →
      ∃ declared, declaration leaders event.properties = .ok declared ∧ declared.spec = spec)
    (lasts : (prepared.finish leaders).Lasts began log outcome ended) :
    ended ≤ began + leaderWait leaders event.properties := by
  cases awaited : prepared.awaited? with
  | none =>
      unfold Prepared.finish at lasts
      rw [awaited] at lasts
      obtain ⟨-, -, rfl⟩ := Flow.lasts_pure.mp lasts
      exact Nat.le_add_right _ _
  | some waiting =>
      obtain ⟨declared, checked, same⟩ := declares waiting.1 waiting.2 awaited
      rw [Prepared.finish_eq awaited] at lasts
      obtain ⟨found, waits, -⟩ := Flow.lasts_bind_pure.mp lasts
      rw [leaderWait_of_declaration checked, same]
      exact ended_le_of_awaitLeadersIfAsked waits

end Topic

/-! ## The controller -/

namespace Engine

variable {settings : Settings.Engine} {event : Event} {kind : ResourceKind}

/-- What a handler does for an event, except that it waits for leaders. -/
def unawaited (settings : Settings.Engine) (event : Event) : ResourceKind → Flow Topic.Prepared
  | .topic => Topic.prepare (.ofSettings settings) settings.leaders event
  | kind => do
      let answer ← (handlerOf settings kind).respond event
      pure ⟨answer, none⟩

/-- How long an event may wait for leaders. -/
def leaderWait (settings : Settings.Engine) (event : Event) : ResourceKind → Nat
  | .topic => Topic.leaderWait settings.leaders event.properties
  | _ => 0

/-- Only topics wait for leaders. -/
theorem respond_eq_unawaited (settings : Settings.Engine) (event : Event) (kind : ResourceKind) :
    (handlerOf settings kind).respond event =
      unawaited settings event kind >>= Topic.Prepared.finish settings.leaders := by
  have others : ∀ flow : Flow Answer,
      flow = (flow >>= fun answer => pure ⟨answer, none⟩) >>=
        Topic.Prepared.finish settings.leaders := by
    intro flow
    rw [Flow.bind_assoc]
    exact (Flow.bind_pure flow).symm
  cases kind with
  | topic => exact Topic.respond_eq_finish
  | acl => exact others _
  | connectivityUpdate => exact others _
  | warehouseNamespace => exact others _

/-- The work for an event about an entry or a topic is punctual. -/
theorem punctual_unawaited (administered : kind = .acl ∨ kind = .topic) :
    (unawaited settings event kind).Punctual
      (2 * settings.session.connectMs + 4 * settings.session.requestMs) := by
  rcases administered with rfl | rfl
  · have punctual := Acl.punctual_respond (.ofSettings settings) event
    have shorter : 2 * settings.session.connectMs + 3 * settings.session.requestMs ≤
        2 * settings.session.connectMs + 4 * settings.session.requestMs := by omega
    exact Flow.punctual_bind_pure (punctual.mono shorter)
  · exact Topic.punctual_prepare (.ofSettings settings) settings.leaders event

/-- Nothing but a topic has leaders to wait for. -/
theorem yields_unawaited_awaited (other : kind ≠ .topic) :
    (unawaited settings event kind).Yields fun prepared => prepared.awaited? = none := by
  cases kind with
  | topic => exact absurd rfl other
  | acl => exact Flow.yields_bind fun answer => Flow.yields_pure rfl
  | connectivityUpdate => exact Flow.yields_bind fun answer => Flow.yields_pure rfl
  | warehouseNamespace => exact Flow.yields_bind fun answer => Flow.yields_pure rfl

section Parts

variable {prepared : Topic.Prepared} {began between ended : Nat} {work wait : List TimedExchange}
  {outcome : Outcome Answer}

/-- Nobody waits for leaders but for those of a topic. -/
theorem finish_of_other (other : kind ≠ .topic)
    (works : (unawaited settings event kind).Lasts began work (.ok prepared) between)
    (waits : (prepared.finish settings.leaders).Lasts between wait outcome ended) :
    wait = [] ∧ ended = between := by
  have nothing := yields_unawaited_awaited other _ prepared (Dialogue.Lasts.ends works)
  unfold Topic.Prepared.finish at waits
  rw [nothing] at waits
  obtain ⟨rfl, -, rfl⟩ := Flow.lasts_pure.mp waits
  exact ⟨rfl, rfl⟩

theorem ended_le_of_finish
    (works : (unawaited settings event kind).Lasts began work (.ok prepared) between)
    (waits : (prepared.finish settings.leaders).Lasts between wait outcome ended) :
    ended ≤ between + leaderWait settings event kind := by
  by_cases about : kind = .topic
  · subst about
    have declares := Topic.yields_prepare_awaited _ prepared (Dialogue.Lasts.ends works)
    exact Topic.ended_le_of_finish declares waits
  · obtain ⟨-, rfl⟩ := finish_of_other about works waits
    exact Nat.le_add_right _ _

end Parts

/-- A transcript of an event in its two parts: what is exchanged for the resource, and what is
exchanged while its leaders are waited for. -/
def Parted (settings : Settings.Engine) (event : Event) (kind : ResourceKind) (began : Nat)
    (work wait : List TimedExchange) (ended : Nat) : Prop :=
  ∃ found between, (unawaited settings event kind).Lasts began work found between ∧
    match found with
    | .ok prepared => ∃ outcome, (prepared.finish settings.leaders).Lasts between wait outcome ended
    | .error _ => wait = [] ∧ ended = between

/-- A handler that fails for the time being leaves its event pending. -/
theorem pending_of_failsForNow {log : List Exchange} {found : Outcome Answer}
    (responded : ((handlerOf settings kind).respond event).Ends log found)
    (fails : FailsForNow found) :
    ∃ answer, answered (handlerOf settings kind) event found = .ok answer ∧
      answer.isComplete = false := by
  obtain ⟨failure, rfl, transient⟩ := fails
  obtain ⟨id, derived⟩ := exists_physicalId_of_transient responded transient
  exact ⟨Answer.pending id [], answered_of_transient transient derived, rfl⟩

/-- What the handling of an event takes, and what comes of a request that is given up. -/
theorem in_time_of_lasts (about : ResourceKind.ofName event.resourceType = .ok kind)
    (administered : kind = .acl ∨ kind = .topic) {began ended : Nat} {log : List TimedExchange}
    {told : Outcome Answer} (lasts : (respond settings event).Lasts began log told ended) :
    ended ≤ began + consulted log + 2 * settings.session.connectMs +
        4 * settings.session.requestMs + leaderWait settings event kind ∧
      ∃ work wait, log = work ++ wait ∧ Parted settings event kind began work wait ended ∧
        (kind = .acl → wait = []) ∧
        (∀ exchange ∈ wait, ∃ cluster topic,
          exchange.request = .admin cluster (.describePartitions topic)) ∧
        (Unanswered work → ∃ answer, told = .ok answer ∧ answer.isComplete = false) := by
  have punctual : (unawaited settings event kind).Punctual
      (2 * settings.session.connectMs + 4 * settings.session.requestMs) :=
    punctual_unawaited administered
  unfold Flow.Lasts at lasts
  rw [respond_run (route_of_ofName about)] at lasts
  obtain ⟨found, responds, rfl⟩ := Dialogue.lasts_bind_done.mp lasts
  have ends := Dialogue.Lasts.ends responds
  rw [respond_eq_unawaited] at responds
  obtain ⟨failure, works, rfl⟩ | ⟨work, prepared, between, wait, works, waits, rfl⟩ :=
    Flow.lasts_bind.mp responds
  · have inTime := punctual.ended_le works
    refine ⟨by omega, log, [], (List.append_nil log).symm, ?_, fun _ => rfl, ?_, ?_⟩
    · exact ⟨.error failure, ended, works, rfl, rfl⟩
    · exact fun exchange member => absurd member List.not_mem_nil
    · intro unanswered
      obtain ⟨fault, same, transient⟩ := punctual.failsForNow works unanswered
      cases same
      exact pending_of_failsForNow ends ⟨failure, rfl, transient⟩
  · have inTime := punctual.ended_le works
    have soon := ended_le_of_finish works waits
    rw [consulted_append]
    refine ⟨by omega, work, wait, rfl, ⟨.ok prepared, between, works, found, waits⟩, ?_, ?_, ?_⟩
    · intro entry
      have other : kind ≠ .topic := by simp [entry]
      exact (finish_of_other other works waits).1
    · exact Topic.exists_request_eq_of_finish waits
    · intro unanswered
      obtain ⟨fault, same, -⟩ := punctual.failsForNow works unanswered
      cases same

/-- **Whatever brokers leave unanswered, an event about an entry or a topic is answered in time.**
Apart from lookups, and from waiting for leaders if that is asked for, it takes no longer than two
connections and four calls. If anything is given up before leaders are waited for, the event is left
pending. A wait for leaders asks for partitions only, and ends by its deadline and not because its
turns are used up. -/
theorem answered_in_time (about : ResourceKind.ofName event.resourceType = .ok kind)
    (administered : kind = .acl ∨ kind = .topic) :
    (∀ {State : Type} (service : Service State) (latency : Request → State → Option Nat)
        (state : State) (began : Nat),
      (∀ request state, request.toBroker = false → (latency request state).isSome = true) →
      ∃ log told ended,
        (respond settings event).run.outlast service latency state began =
          some (log, told, ended) ∧
        (respond settings event).Lasts began log told ended) ∧
    (∀ began log told ended, (respond settings event).Lasts began log told ended →
      ended ≤ began + consulted log + 2 * settings.session.connectMs +
          4 * settings.session.requestMs + leaderWait settings event kind ∧
        ∃ work wait, log = work ++ wait ∧ Parted settings event kind began work wait ended ∧
          (kind = .acl → wait = []) ∧
          (∀ exchange ∈ wait, ∃ cluster topic,
            exchange.request = .admin cluster (.describePartitions topic)) ∧
          (Unanswered work → ∃ answer, told = .ok answer ∧ answer.isComplete = false)) ∧
    ∀ (handle : Handle) (spec : Topic.Spec) (more began : Nat) (log : List TimedExchange)
        (outcome : Outcome Unit) (ended : Nat),
      0 < settings.leaders.intervalMs → spec.waitForLeaders = true →
      ((Topic.awaitLeadersIfAsked settings.leaders handle spec).Lasts began log outcome ended ↔
        (Topic.awaitLeaders settings.leaders.intervalMs handle spec (began + spec.leaderWaitMs)
          (spec.leaderWaitMs + 2 + more)).Lasts began log outcome ended) := by
  refine ⟨?_, fun began log told ended => in_time_of_lasts about administered, ?_⟩
  · intro State service latency state began answers
    have limited : (respond settings event).run.Limited := by
      rw [respond_run (route_of_ofName about), respond_eq_unawaited]
      refine Dialogue.Limited.bind ?_ fun _ => trivial
      exact Flow.limited_bind (punctual_unawaited administered).limited fun prepared =>
        Topic.limited_finish settings.leaders prepared
    exact limited.exists_outlast answers state began
  · intro handle spec more began log outcome ended moving waits
    exact Topic.lasts_awaitLeadersIfAsked_iff moving waits more

/-- Lookups take some time, and no entry is ever removed in time. -/
def unremoving : Request → Session.Brokers → Option Nat
  | .admin _ (.deleteAcls _), _ => none
  | .admin _ _, _ => some 10
  | .connect _, _ => some 40
  | _, _ => some 25

/-- The broker never says that the old entry is removed, and the handover is left pending. -/
theorem answered_in_time_handover :
    ResourceKind.ofName Session.handover.resourceType = .ok .acl ∧
      ∃ log told ended, (respond {} Session.handover).Lasts 0 log told ended ∧ Unanswered log ∧
        (∃ answer, told = .ok answer ∧ answer.isComplete = false) ∧
        ended ≤ consulted log + 2 * 5000 + 4 * 30000 := by
  have about : ResourceKind.ofName Session.handover.resourceType = .ok .acl := by decide +kernel
  refine ⟨about, ?_⟩
  obtain ⟨returns, inTime, -⟩ :=
    @answered_in_time {} Session.handover .acl about (.inl rfl)
  obtain ⟨log, told, ended, outlasts, lasts⟩ :=
    returns (Session.brokerService Session.reachable) unremoving Session.shopReads 0 (by
      intro request state elsewhere
      cases request <;> first | rfl | cases elsewhere)
  have silent : ((respond {} Session.handover).run.outlast
      (Session.brokerService Session.reachable) unremoving Session.shopReads 0).map
        (fun found => found.1.any fun exchange => exchange.reply.isNone) = some true := by
    decide +kernel
  rw [outlasts] at silent
  have unanswered : Unanswered log := by
    simpa [Unanswered, List.any_eq_true] using silent
  obtain ⟨soon, work, wait, rfl, -, alone, -, pending⟩ := inTime 0 log told ended lasts
  have noWait : wait = [] := alone rfl
  subst noWait
  refine ⟨work ++ [], told, ended, lasts, unanswered, ?_, ?_⟩
  · rw [List.append_nil] at unanswered
    exact pending unanswered
  · have waitless : leaderWait {} Session.handover .acl = 0 := rfl
    rw [Nat.zero_add, waitless, Nat.add_zero] at soon
    exact soon

end Engine

end Provision
