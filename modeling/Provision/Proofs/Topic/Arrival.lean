import Provision.Proofs.Dialogue.Punctuality
import Provision.Proofs.Topic.Leaders

/-!
# When a wait for leaders is over

A wait asks the same question again and again. Its broker is scripted: each question has a reply
and the time it takes, and some replies never come. When a question is asked follows from the times
of the questions before it (`Script.askedAt`): a reply that comes within the limit of a request is
awaited, any other is given up at the limit, and the next question is asked one interval later.

The first verdict that comes by the deadline decides the wait at the moment it comes, and if none
does, the wait fails at the deadline (`wait_decided`). A verdict is a listing of partitions that all
have leaders, or a terminal refusal (`Decides`). Everything else that a broker may say, or fail to
say, only puts off the next question.
-/

set_option autoImplicit false

namespace Provision.Topic

open Dialogue (Request preceded)
open Session (AdminFailure Handle)

/-! ## Scripts -/

/-- A reply to a question about partitions, and how long it takes; without a time it never comes. -/
structure Response where
  reply : Except AdminFailure (Option Description)
  delay : Option Nat

namespace Response

/-- The time that a reply takes, if it comes within the limit. -/
def within (response : Response) (limit : Nat) : Option Nat :=
  response.delay.filter fun delay => decide (delay ≤ limit)

/-- How long a question takes: until its reply comes, or until it is given up. -/
def taken (response : Response) (limit : Nat) : Nat := (response.within limit).getD limit

/-- What is heard in reply to a question. -/
def heard (response : Response) (limit : Nat) : Option (Except AdminFailure (Option Description)) :=
  (response.within limit).map fun _ => response.reply

variable {response : Response} {limit : Nat}

theorem within_eq_some_iff {delay : Nat} :
    response.within limit = some delay ↔ response.delay = some delay ∧ delay ≤ limit := by
  unfold within
  rw [Option.filter_eq_some_iff, decide_eq_true_iff]

/-- What does not come within a limit does not come within a shorter one. -/
theorem within_eq_none {shorter : Nat} (never : response.within limit = none)
    (less : shorter ≤ limit) : response.within shorter = none := by
  refine Option.eq_none_iff_forall_ne_some.mpr fun delay comes => ?_
  obtain ⟨takes, inTime⟩ := within_eq_some_iff.mp comes
  rw [within_eq_some_iff.mpr ⟨takes, inTime.trans less⟩] at never
  cases never

theorem taken_of_within {delay : Nat} (comes : response.within limit = some delay) :
    response.taken limit = delay := by
  unfold taken
  rw [comes]
  rfl

theorem taken_of_never (never : response.within limit = none) : response.taken limit = limit := by
  unfold taken
  rw [never]
  rfl

theorem heard_of_within {delay : Nat} (comes : response.within limit = some delay) :
    response.heard limit = some response.reply := by
  unfold heard
  rw [comes]
  rfl

theorem heard_of_never (never : response.within limit = none) : response.heard limit = none := by
  unfold heard
  rw [never]
  rfl

end Response

/-- The responses to one question after another. -/
abbrev Script := Nat → Response

namespace Script

/-- A broker that gives the scripted replies to questions about partitions. -/
def service (script : Script) (replies : (request : Request) → request.Reply) : Service Nat
  | .admin _ (.describePartitions _), count => ((script count).reply, count + 1)
  | request, count => (replies request, count)

/-- The time that the broker takes. -/
def latency (script : Script) : Request → Nat → Option Nat
  | .admin _ (.describePartitions _), count => (script count).delay
  | _, _ => some 0

variable (script : Script) (limit interval start : Nat)

/-- When a question is asked, if there is time for it. -/
def askedAt : Nat → Nat
  | 0 => start
  | number + 1 => askedAt number + (script number).taken limit + interval

/-- When a question is answered or given up. -/
def answeredAt (number : Nat) : Nat :=
  script.askedAt limit interval start number + (script number).taken limit

variable {script limit interval start}

theorem askedAt_succ (number : Nat) :
    script.askedAt limit interval start (number + 1) =
      script.answeredAt limit interval start number + interval := rfl

theorem askedAt_le_answeredAt (number : Nat) :
    script.askedAt limit interval start number ≤ script.answeredAt limit interval start number :=
  Nat.le_add_right _ _

theorem askedAt_mono : Monotone (script.askedAt limit interval start) :=
  monotone_nat_of_le_succ fun number =>
    (askedAt_le_answeredAt number).trans (Nat.le_add_right _ interval)

end Script

/-! ## Verdicts -/

/-- What a reply decides: partitions that all have leaders are what is waited for, and a terminal
refusal fails the wait. -/
inductive Decides : Except AdminFailure (Option Description) → Outcome Unit → Prop where
  | led {description : Description} (spread : description.partitions ≠ [])
      (led : description.AllLed) : Decides (.ok (some description)) (.ok ())
  | refused {refusal : AdminFailure} (terminal : refusal.toFailure.isTerminal = true) :
      Decides (.error refusal) (.error refusal.toFailure)

theorem leaderless_of_allLed {description : Description} (led : description.AllLed) :
    description.leaderless.isEmpty = true := by
  have none : description.partitions.filter (fun part => part.leader.isNone) = [] :=
    List.filter_eq_nil_iff.mpr fun part member => by
      simpa [Option.isSome_iff_ne_none] using led part member
  unfold Description.leaderless
  rw [none]
  rfl

/-- A wait is over with what a reply decides. -/
theorem settled?_eq_some_iff {reply : Except AdminFailure (Option Description)}
    {verdict : Outcome Unit} : settled? reply = some verdict ↔ Decides reply verdict := by
  constructor
  · intro settles
    rcases reply with refusal | _ | description
    · have failed : (if refusal.toFailure.isTerminal then some (.error refusal.toFailure)
          else none) = some verdict := settles
      obtain ⟨terminal, same⟩ := Option.ite_none_right_eq_some.mp failed
      cases same
      exact .refused terminal
    · cases settles
    · have passed : (if !description.partitions.isEmpty && description.leaderless.isEmpty then
          some (Except.ok ()) else none) = some verdict := settles
      obtain ⟨-, same⟩ := Option.ite_none_right_eq_some.mp passed
      cases same
      obtain ⟨found, same, spread, led⟩ :=
        exists_led_of_settled (show settledBy? (some (.ok (some description))) = _ from settles)
      cases same
      exact .led spread led
  · intro decides
    cases decides with
    | led spread led =>
        refine if_pos ?_
        rw [List.isEmpty_eq_false_iff.mpr spread, leaderless_of_allLed led]
        rfl
    | refused terminal => exact if_pos terminal

/-- The question brings the verdict: its reply comes within the limit and decides. -/
def Script.Brings (script : Script) (limit number : Nat) (verdict : Outcome Unit) : Prop :=
  ∃ delay, (script number).delay = some delay ∧ delay ≤ limit ∧
    Decides (script number).reply verdict

/-- The question brings no verdict. -/
def Script.Quiet (script : Script) (limit number : Nat) : Prop :=
  ∀ verdict, ¬ script.Brings limit number verdict

variable {script : Script} {limit interval start number : Nat} {verdict : Outcome Unit}

theorem settledBy?_heard :
    settledBy? ((script number).heard limit) = some verdict ↔ script.Brings limit number verdict := by
  constructor
  · intro settles
    cases comes : (script number).within limit with
    | none =>
        rw [Response.heard_of_never comes] at settles
        cases settles
    | some delay =>
        rw [Response.heard_of_within comes] at settles
        obtain ⟨takes, inTime⟩ := Response.within_eq_some_iff.mp comes
        exact ⟨delay, takes, inTime, settled?_eq_some_iff.mp settles⟩
  · rintro ⟨delay, takes, inTime, decides⟩
    rw [Response.heard_of_within (Response.within_eq_some_iff.mpr ⟨takes, inTime⟩)]
    exact settled?_eq_some_iff.mpr decides

/-! ## Turns -/

variable {replies : (request : Request) → request.Reply} {handle : Handle} {spec : Spec}
  {deadline fuel : Nat}

/-- What a wait asks. -/
abbrev question (handle : Handle) (spec : Spec) : Request :=
  .admin handle.cluster (.describePartitions spec.name)

/-- The wait from a question on, on the clock of its script. -/
def Script.waits (script : Script) (replies : (request : Request) → request.Reply)
    (handle : Handle) (spec : Spec) (interval deadline fuel number began : Nat) :
    Option (List TimedExchange × Outcome Unit × Nat) :=
  (awaitLeaders interval handle spec deadline fuel).run.outlast (script.service replies)
    script.latency number began

/-- What follows the reply to a question. -/
def afterReply (interval : Nat) (handle : Handle) (spec : Spec) (deadline fuel asked : Nat)
    (reply : Option (Except AdminFailure (Option Description))) : Dialogue (Outcome Unit) :=
  match settledBy? reply with
  | some outcome => .done outcome
  | none => .clock fun answered =>
      if givesUp interval handle deadline asked answered reply then
        .pause (deadline - answered) fun _ => .done (.error (noLeaders spec))
      else
        .pause interval fun _ => (awaitLeaders interval handle spec deadline fuel).run

theorem waits_succ (asked : Nat) :
    script.waits replies handle spec interval deadline (fuel + 1) number asked =
      (Dialogue.askWithin (min handle.requestMs (deadline - asked)) (question handle spec)
        (afterReply interval handle spec deadline fuel asked)).outlast (script.service replies)
        script.latency number asked := by
  unfold Script.waits
  rw [awaitLeaders_run]
  rfl

theorem outlast_afterReply (asked answered : Nat)
    (reply : Option (Except AdminFailure (Option Description))) :
    (afterReply interval handle spec deadline fuel asked reply).outlast (script.service replies)
        script.latency number answered =
      match settledBy? reply with
      | some verdict => some ([], verdict, answered)
      | none =>
          if givesUp interval handle deadline asked answered reply then
            some ([], .error (noLeaders spec), answered + (deadline - answered))
          else script.waits replies handle spec interval deadline fuel number
            (answered + interval) := by
  unfold afterReply
  cases settledBy? reply with
  | some verdict => rfl
  | none =>
      show Dialogue.outlast _ _ (if _ then _ else _) _ _ = _
      split <;> rfl

/-- A question that is over by the deadline is a whole turn: it brings a verdict, or the wait goes
on one interval later if there is time. -/
theorem waits_of_inTime {asked answered : Nat}
    (past : asked + (script number).taken handle.requestMs = answered)
    (inTime : answered ≤ deadline) :
    script.waits replies handle spec interval deadline (fuel + 1) number asked =
      preceded ⟨⟨question handle spec, (script number).heard handle.requestMs⟩, asked, answered⟩
        (match settledBy? ((script number).heard handle.requestMs) with
        | some verdict => some ([], verdict, answered)
        | none =>
            if deadline < answered + interval then
              some ([], .error (noLeaders spec), deadline)
            else script.waits replies handle spec interval deadline fuel (number + 1)
              (answered + interval)) := by
  have ends : answered + (deadline - answered) = deadline := Nat.add_sub_cancel' inTime
  cases comes : (script number).within handle.requestMs with
  | some delay =>
      rw [Response.taken_of_within comes] at past
      obtain ⟨takes, short⟩ := Response.within_eq_some_iff.mp comes
      have prompt : (script.latency (question handle spec) number).filter
          (fun delay => decide (delay ≤ min handle.requestMs (deadline - asked))) = some delay :=
        Response.within_eq_some_iff.mpr ⟨takes, by omega⟩
      rw [waits_succ, Response.heard_of_within comes, ← past]
      refine (Dialogue.outlast_askWithin prompt).trans (congrArg (preceded _) ?_)
      refine (outlast_afterReply _ _ (some (script number).reply)).trans ?_
      rw [past, ends]
      simp only [givesUp, Option.isNone_some, Bool.false_and, Bool.false_or, decide_eq_true_iff]
      rfl
  | none =>
      rw [Response.taken_of_never comes] at past
      have never : (script.latency (question handle spec) number).filter
          (fun delay => decide (delay ≤ min handle.requestMs (deadline - asked))) = none :=
        Response.within_eq_none comes (Nat.min_le_left _ _)
      have whole : asked + min handle.requestMs (deadline - asked) = answered := by omega
      have enough : ¬ deadline - asked < handle.requestMs := by omega
      rw [waits_succ, Response.heard_of_never comes, ← whole]
      refine (Dialogue.outlast_giveUp never).trans (congrArg (preceded _) ?_)
      refine (outlast_afterReply _ _ _).trans ?_
      rw [whole, ends]
      simp only [givesUp, decide_eq_false enough, Bool.and_false, Bool.false_or,
        decide_eq_true_iff]
      rfl

/-- A question that would be over after the deadline is given up then. -/
theorem waits_of_late {asked : Nat} (early : asked ≤ deadline)
    (late : deadline < asked + (script number).taken handle.requestMs) :
    script.waits replies handle spec interval deadline (fuel + 1) number asked =
      some ([⟨⟨question handle spec, none⟩, asked, deadline⟩], .error (noLeaders spec),
        deadline) := by
  have silent : (script.latency (question handle spec) number).filter
      (fun delay => decide (delay ≤ min handle.requestMs (deadline - asked))) = none := by
    refine Option.eq_none_iff_forall_ne_some.mpr fun delay comes => ?_
    obtain ⟨takes, inTime⟩ := Response.within_eq_some_iff.mp comes
    have sooner : (script number).within handle.requestMs = some delay :=
      Response.within_eq_some_iff.mpr ⟨takes, by omega⟩
    rw [Response.taken_of_within sooner] at late
    omega
  have most : (script number).taken handle.requestMs ≤ handle.requestMs := by
    cases comes : (script number).within handle.requestMs with
    | some delay =>
        rw [Response.taken_of_within comes]
        exact (Response.within_eq_some_iff.mp comes).2
    | none => exact (Response.taken_of_never comes).le
  have whole : asked + min handle.requestMs (deadline - asked) = deadline := by omega
  have short : deadline - asked < handle.requestMs := by omega
  rw [waits_succ]
  refine (Dialogue.outlast_giveUp silent).trans ?_
  rw [whole]
  refine (congrArg (preceded _) (outlast_afterReply _ _ _)).trans ?_
  unfold givesUp
  rw [decide_eq_true short, Nat.sub_self, Nat.add_zero]
  rfl

/-! ## Runs -/

/-- How a wait ends with its last question: with the verdict that the question brings in time, or at
the deadline, when no question is left. -/
inductive Script.Ending (script : Script) (limit interval start deadline : Nat)
    (expired : Outcome Unit) (last : Nat) : Outcome Unit → Nat → Prop where
  | decided {verdict : Outcome Unit} (brings : script.Brings limit last verdict)
      (inTime : script.answeredAt limit interval start last ≤ deadline) :
      Ending script limit interval start deadline expired last verdict
        (script.answeredAt limit interval start last)
  | expired (quiet : script.answeredAt limit interval start last ≤ deadline →
        script.Quiet limit last)
      (past : deadline < script.askedAt limit interval start (last + 1)) :
      Ending script limit interval start deadline expired last expired deadline

/-- The run asks the questions from the number on as scheduled, none of them but the last brings a
verdict in time, and it ends with the last one. -/
def Script.Runs (script : Script) (limit interval start deadline : Nat) (expired : Outcome Unit)
    (number : Nat) (run : Option (List TimedExchange × Outcome Unit × Nat)) : Prop :=
  ∃ last log outcome ended, run = some (log, outcome, ended) ∧ number ≤ last ∧
    script.askedAt limit interval start last ≤ deadline ∧
    (∀ earlier, number ≤ earlier → earlier < last → script.Quiet limit earlier) ∧
    log.map TimedExchange.asked =
      (List.range' number (last + 1 - number)).map (script.askedAt limit interval start) ∧
    script.Ending limit interval start deadline expired last outcome ended

variable {expired outcome : Outcome Unit} {ended : Nat} {exchange : TimedExchange}

theorem runs_last (asked : exchange.asked = script.askedAt limit interval start number)
    (inTime : script.askedAt limit interval start number ≤ deadline)
    (ends : script.Ending limit interval start deadline expired number outcome ended) :
    script.Runs limit interval start deadline expired number
      (some ([exchange], outcome, ended)) := by
  refine ⟨number, _, outcome, ended, rfl, le_rfl, inTime, fun _ _ _ => by omega, ?_, ends⟩
  rw [Nat.add_sub_cancel_left, List.map_singleton, asked]
  rfl

theorem runs_preceded {run : Option (List TimedExchange × Outcome Unit × Nat)}
    (asked : exchange.asked = script.askedAt limit interval start number)
    (quiet : script.Quiet limit number)
    (later : script.Runs limit interval start deadline expired (number + 1) run) :
    script.Runs limit interval start deadline expired number (preceded exchange run) := by
  obtain ⟨last, log, outcome, ended, rfl, le, inTime, before, times, ends⟩ := later
  refine ⟨last, exchange :: log, outcome, ended, rfl, by omega, inTime, ?_, ?_, ends⟩
  · intro earlier above below
    rcases Nat.eq_or_lt_of_le above with rfl | after
    · exact quiet
    · exact before earlier after below
  · have more : last + 1 - number = last + 1 - (number + 1) + 1 := by omega
    rw [List.map_cons, times, asked, more, List.range'_succ, List.map_cons]

/-- From a question on, the wait runs as scheduled. -/
theorem runs_waits (moving : 0 < interval)
    (inTime : script.askedAt handle.requestMs interval start number ≤ deadline)
    (enough : deadline - script.askedAt handle.requestMs interval start number < fuel) :
    script.Runs handle.requestMs interval start deadline (.error (noLeaders spec)) number
      (script.waits replies handle spec interval deadline fuel number
        (script.askedAt handle.requestMs interval start number)) := by
  -- Every question that is followed by another one brings the clock nearer to the deadline.
  induction fuel generalizing number with
  | zero => omega
  | succ fuel ih =>
      by_cases past : script.answeredAt handle.requestMs interval start number ≤ deadline
      · rw [waits_of_inTime (show _ = script.answeredAt _ interval start number from rfl) past]
        cases settles : settledBy? ((script number).heard handle.requestMs) with
        | some verdict =>
            exact runs_last rfl inTime (.decided (settledBy?_heard.mp settles) past)
        | none =>
            have quiet : script.Quiet handle.requestMs number := by
              intro verdict brings
              rw [settledBy?_heard.mpr brings] at settles
              cases settles
            dsimp only
            split
            · exact runs_last rfl inTime (.expired (fun _ => quiet) ‹_›)
            · have later : script.askedAt handle.requestMs interval start number ≤
                  script.answeredAt handle.requestMs interval start number :=
                Script.askedAt_le_answeredAt number
              refine runs_preceded rfl quiet (ih ?_ ?_)
              · rw [Script.askedAt_succ]
                omega
              · rw [Script.askedAt_succ]
                omega
      · have late := Nat.lt_of_not_le past
        rw [waits_of_late inTime late]
        refine runs_last rfl inTime (.expired (fun inTime => absurd inTime past) ?_)
        exact late.trans_le (Nat.le_add_right _ interval)

/-! ## The first verdict -/

theorem Script.Brings.unique {other : Outcome Unit} (brings : script.Brings limit number verdict)
    (also : script.Brings limit number other) : verdict = other := by
  have same := settledBy?_heard.mpr brings
  rw [settledBy?_heard.mpr also] at same
  exact (Option.some.inj same).symm

/-- The first question that brings a verdict. -/
structure Script.First (script : Script) (limit number : Nat) (verdict : Outcome Unit) : Prop where
  brings : script.Brings limit number verdict
  before : ∀ earlier, earlier < number → script.Quiet limit earlier

namespace Script.Ending

variable {last : Nat}

theorem ended_le (ends : script.Ending limit interval start deadline expired last outcome ended) :
    ended ≤ deadline := by
  cases ends with
  | decided brings inTime => exact inTime
  | expired quiet past => exact le_rfl

/-- The first verdict that comes in time is the one that the last question brings. -/
theorem eq_of_first (ends : script.Ending limit interval start deadline expired last outcome ended)
    (before : ∀ earlier, earlier < last → script.Quiet limit earlier)
    (first : script.First limit number verdict)
    (inTime : script.answeredAt limit interval start number ≤ deadline) :
    outcome = verdict ∧ ended = script.answeredAt limit interval start number := by
  rcases Nat.lt_trichotomy number last with less | rfl | more
  · exact absurd first.brings (before number less verdict)
  · cases ends with
    | decided brings _ => exact ⟨brings.unique first.brings, rfl⟩
    | expired quiet _ => exact absurd first.brings (quiet inTime verdict)
  · cases ends with
    | decided brings _ => exact absurd brings (first.before last more _)
    | expired _ past =>
        have asked : script.askedAt limit interval start (last + 1) ≤
            script.answeredAt limit interval start number :=
          (askedAt_mono (Nat.succ_le_of_lt more)).trans (askedAt_le_answeredAt number)
        exact absurd (asked.trans inTime) (Nat.not_le_of_lt past)

/-- Without a verdict in time the wait expires. -/
theorem eq_of_late (ends : script.Ending limit interval start deadline expired last outcome ended)
    (before : ∀ earlier, earlier < last → script.Quiet limit earlier)
    (late : ∀ number verdict, script.First limit number verdict →
      deadline < script.answeredAt limit interval start number) :
    outcome = expired ∧ ended = deadline := by
  cases ends with
  | decided brings inTime =>
      exact absurd inTime (Nat.not_le_of_lt (late last _ ⟨brings, before⟩))
  | expired _ _ => exact ⟨rfl, rfl⟩

/-- The questions up to the last one are those that there is time for, as long as there has been no
verdict. -/
theorem lt_succ_iff (ends : script.Ending limit interval start deadline expired last outcome ended)
    (before : ∀ earlier, earlier < last → script.Quiet limit earlier)
    (asked : script.askedAt limit interval start last ≤ deadline) :
    number < last + 1 ↔ script.askedAt limit interval start number ≤ deadline ∧
      ∀ earlier, earlier < number → script.Quiet limit earlier := by
  constructor
  · intro less
    have le := Nat.le_of_lt_succ less
    exact ⟨(askedAt_mono le).trans asked, fun earlier sooner =>
      before earlier (sooner.trans_le le)⟩
  · rintro ⟨inTime, quiet⟩
    by_contra more
    have later : last + 1 ≤ number := Nat.le_of_not_lt more
    cases ends with
    | decided brings _ => exact quiet last later _ brings
    | expired _ past => exact absurd ((askedAt_mono later).trans inTime) (Nat.not_le_of_lt past)

end Script.Ending

variable {leaders : Settings.Leaders}

/-- **The first verdict that comes by the deadline decides a wait for leaders, at the moment it
comes, and if none does, the wait fails at the deadline.** A question is asked when the one before
it has been answered or given up and the interval has passed, as long as there is time and there has
been no verdict. -/
theorem wait_decided (moving : 0 < leaders.intervalMs) (waits : spec.waitForLeaders = true)
    (script : Script) (replies : (request : Request) → request.Reply) (handle : Handle)
    (start : Nat) :
    ∃ log outcome ended,
      (awaitLeadersIfAsked leaders handle spec).run.outlast (script.service replies) script.latency
          0 start = some (log, outcome, ended) ∧
      ended ≤ start + spec.leaderWaitMs ∧
      (∀ number verdict, script.First handle.requestMs number verdict →
        script.answeredAt handle.requestMs leaders.intervalMs start number ≤
          start + spec.leaderWaitMs →
        outcome = verdict ∧
          ended = script.answeredAt handle.requestMs leaders.intervalMs start number) ∧
      ((∀ number verdict, script.First handle.requestMs number verdict →
          start + spec.leaderWaitMs <
            script.answeredAt handle.requestMs leaders.intervalMs start number) →
        outcome = .error (noLeaders spec) ∧ ended = start + spec.leaderWaitMs) ∧
      ∃ count,
        log.map TimedExchange.asked =
          (List.range count).map (script.askedAt handle.requestMs leaders.intervalMs start) ∧
        ∀ number, number < count ↔
          script.askedAt handle.requestMs leaders.intervalMs start number ≤
              start + spec.leaderWaitMs ∧
            ∀ earlier, earlier < number → script.Quiet handle.requestMs earlier := by
  obtain ⟨last, log, outcome, ended, same, -, inTime, before, times, ends⟩ :
      script.Runs handle.requestMs leaders.intervalMs start (start + spec.leaderWaitMs)
        (.error (noLeaders spec)) 0
        (script.waits replies handle spec leaders.intervalMs (start + spec.leaderWaitMs)
          (spec.leaderWaitMs + 2) 0 start) :=
    runs_waits moving (Nat.le_add_right _ _) (by
      show start + spec.leaderWaitMs - start < _
      omega)
  have quiet : ∀ earlier, earlier < last → script.Quiet handle.requestMs earlier :=
    fun earlier => before earlier (Nat.zero_le earlier)
  refine ⟨log, outcome, ended, ?_, ends.ended_le, ?_, ends.eq_of_late quiet, last + 1, ?_, ?_⟩
  · rw [awaitLeadersIfAsked_of_waits waits]
    exact same
  · intro number verdict first arrives
    exact ends.eq_of_first quiet first arrives
  · rw [times, List.range_eq_range']
    rfl
  · intro number
    exact ends.lt_succ_iff quiet inTime

/-- The first question stays unanswered, the topic is not known at the second one, the third one is
asked too early, and then the only partition has a leader. -/
def lateLeader : Script
  | 0 => ⟨.ok none, none⟩
  | 1 => ⟨.ok none, some 10⟩
  | 2 => ⟨.error ⟨.leaderNotAvailable, "orders"⟩, some 10⟩
  | _ => ⟨.ok (some orders), some 20⟩

/-- A session that gives up a request after a tenth of a second. -/
def hastyHandle : Handle := { streamingHandle with requestMs := 100 }

/-- The fourth question brings the verdict. -/
theorem first_lateLeader : lateLeader.First hastyHandle.requestMs 3 (.ok ()) where
  brings := ⟨20, rfl, by decide, .led (by decide) (by decide)⟩
  before := by
    intro earlier sooner verdict brings
    have heard := settledBy?_heard.mpr brings
    match earlier with
    | 0 | 1 | 2 => exact nomatch (show none = some verdict from heard)
    | later + 3 => omega

/-- Questions follow one another after half a tenth of a second. -/
def hastyLeaders : Settings.Leaders := { intervalMs := 50 }

/-- The wait succeeds with the fourth question. -/
theorem wait_decided_lateLeader :
    0 < hastyLeaders.intervalMs ∧ awaitedOrders.spec.waitForLeaders = true ∧
      ∃ log, (awaitLeadersIfAsked hastyLeaders hastyHandle awaitedOrders.spec).run.outlast
          (lateLeader.service Session.reachable) lateLeader.latency 0 0 =
            some (log, .ok (), 290) := by
  have moving : 0 < hastyLeaders.intervalMs := by decide
  have waits : awaitedOrders.spec.waitForLeaders = true := rfl
  obtain ⟨log, outcome, ended, same, -, first, -⟩ :=
    wait_decided moving waits lateLeader Session.reachable hastyHandle 0
  obtain ⟨rfl, rfl⟩ := first 3 (.ok ()) first_lateLeader (by decide)
  exact ⟨moving, waits, log, same⟩

end Provision.Topic
