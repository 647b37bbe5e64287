import Provision.Proofs.Dialogue.Service

/-!
# Dialogues on a clock

Replies take time. A timed transcript says of every request when it was made and when the dialogue
went on. A dialogue that begins at a given time lasts until the time at which it ends
(`Dialogue.Lasts`): a reply may take as long as it likes, a request with a limit is given up at that
limit, a pause takes the time that it says, and everything else takes no time. The clock that a
dialogue looks at shows this time.

Every service with every latency brings a dialogue to its end, at some time and on some transcript
(`lasts_elapse`).
-/

set_option autoImplicit false

namespace Provision

open Dialogue (Request)

/-- An exchange with the time of the request and the time at which the dialogue went on. -/
structure TimedExchange extends Exchange where
  asked : Nat
  answered : Nat

variable {α β : Type}

namespace Dialogue

/-- The dialogue begins at the first time, and ends at the second one with the value, when its
requests are answered as the transcript says. -/
inductive Lasts {α : Type} : Dialogue α → Nat → List TimedExchange → α → Nat → Prop where
  | done (value : α) (time : Nat) : Lasts (.done value) time [] value time
  | ask {request : Request} {next : request.Reply → Dialogue α} {began answered ended : Nat}
      {rest : List TimedExchange} {value : α} (reply : request.Reply) (later : began ≤ answered)
      (lasts : Lasts (next reply) answered rest value ended) :
      Lasts (.ask request next) began (⟨⟨request, some reply⟩, began, answered⟩ :: rest) value ended
  | askWithin {limit : Nat} {request : Request} {next : Option request.Reply → Dialogue α}
      {began answered ended : Nat} {rest : List TimedExchange} {value : α} (reply : request.Reply)
      (later : began ≤ answered) (inTime : answered ≤ began + limit)
      (lasts : Lasts (next (some reply)) answered rest value ended) :
      Lasts (.askWithin limit request next) began
        (⟨⟨request, some reply⟩, began, answered⟩ :: rest) value ended
  | giveUp {limit : Nat} {request : Request} {next : Option request.Reply → Dialogue α}
      {began ended : Nat} {rest : List TimedExchange} {value : α}
      (lasts : Lasts (next none) (began + limit) rest value ended) :
      Lasts (.askWithin limit request next) began
        (⟨⟨request, none⟩, began, began + limit⟩ :: rest) value ended
  | pause {duration : Nat} {next : Unit → Dialogue α} {began ended : Nat}
      {rest : List TimedExchange} {value : α}
      (lasts : Lasts (next ()) (began + duration) rest value ended) :
      Lasts (.pause duration next) began rest value ended
  | clock {next : Nat → Dialogue α} {began ended : Nat} {rest : List TimedExchange} {value : α}
      (lasts : Lasts (next began) began rest value ended) :
      Lasts (.clock next) began rest value ended

/-! ## How long dialogues last -/

theorem lasts_done {found value : α} {began ended : Nat} {log : List TimedExchange} :
    Lasts (.done value) began log found ended ↔ log = [] ∧ found = value ∧ ended = began := by
  constructor
  · intro lasts
    cases lasts with
    | done => exact ⟨rfl, rfl, rfl⟩
  · rintro ⟨rfl, rfl, rfl⟩
    exact .done _ _

theorem lasts_now {began ended time : Nat} {log : List TimedExchange} :
    Lasts now began log time ended ↔ log = [] ∧ time = began ∧ ended = began := by
  constructor
  · intro lasts
    cases lasts with
    | clock lasts => exact lasts_done.mp lasts
  · rintro ⟨rfl, rfl, rfl⟩
    exact .clock (.done _ _)

theorem lasts_sleep {duration began ended : Nat} {log : List TimedExchange} {value : Unit} :
    Lasts (sleep duration) began log value ended ↔ log = [] ∧ ended = began + duration := by
  constructor
  · intro lasts
    cases lasts with
    | pause lasts =>
        obtain ⟨rfl, -, rfl⟩ := lasts_done.mp lasts
        exact ⟨rfl, rfl⟩
  · rintro ⟨rfl, rfl⟩
    exact .pause (.done _ _)

/-- A request with a limit is answered within the limit, or given up at its end. -/
theorem lasts_askWithin {limit : Nat} {request : Request}
    {next : Option request.Reply → Dialogue α} {began ended : Nat} {log : List TimedExchange}
    {value : α} :
    Lasts (.askWithin limit request next) began log value ended ↔
      ∃ reply answered rest, log = ⟨⟨request, reply⟩, began, answered⟩ :: rest ∧
        began ≤ answered ∧ answered ≤ began + limit ∧
        (reply = none → answered = began + limit) ∧
        Lasts (next reply) answered rest value ended := by
  constructor
  · intro lasts
    cases lasts with
    | askWithin reply later inTime lasts =>
        exact ⟨some reply, _, _, rfl, later, inTime, nofun, lasts⟩
    | giveUp lasts =>
        exact ⟨none, _, _, rfl, Nat.le_add_right began limit, Nat.le_refl _, fun _ => rfl, lasts⟩
  · rintro ⟨reply, answered, rest, rfl, later, inTime, givenUp, lasts⟩
    cases reply with
    | some reply => exact .askWithin reply later inTime lasts
    | none =>
        obtain rfl := givenUp rfl
        exact .giveUp lasts

theorem lasts_clock {next : Nat → Dialogue α} {began ended : Nat} {log : List TimedExchange}
    {value : α} : Lasts (.clock next) began log value ended ↔
      Lasts (next began) began log value ended := by
  constructor
  · intro lasts
    cases lasts with
    | clock lasts => exact lasts
  · exact .clock

theorem lasts_pause {duration : Nat} {next : Unit → Dialogue α} {began ended : Nat}
    {log : List TimedExchange} {value : α} :
    Lasts (.pause duration next) began log value ended ↔
      Lasts (next ()) (began + duration) log value ended := by
  constructor
  · intro lasts
    cases lasts with
    | pause lasts => exact lasts
  · exact .pause

/-- No dialogue ends before it begins. -/
theorem Lasts.le {dialogue : Dialogue α} {began ended : Nat} {log : List TimedExchange} {value : α}
    (lasts : Lasts dialogue began log value ended) : began ≤ ended := by
  induction lasts with
  | done => exact Nat.le_refl _
  | ask reply later lasts ih => exact Nat.le_trans later ih
  | askWithin reply later inTime lasts ih => exact Nat.le_trans later ih
  | giveUp lasts ih => exact Nat.le_trans (Nat.le_add_right _ _) ih
  | pause lasts ih => exact Nat.le_trans (Nat.le_add_right _ _) ih
  | clock lasts ih => exact ih

/-- The value that is reached on a clock is one that the dialogue ends with. -/
theorem Lasts.ends {dialogue : Dialogue α} {began ended : Nat} {log : List TimedExchange}
    {value : α} (lasts : Lasts dialogue began log value ended) :
    Ends dialogue (log.map TimedExchange.toExchange) value := by
  induction lasts with
  | done value => exact .done value
  | ask reply later lasts ih => exact .ask reply ih
  | askWithin reply later inTime lasts ih => exact .askWithin (some reply) ih
  | giveUp lasts ih => exact .askWithin none ih
  | pause lasts ih => exact .pause ih
  | clock lasts ih => exact .clock _ ih

/-- What follows a dialogue begins when that has ended. -/
theorem Lasts.bind {dialogue : Dialogue α} {follow : α → Dialogue β} {began between ended : Nat}
    {first rest : List TimedExchange} {middle : α} {value : β}
    (begins : Lasts dialogue began first middle between)
    (lasts : Lasts (follow middle) between rest value ended) :
    Lasts (dialogue.bind follow) began (first ++ rest) value ended := by
  induction begins with
  | done => exact lasts
  | ask reply later _ ih => exact .ask reply later (ih lasts)
  | askWithin reply later inTime _ ih => exact .askWithin reply later inTime (ih lasts)
  | giveUp _ ih => exact .giveUp (ih lasts)
  | pause _ ih => exact .pause (ih lasts)
  | clock _ ih => exact .clock (ih lasts)

theorem lasts_bind {dialogue : Dialogue α} {follow : α → Dialogue β} {began ended : Nat}
    {log : List TimedExchange} {value : β} :
    Lasts (dialogue.bind follow) began log value ended ↔
      ∃ first middle between rest, Lasts dialogue began first middle between ∧
        Lasts (follow middle) between rest value ended ∧ log = first ++ rest := by
  constructor
  · intro lasts
    induction dialogue generalizing began log with
    | done middle => exact ⟨[], middle, began, log, .done middle began, lasts, rfl⟩
    | ask request next ih =>
        cases lasts with
        | ask reply later lasts =>
            obtain ⟨first, middle, between, rest, begins, follows, rfl⟩ := ih reply lasts
            exact ⟨_, middle, between, rest, .ask reply later begins, follows, rfl⟩
    | askWithin limit request next ih =>
        cases lasts with
        | askWithin reply later inTime lasts =>
            obtain ⟨first, middle, between, rest, begins, follows, rfl⟩ := ih (some reply) lasts
            exact ⟨_, middle, between, rest, .askWithin reply later inTime begins, follows, rfl⟩
        | giveUp lasts =>
            obtain ⟨first, middle, between, rest, begins, follows, rfl⟩ := ih none lasts
            exact ⟨_, middle, between, rest, .giveUp begins, follows, rfl⟩
    | pause duration next ih =>
        cases lasts with
        | pause lasts =>
            obtain ⟨first, middle, between, rest, begins, follows, rfl⟩ := ih () lasts
            exact ⟨_, middle, between, rest, .pause begins, follows, rfl⟩
    | clock next ih =>
        cases lasts with
        | clock lasts =>
            obtain ⟨first, middle, between, rest, begins, follows, rfl⟩ := ih began lasts
            exact ⟨_, middle, between, rest, .clock begins, follows, rfl⟩
  · rintro ⟨first, middle, between, rest, begins, lasts, rfl⟩
    exact begins.bind lasts

/-- To look at the value of a dialogue takes no time. -/
theorem lasts_bind_done {dialogue : Dialogue α} {view : α → β} {began ended : Nat}
    {log : List TimedExchange} {value : β} :
    Lasts (dialogue.bind fun found => .done (view found)) began log value ended ↔
      ∃ found, Lasts dialogue began log found ended ∧ value = view found := by
  rw [lasts_bind]
  constructor
  · rintro ⟨first, found, between, rest, begins, looks, rfl⟩
    obtain ⟨rfl, rfl, rfl⟩ := lasts_done.mp looks
    rw [List.append_nil]
    exact ⟨found, begins, rfl⟩
  · rintro ⟨found, lasts, rfl⟩
    exact ⟨log, found, ended, [], lasts, .done _ _, (List.append_nil log).symm⟩

/-! ## Every dialogue ends -/

variable {State : Type}

/-- What a dialogue ends with, and when, if every request takes as long as the latency says. -/
def elapse (service : Service State) (latency : Request → State → Nat) :
    Dialogue α → State → Nat → List TimedExchange × α × Nat
  | .done value, _, time => ([], value, time)
  | .ask request next, state, time =>
      let (reply, later) := service request state
      let answered := time + latency request state
      let (rest, ended) := (next reply).elapse service latency later answered
      (⟨⟨request, some reply⟩, time, answered⟩ :: rest, ended)
  | .askWithin limit request next, state, time =>
      let (reply, later) := service request state
      if latency request state ≤ limit then
        let answered := time + latency request state
        let (rest, ended) := (next (some reply)).elapse service latency later answered
        (⟨⟨request, some reply⟩, time, answered⟩ :: rest, ended)
      else
        let (rest, ended) := (next none).elapse service latency later (time + limit)
        (⟨⟨request, none⟩, time, time + limit⟩ :: rest, ended)
  | .pause duration next, state, time => (next ()).elapse service latency state (time + duration)
  | .clock next, state, time => (next time).elapse service latency state time

/-- **Whatever the services reply, and however long they take, a dialogue comes to its end.** -/
theorem lasts_elapse (service : Service State) (latency : Request → State → Nat)
    (dialogue : Dialogue α) (state : State) (began : Nat) :
    Lasts dialogue began (dialogue.elapse service latency state began).1
      (dialogue.elapse service latency state began).2.1
      (dialogue.elapse service latency state began).2.2 := by
  induction dialogue generalizing state began with
  | done value => exact .done value began
  | ask request next ih => exact .ask _ (Nat.le_add_right _ _) (ih _ _ _)
  | askWithin limit request next ih =>
      unfold elapse
      dsimp only
      split
      · rename_i within
        exact .askWithin _ (Nat.le_add_right _ _) (Nat.add_le_add_left within began) (ih _ _ _)
      · exact .giveUp (ih _ _ _)
  | pause duration next ih => exact .pause (ih () _ _)
  | clock next ih => exact .clock (ih _ _ _)

/-- What a dialogue exchanges with a service that replies at once. -/
def exchanged (service : Service State) (dialogue : Dialogue α) (state : State) : List Exchange :=
  (dialogue.elapse service (fun _ _ => 0) state 0).1.map TimedExchange.toExchange

theorem ends_exchanged (service : Service State) (dialogue : Dialogue α) (state : State) :
    Ends dialogue (dialogue.exchanged service state)
      (dialogue.elapse service (fun _ _ => 0) state 0).2.1 :=
  (lasts_elapse service _ dialogue state 0).ends

end Dialogue

namespace Flow

/-! ## How long flows last -/

/-- The flow begins at the first time, and ends at the second one with the outcome, when its
requests are answered as the transcript says. -/
def Lasts (flow : Flow α) (began : Nat) (log : List TimedExchange) (outcome : Outcome α)
    (ended : Nat) : Prop :=
  Dialogue.Lasts flow.run began log outcome ended

variable {began ended : Nat} {log : List TimedExchange}

theorem Lasts.le {flow : Flow α} {outcome : Outcome α}
    (lasts : Lasts flow began log outcome ended) : began ≤ ended :=
  Dialogue.Lasts.le lasts

theorem lasts_pure {value : α} {outcome : Outcome α} :
    Lasts (pure value) began log outcome ended ↔
      log = [] ∧ outcome = .ok value ∧ ended = began :=
  Dialogue.lasts_done

theorem lasts_throw {failure : Failure} {outcome : Outcome α} :
    Lasts (throw failure) began log outcome ended ↔
      log = [] ∧ outcome = .error failure ∧ ended = began :=
  Dialogue.lasts_done

/-- A flow followed by another one lasts as long as the first if that fails, or as both. -/
theorem lasts_bind {flow : Flow α} {follow : α → Flow β} {outcome : Outcome β} :
    Lasts (flow >>= follow) began log outcome ended ↔
      (∃ failure, Lasts flow began log (.error failure) ended ∧ outcome = .error failure) ∨
        ∃ first value between rest, Lasts flow began first (.ok value) between ∧
          Lasts (follow value) between rest outcome ended ∧ log = first ++ rest := by
  unfold Lasts
  rw [run_bind, Dialogue.lasts_bind]
  constructor
  · rintro ⟨first, middle, between, rest, begins, lasts, rfl⟩
    cases middle with
    | error failure =>
        obtain ⟨rfl, rfl, rfl⟩ := Dialogue.lasts_done.mp lasts
        rw [List.append_nil]
        exact .inl ⟨failure, begins, rfl⟩
    | ok value => exact .inr ⟨first, value, between, rest, begins, lasts, rfl⟩
  · rintro (⟨failure, lasts, rfl⟩ | ⟨first, value, between, rest, begins, lasts, rfl⟩)
    · exact ⟨log, .error failure, ended, [], lasts, .done _ _, (List.append_nil log).symm⟩
    · exact ⟨first, .ok value, between, rest, begins, lasts, rfl⟩

/-- To look at the value of a flow takes no time. -/
theorem lasts_bind_pure {flow : Flow α} {view : α → β} {outcome : Outcome β} :
    Lasts (flow >>= fun value => pure (view value)) began log outcome ended ↔
      ∃ found, Lasts flow began log found ended ∧ outcome = view <$> found := by
  rw [lasts_bind]
  constructor
  · rintro (⟨failure, lasts, rfl⟩ | ⟨first, value, between, rest, begins, looks, rfl⟩)
    · exact ⟨.error failure, lasts, rfl⟩
    · obtain ⟨rfl, rfl, rfl⟩ := lasts_pure.mp looks
      rw [List.append_nil]
      exact ⟨.ok value, begins, rfl⟩
  · rintro ⟨found, lasts, rfl⟩
    cases found with
    | error failure => exact .inl ⟨failure, lasts, rfl⟩
    | ok value =>
        exact .inr ⟨log, value, ended, [], lasts, lasts_pure.mpr ⟨rfl, rfl, rfl⟩,
          (List.append_nil log).symm⟩

/-- A flow goes on with what a dialogue has ended with. -/
theorem lasts_lift_bind {dialogue : Dialogue α} {follow : α → Flow β} {outcome : Outcome β} :
    Lasts (ExceptT.lift dialogue >>= follow) began log outcome ended ↔
      ∃ first value between rest, Dialogue.Lasts dialogue began first value between ∧
        Lasts (follow value) between rest outcome ended ∧ log = first ++ rest := by
  have lifted : (ExceptT.lift dialogue >>= follow : Flow β).run =
      dialogue.bind fun value => (follow value).run := by
    show (dialogue.bind fun value => .done (.ok value)).bind (ExceptT.bindCont follow) = _
    rw [Dialogue.bind_assoc]
    rfl
  unfold Lasts
  rw [lifted, Dialogue.lasts_bind]

/-- To look at the clock is to know what time it is. -/
theorem lasts_now_bind {follow : Nat → Flow β} {outcome : Outcome β} :
    Lasts (ExceptT.lift Dialogue.now >>= follow) began log outcome ended ↔
      Lasts (follow began) began log outcome ended := by
  rw [lasts_lift_bind]
  constructor
  · rintro ⟨first, value, between, rest, looked, lasts, rfl⟩
    obtain ⟨rfl, rfl, rfl⟩ := Dialogue.lasts_now.mp looked
    exact lasts
  · intro lasts
    exact ⟨[], began, began, log, Dialogue.lasts_now.mpr ⟨rfl, rfl, rfl⟩, lasts, rfl⟩

end Flow

end Provision
