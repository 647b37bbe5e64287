import Mathlib.Data.DFinsupp.WellFounded
import Provision.Proofs.Dialogue.Service

/-!
# Dialogues side by side

Several dialogues with one service take turns. In a turn one of them, any one, has its next request
served, waits or looks at the clock, and no turn is interrupted by another (`Dialogue.Turn`).

Every interleaving comes to an end, since each turn takes one of the dialogues to a part of it
(`wellFounded_round`), and it does not stop before all dialogues have ended (`ended_or_round`).
A property is concluded if it holds in the end of every interleaving (`Dialogue.Concludes`), and
what every turn keeps is concluded (`concludes_of_kept`). An interleaving can also be played out, so
that a property that fails at its end is not concluded.
-/

set_option autoImplicit false

namespace Provision.Dialogue

variable {State α : Type} {n : Nat} {service : Service State}

/-! ## Turns -/

/-- The dialogue takes a turn in the state: what it goes on with, and the state after the turn. -/
inductive Turn {α : Type} (service : Service State) :
    Dialogue α → State → Dialogue α → State → Prop where
  | ask {request : Request} {next : request.Reply → Dialogue α} {state : State} :
      Turn service (.ask request next) state (next (service request state).1)
        (service request state).2
  | askWithin {limit : Nat} {request : Request} {next : Option request.Reply → Dialogue α}
      {state : State} :
      Turn service (.askWithin limit request next) state (next (some (service request state).1))
        (service request state).2
  | pause {duration : Nat} {next : Unit → Dialogue α} {state : State} :
      Turn service (.pause duration next) state (next ()) state
  | clock {next : Nat → Dialogue α} {state : State} (time : Nat) :
      Turn service (.clock next) state (next time) state

/-- A dialogue that takes a turn goes on with a part of itself, so no dialogue takes turns for
ever. -/
theorem wellFounded_turn (service : Service State) :
    WellFounded fun later earlier : Dialogue α => ∃ state left,
      Turn service earlier state later left := by
  refine ⟨fun dialogue => ?_⟩
  induction dialogue with
  | done value =>
      refine ⟨_, ?_⟩
      rintro later ⟨state, left, turn⟩
      cases turn
  | ask request next ih =>
      refine ⟨_, ?_⟩
      rintro later ⟨state, left, turn⟩
      cases turn with
      | ask => exact ih _
  | askWithin limit request next ih =>
      refine ⟨_, ?_⟩
      rintro later ⟨state, left, turn⟩
      cases turn with
      | askWithin => exact ih _
  | pause duration next ih =>
      refine ⟨_, ?_⟩
      rintro later ⟨state, left, turn⟩
      cases turn with
      | pause => exact ih ()
  | clock next ih =>
      refine ⟨_, ?_⟩
      rintro later ⟨state, left, turn⟩
      cases turn with
      | clock time => exact ih time

/-- A dialogue has ended or can take a turn. -/
theorem done_or_turn (service : Service State) (dialogue : Dialogue α) (state : State) :
    (∃ value, dialogue = .done value) ∨ ∃ later left, Turn service dialogue state later left := by
  cases dialogue with
  | done value => exact .inl ⟨value, rfl⟩
  | ask request next => exact .inr ⟨_, _, .ask⟩
  | askWithin limit request next => exact .inr ⟨_, _, .askWithin⟩
  | pause duration next => exact .inr ⟨_, _, .pause⟩
  | clock next => exact .inr ⟨_, _, .clock 0⟩

/-! ## Rounds -/

/-- Dialogues side by side, by number. -/
abbrev Pool (n : Nat) (α : Type) := Fin n → Dialogue α

/-- One of the dialogues takes a turn, and the others stay where they are. -/
inductive Round (service : Service State) (pool : Pool n α) (state : State) :
    Pool n α → State → Prop where
  | turn (number : Fin n) {dialogue : Dialogue α} {left : State}
      (turn : Turn service (pool number) state dialogue left) :
      Round service pool state (Function.update pool number dialogue) left

/-- **Every interleaving comes to an end.** -/
theorem wellFounded_round (service : Service State) :
    WellFounded fun later earlier : Pool n α => ∃ state left,
      Round service earlier state later left := by
  refine Subrelation.wf ?_ (Pi.Lex.wellFounded (· < ·) fun _ : Fin n => wellFounded_turn service)
  rintro later earlier ⟨state, left, round⟩
  cases round with
  | turn number turn =>
      refine ⟨number, fun other before => Function.update_of_ne (ne_of_lt before) _ _, ?_⟩
      rw [Function.update_self]
      exact ⟨state, left, turn⟩

/-- All dialogues have ended, or one of them can take a turn. -/
theorem ended_or_round (service : Service State) (pool : Pool n α) (state : State) :
    (∃ values : Fin n → α, pool = fun number => .done (values number)) ∨
      ∃ later left, Round service pool state later left := by
  by_cases ended : ∀ number, ∃ value, pool number = .done value
  · choose values same using ended
    exact .inl ⟨values, funext same⟩
  · obtain ⟨number, going⟩ := not_forall.mp ended
    obtain ⟨later, left, turn⟩ := (done_or_turn service (pool number) state).resolve_left going
    exact .inr ⟨_, _, .turn number turn⟩

/-! ## Conclusions -/

/-- However the dialogues are interleaved, they all end, and the property then holds of their values
and of the state that they leave. -/
inductive Concludes (service : Service State) (holds : (Fin n → α) → State → Prop) :
    Pool n α → State → Prop where
  | ended {values : Fin n → α} {state : State} (here : holds values state) :
      Concludes service holds (fun number => .done (values number)) state
  | rounds {pool : Pool n α} {state : State}
      (going : ∃ later left, Round service pool state later left)
      (all : ∀ later left, Round service pool state later left →
        Concludes service holds later left) :
      Concludes service holds pool state

/-- **What every turn keeps is concluded.** -/
theorem concludes_of_kept {kept : Pool n α → State → Prop}
    (keeps : ∀ {pool state later left}, kept pool state → Round service pool state later left →
      kept later left)
    {pool : Pool n α} {state : State} (start : kept pool state) :
    Concludes service (fun values left => kept (fun number => .done (values number)) left) pool
      state := by
  induction pool using (wellFounded_round service).induction generalizing state with
  | _ pool ih =>
      rcases ended_or_round service pool state with ⟨values, rfl⟩ | going
      · exact .ended start
      · exact .rounds going fun later left round => ih later ⟨state, left, round⟩
          (keeps start round)

theorem Concludes.mono {holds wider : (Fin n → α) → State → Prop} {pool : Pool n α} {state : State}
    (concludes : Concludes service holds pool state)
    (widen : ∀ values left, holds values left → wider values left) :
    Concludes service wider pool state := by
  induction concludes with
  | ended here => exact .ended (widen _ _ here)
  | rounds going _ ih => exact .rounds going ih

/-- What is concluded of dialogues that have ended holds. -/
theorem Concludes.here {holds : (Fin n → α) → State → Prop} {values : Fin n → α} {state : State}
    (concludes : Concludes service holds (fun number => .done (values number)) state) :
    holds values state := by
  generalize same : (fun number => Dialogue.done (values number)) = pool at concludes
  cases concludes with
  | ended here =>
      rename_i found
      have values_eq : values = found :=
        funext fun number => Dialogue.done.inj (congrFun same number)
      rw [values_eq]
      exact here
  | rounds going _ =>
      obtain ⟨_, _, round⟩ := going
      cases round with
      | turn number turn =>
          rw [← congrFun same number] at turn
          cases turn

/-! ## Playing out -/

/-- The value of a dialogue that has ended. -/
def value? : Dialogue α → Option α
  | .done value => some value
  | _ => none

theorem eq_done_of_value? {dialogue : Dialogue α} {value : α}
    (ended : dialogue.value? = some value) : dialogue = .done value := by
  cases dialogue with
  | done found => cases ended; rfl
  | ask request next => cases ended
  | askWithin limit request next => cases ended
  | pause duration next => cases ended
  | clock next => cases ended

/-- The dialogue after its next turn, with the clock at zero, and the state after it. -/
def afterTurn (service : Service State) : Dialogue α → State → Dialogue α × State
  | .done value, state => (.done value, state)
  | .ask request next, state => (next (service request state).1, (service request state).2)
  | .askWithin _ request next, state =>
      (next (some (service request state).1), (service request state).2)
  | .pause _ next, state => (next (), state)
  | .clock next, state => (next 0, state)

/-- The dialogues after the turns of those with the given numbers, and the state after them. -/
def playOut (service : Service State) : List (Fin n) → Pool n α → State → Pool n α × State
  | [], pool, state => (pool, state)
  | number :: rest, pool, state =>
      playOut service rest
        (Function.update pool number ((pool number).afterTurn service state).1)
        ((pool number).afterTurn service state).2

/-- A dialogue that has not ended takes a turn. -/
theorem afterTurn_cases (service : Service State) (dialogue : Dialogue α) (state : State) :
    dialogue.afterTurn service state = (dialogue, state) ∨
      Turn service dialogue state (dialogue.afterTurn service state).1
        (dialogue.afterTurn service state).2 := by
  cases dialogue with
  | done value => exact .inl rfl
  | ask request next => exact .inr .ask
  | askWithin limit request next => exact .inr .askWithin
  | pause duration next => exact .inr .pause
  | clock next => exact .inr (.clock 0)

/-- What is concluded at the start is concluded after any turns. -/
theorem Concludes.playOut {holds : (Fin n → α) → State → Prop} {pool : Pool n α} {state : State}
    (concludes : Concludes service holds pool state) (numbers : List (Fin n)) :
    Concludes service holds (Dialogue.playOut service numbers pool state).1
      (Dialogue.playOut service numbers pool state).2 := by
  induction numbers generalizing pool state with
  | nil => exact concludes
  | cons number rest ih =>
      refine ih ?_
      rcases afterTurn_cases service (pool number) state with same | turn
      · rw [same, Function.update_eq_self]
        exact concludes
      · cases concludes with
        | ended here => cases turn
        | rounds _ all => exact all _ _ (.turn number turn)

/-- What is concluded holds at the end of every interleaving that is played out. -/
theorem Concludes.exists_values {holds : (Fin n → α) → State → Prop} {pool : Pool n α}
    {state : State} (concludes : Concludes service holds pool state) (numbers : List (Fin n))
    (ended : ∀ number, ((Dialogue.playOut service numbers pool state).1 number).value?.isSome) :
    ∃ values, (∀ number, ((Dialogue.playOut service numbers pool state).1 number).value? =
        some (values number)) ∧
      holds values (Dialogue.playOut service numbers pool state).2 := by
  choose values same using fun number => Option.isSome_iff_exists.mp (ended number)
  refine ⟨values, same, ?_⟩
  have all : (Dialogue.playOut service numbers pool state).1 =
      fun number => .done (values number) := funext fun number => eq_done_of_value? (same number)
  have played := concludes.playOut numbers
  rw [all] at played
  exact played.here

end Provision.Dialogue
