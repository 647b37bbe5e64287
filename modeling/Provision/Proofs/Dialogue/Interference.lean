import Provision.Proofs.Dialogue.Interleaving

/-!
# What others do between the turns of a dialogue

Between two turns of a dialogue others may leave the state as it is or make it one of the passing
states (`Moves`). A dialogue withstands that if its own turns do no more, and if what it ends with
holds at that moment, wherever the others have come in between (`Dialogue.Withstands`).

Dialogues that withstand each other can run side by side: what each ends with held when it ended,
and the last one to end does so in the state that is left in the end
(`concludes_of_withstands`). So if there is one value and one state that each can end with, all of
them end with what a single one ends with on its own (`concludes_of_undisturbed`). If each of them
changes the state in its last turn only, the state is not changed unless one of them ends well
(`concludes_of_culminates`).
-/

set_option autoImplicit false

namespace Provision

open Dialogue (Request)

variable {State α β : Type}

/-- The state is left as it is or becomes one of the passing states. -/
def Moves (passing : State → Prop) (before after : State) : Prop :=
  after = before ∨ passing after

namespace Moves

variable {passing : State → Prop} {first second third : State}

theorem refl (passing : State → Prop) (state : State) : Moves passing state state := .inl rfl

theorem trans (before : Moves passing first second) (after : Moves passing second third) :
    Moves passing first third := by
  rcases after with rfl | reached
  · exact before
  · exact .inr reached

/-- Where no state is passing the state stays as it is. -/
theorem still (moved : Moves (fun _ => False) first second) : second = first :=
  moved.resolve_right not_false

/-- The only passing state is not left again. -/
theorem settled (moved : Moves (· = first) first second) : second = first :=
  moved.elim (fun same => same) fun same => same

end Moves

namespace Dialogue

variable {service : Service State} {passing : State → Prop} {holds : α → State → Prop}

/-! ## Dialogues that withstand others -/

/-- Wherever others move the state in between, the turns of the dialogue do no more than they may,
and the property holds of what it ends with at that moment. -/
def Withstands (service : Service State) (passing : State → Prop) (holds : α → State → Prop) :
    Dialogue α → State → Prop
  | .done value, state => holds value state
  | .ask request next, state => ∀ found, Moves passing state found →
      Moves passing found (service request found).2 ∧
        (next (service request found).1).Withstands service passing holds (service request found).2
  | .askWithin _ request next, state => ∀ found, Moves passing state found →
      Moves passing found (service request found).2 ∧
        (next (some (service request found).1)).Withstands service passing holds
          (service request found).2
  | .pause _ next, state => ∀ found, Moves passing state found →
      (next ()).Withstands service passing holds found
  | .clock next, state => ∀ found, Moves passing state found → ∀ time,
      (next time).Withstands service passing holds found

/-- A turn does no more than it may, and the dialogue withstands what comes after it. -/
theorem Withstands.turn {dialogue later : Dialogue α} {known state left : State}
    (withstands : dialogue.Withstands service passing holds known)
    (moved : Moves passing known state) (turn : Turn service dialogue state later left) :
    Moves passing state left ∧ later.Withstands service passing holds left := by
  cases turn with
  | ask => exact withstands state moved
  | askWithin => exact withstands state moved
  | pause => exact ⟨.refl _ _, withstands state moved⟩
  | clock time => exact ⟨.refl _ _, withstands state moved time⟩

/-- A second part may start wherever the first one can end. -/
theorem Withstands.bind {middle : α → State → Prop} {last : β → State → Prop}
    {dialogue : Dialogue α} {follow : α → Dialogue β} {state : State}
    (first : dialogue.Withstands service passing middle state)
    (second : ∀ value found, middle value found →
      (follow value).Withstands service passing last found) :
    (dialogue.bind follow).Withstands service passing last state := by
  induction dialogue generalizing state with
  | done value => exact second value state first
  | ask request next ih => exact fun found moved => (first found moved).imp_right (ih _)
  | askWithin limit request next ih => exact fun found moved => (first found moved).imp_right (ih _)
  | pause duration next ih => exact fun found moved => ih () (first found moved)
  | clock next ih => exact fun found moved time => ih time (first found moved time)

/-- On its own a dialogue that withstands others ends with something that has the property. -/
theorem Withstands.serve {dialogue : Dialogue α} {state : State}
    (withstands : dialogue.Withstands service passing holds state) :
    holds (dialogue.serve service state).1 (dialogue.serve service state).2 := by
  induction dialogue generalizing state with
  | done value => exact withstands
  | ask request next ih => exact ih _ (withstands state (.refl _ _)).2
  | askWithin limit request next ih => exact ih _ (withstands state (.refl _ _)).2
  | pause duration next ih => exact ih () (withstands state (.refl _ _))
  | clock next ih => exact ih 0 (withstands state (.refl _ _) 0)

/-- What follows an unaffected dialogue starts wherever the others have moved the state by then. -/
theorem Unaffected.withstands_bind {value : α} {last : β → State → Prop} {dialogue : Dialogue α}
    {follow : α → Dialogue β} {state : State} (first : dialogue.Unaffected service value)
    (second : ∀ found, Moves passing state found →
      (follow value).Withstands service passing last found) :
    (dialogue.bind follow).Withstands service passing last state := by
  induction dialogue generalizing state with
  | done found =>
      cases first
      exact second state (.refl _ _)
  | ask request next ih =>
      intro found moved
      obtain ⟨same, later⟩ := first found
      rw [same]
      exact ⟨.refl _ _, ih _ later fun after more => second after (moved.trans more)⟩
  | askWithin limit request next ih =>
      intro found moved
      obtain ⟨same, later⟩ := first found
      rw [same]
      exact ⟨.refl _ _, ih _ later fun after more => second after (moved.trans more)⟩
  | pause duration next ih =>
      exact fun found moved => ih () first fun after more => second after (moved.trans more)
  | clock next ih =>
      exact fun found moved time =>
        ih time (first time) fun after more => second after (moved.trans more)

theorem Unaffected.withstands {value : α} {dialogue : Dialogue α} {state : State}
    (unaffected : dialogue.Unaffected service value)
    (here : ∀ found, Moves passing state found → holds value found) :
    dialogue.Withstands service passing holds state := by
  rw [← bind_done dialogue]
  exact unaffected.withstands_bind here

/-! ## Dialogues that withstand each other -/

variable {n : Nat}

/-- Every dialogue withstands what has been done since its own last turn, and one of them was the
last to take a turn. -/
def Abreast (service : Service State) (passing : State → Prop) (holds : α → State → Prop)
    (pool : Pool n α) (state : State) : Prop :=
  (∀ number, ∃ known, Moves passing known state ∧
      (pool number).Withstands service passing holds known) ∧
    ∃ number, (pool number).Withstands service passing holds state

theorem Abreast.round {pool later : Pool n α} {state left : State}
    (abreast : Abreast service passing holds pool state)
    (round : Round service pool state later left) : Abreast service passing holds later left := by
  cases round with
  | turn number turn =>
      obtain ⟨known, since, withstands⟩ := abreast.1 number
      obtain ⟨moved, onward⟩ := withstands.turn since turn
      refine ⟨fun other => ?_, number, by rw [Function.update_self]; exact onward⟩
      by_cases same : other = number
      · subst same
        rw [Function.update_self]
        exact ⟨left, .refl _ _, onward⟩
      · rw [Function.update_of_ne same]
        obtain ⟨earlier, between, stands⟩ := abreast.1 other
        exact ⟨earlier, between.trans moved, stands⟩

/-- **Dialogues that withstand each other end with what has held at that moment, and one of them
with what holds in the end.** -/
theorem concludes_of_withstands {pool : Pool n α} {state : State} (some : 0 < n)
    (withstands : ∀ number, (pool number).Withstands service passing holds state) :
    Concludes service
      (fun values left => (∀ number, ∃ found, holds (values number) found) ∧
        ∃ number, holds (values number) left) pool state := by
  have start : Abreast service passing holds pool state :=
    ⟨fun number => ⟨state, .refl _ _, withstands number⟩, ⟨0, some⟩, withstands _⟩
  refine (concludes_of_kept Abreast.round start).mono fun values left abreast => ?_
  exact ⟨fun number => (abreast.1 number).imp fun _ found => found.2, abreast.2⟩

/-! ## Dialogues that change the state in their last turn -/

/-- No turn changes the state except a last one, and then the dialogue ends with a good value. -/
def Culminates (service : Service State) (good : α → Prop) : Dialogue α → Prop
  | .done _ => True
  | .ask request next => ∀ state,
      ((service request state).2 = state ∧
          (next (service request state).1).Culminates service good) ∨
        ∃ value, next (service request state).1 = .done value ∧ good value
  | .askWithin _ request next => ∀ state,
      ((service request state).2 = state ∧
          (next (some (service request state).1)).Culminates service good) ∨
        ∃ value, next (some (service request state).1) = .done value ∧ good value
  | .pause _ next => (next ()).Culminates service good
  | .clock next => ∀ time, (next time).Culminates service good

variable {good : α → Prop}

theorem Culminates.turn {dialogue later : Dialogue α} {state left : State}
    (culminates : dialogue.Culminates service good)
    (turn : Turn service dialogue state later left) :
    (left = state ∧ later.Culminates service good) ∨ ∃ value, later = .done value ∧ good value := by
  cases turn with
  | ask => exact culminates state
  | askWithin => exact culminates state
  | pause => exact .inl ⟨rfl, culminates⟩
  | clock time => exact .inl ⟨rfl, culminates time⟩

theorem Culminates.bind_done {fine : β → Prop} {view : α → β} {dialogue : Dialogue α}
    (culminates : dialogue.Culminates service good)
    (kept : ∀ value, good value → fine (view value)) :
    (dialogue.bind fun value => .done (view value)).Culminates service fine := by
  have ended : ∀ later : Dialogue α, (∃ value, later = .done value ∧ good value) →
      ∃ value, later.bind (fun value => .done (view value)) = .done value ∧ fine value := by
    rintro later ⟨value, rfl, fits⟩
    exact ⟨view value, rfl, kept value fits⟩
  induction dialogue with
  | done value => exact trivial
  | ask request next ih =>
      exact fun state => (culminates state).imp (fun here => here.imp_right (ih _)) (ended _)
  | askWithin limit request next ih =>
      exact fun state => (culminates state).imp (fun here => here.imp_right (ih _)) (ended _)
  | pause duration next ih => exact ih () culminates
  | clock next ih => exact fun time => ih time (culminates time)

theorem Unaffected.culminates_bind {fine : β → Prop} {value : α} {dialogue : Dialogue α}
    {follow : α → Dialogue β} (first : dialogue.Unaffected service value)
    (second : (follow value).Culminates service fine) :
    (dialogue.bind follow).Culminates service fine := by
  induction dialogue with
  | done found =>
      cases first
      exact second
  | ask request next ih => exact fun state => .inl ((first state).imp_right (ih _))
  | askWithin limit request next ih => exact fun state => .inl ((first state).imp_right (ih _))
  | pause duration next ih => exact ih () first
  | clock next ih => exact fun time => ih time (first time)

/-- Nothing has been changed yet, or one of the dialogues has ended well. -/
def Credited (service : Service State) (good : α → Prop) (initial : State) (pool : Pool n α)
    (state : State) : Prop :=
  (∀ number, (pool number).Culminates service good) ∧
    (state = initial ∨ ∃ number value, pool number = .done value ∧ good value)

theorem Credited.round {initial state left : State} {pool later : Pool n α}
    (credited : Credited service good initial pool state)
    (round : Round service pool state later left) :
    Credited service good initial later left := by
  obtain ⟨all, changed⟩ := credited
  cases round with
  | turn number turn =>
      rename_i dialogue
      have onward : dialogue.Culminates service good := by
        rcases (all number).turn turn with ⟨-, further⟩ | ⟨value, rfl, -⟩
        · exact further
        · exact trivial
      refine ⟨fun other => ?_, ?_⟩
      · by_cases same : other = number
        · subst same
          rw [Function.update_self]
          exact onward
        · rw [Function.update_of_ne same]
          exact all other
      · rcases (all number).turn turn with ⟨rfl, -⟩ | ⟨value, rfl, fits⟩
        · refine changed.imp_right ?_
          -- Who has ended well takes no more turns.
          rintro ⟨other, value, ended, fits⟩
          have same : other ≠ number := by
            rintro rfl
            rw [ended] at turn
            cases turn
          exact ⟨other, value, by rw [Function.update_of_ne same]; exact ended, fits⟩
        · exact .inr ⟨number, value, by rw [Function.update_self], fits⟩

/-- **If dialogues that withstand each other change the state in their last turns only, one of them
has ended well as soon as the state has changed.** -/
theorem concludes_of_culminates {pool : Pool n α} {state : State} (some : 0 < n)
    (withstands : ∀ number, (pool number).Withstands service passing holds state)
    (culminates : ∀ number, (pool number).Culminates service good) :
    Concludes service
      (fun values left => (∀ number, ∃ found, holds (values number) found) ∧
        (∃ number, holds (values number) left) ∧
          (left = state ∨ ∃ number, good (values number))) pool state := by
  have start : Abreast service passing holds pool state ∧ Credited service good state pool state :=
    ⟨⟨fun number => ⟨state, .refl _ _, withstands number⟩, ⟨0, some⟩, withstands _⟩,
      culminates, .inl rfl⟩
  have keeps : ∀ {pool : Pool n α} {before : State} {later : Pool n α} {left : State},
      Abreast service passing holds pool before ∧ Credited service good state pool before →
        Round service pool before later left →
          Abreast service passing holds later left ∧ Credited service good state later left :=
    fun both round => ⟨both.1.round round, both.2.round round⟩
  refine (concludes_of_kept keeps start).mono ?_
  rintro values left ⟨⟨each, last⟩, -, changed⟩
  refine ⟨fun number => (each number).imp fun _ found => found.2, last, changed.imp_right ?_⟩
  rintro ⟨number, value, ended, fits⟩
  cases ended
  exact ⟨number, fits⟩

/-! ## Dialogues that others do not disturb -/

/-- Wherever others like it come in between, the dialogue ends with one and the same value and
leaves one and the same state. The dialogue may also start after others. -/
def Undisturbed (service : Service State) (dialogue : Dialogue α) (state : State) : Prop :=
  ∃ passing value left, ∀ found, Moves passing state found →
    dialogue.Withstands service passing (fun other after => other = value ∧ after = left) found

theorem undisturbed_of_unaffected {value : α} {dialogue : Dialogue α} {state : State}
    (unaffected : dialogue.Unaffected service value) : Undisturbed service dialogue state := by
  refine ⟨fun _ => False, value, state, fun found moved => unaffected.withstands ?_⟩
  exact fun after more => ⟨rfl, (moved.trans more).still⟩

theorem undisturbed_bind_of_unaffected {value : α} {dialogue : Dialogue α}
    {follow : α → Dialogue β} {state : State} (first : dialogue.Unaffected service value)
    (second : Undisturbed service (follow value) state) :
    Undisturbed service (dialogue.bind follow) state := by
  obtain ⟨passing, other, left, withstands⟩ := second
  refine ⟨passing, other, left, fun found moved => first.withstands_bind ?_⟩
  exact fun after more => withstands after (moved.trans more)

theorem undisturbed_bind_done {view : α → β} {dialogue : Dialogue α} {state : State}
    (undisturbed : Undisturbed service dialogue state) :
    Undisturbed service (dialogue.bind fun value => .done (view value)) state := by
  obtain ⟨passing, value, left, withstands⟩ := undisturbed
  refine ⟨passing, view value, left, fun found moved => (withstands found moved).bind ?_⟩
  rintro other after ⟨rfl, rfl⟩
  exact ⟨rfl, rfl⟩

/-- **Several runs of an undisturbed dialogue side by side all end as a single one on its own, and
together they leave what that one leaves.** -/
theorem concludes_of_undisturbed {dialogue : Dialogue α} {state : State} (some : 0 < n)
    (undisturbed : Undisturbed service dialogue state) :
    Concludes service
      (fun values left => (∀ number, values number = (dialogue.serve service state).1) ∧
        left = (dialogue.serve service state).2)
      (fun _ : Fin n => dialogue) state := by
  obtain ⟨passing, value, left, withstands⟩ := undisturbed
  have each := withstands state (.refl _ _)
  obtain ⟨same, leaves⟩ := each.serve
  rw [same, leaves]
  refine (concludes_of_withstands some fun _ => each).mono ?_
  rintro values after ⟨all, -, -, last⟩
  exact ⟨fun number => (all number).choose_spec.1, last⟩

end Dialogue

namespace Flow

variable {service : Service State}

/-- The flow withstands what others do in between. -/
def Withstands (service : Service State) (passing : State → Prop)
    (holds : Outcome α → State → Prop) (flow : Flow α) (state : State) : Prop :=
  Dialogue.Withstands service passing holds flow.run state

/-- Others like it do not disturb the flow. -/
def Undisturbed (service : Service State) (flow : Flow α) (state : State) : Prop :=
  Dialogue.Undisturbed service flow.run state

variable {flow : Flow α} {follow : α → Flow β} {state : State}

theorem run_bind_pure (flow : Flow α) (view : α → β) :
    (flow >>= fun value => pure (view value)).run =
      flow.run.bind fun outcome => .done (view <$> outcome) := by
  rw [run_bind]
  congr 1
  funext outcome
  cases outcome <;> rfl

/-! ## Flows that withstand others -/

/-- A second part may start wherever the first one can succeed. -/
theorem withstands_bind {passing : State → Prop} {middle : Outcome α → State → Prop}
    {last : Outcome β → State → Prop} (first : Withstands service passing middle flow state)
    (failed : ∀ failure found, middle (.error failure) found → last (.error failure) found)
    (second : ∀ value found, middle (.ok value) found →
      Withstands service passing last (follow value) found) :
    Withstands service passing last (flow >>= follow) state := by
  unfold Withstands at first ⊢
  rw [run_bind]
  refine first.bind fun outcome found here => ?_
  cases outcome with
  | error failure => exact failed failure found here
  | ok value => exact second value found here

theorem withstands_bind_of_unaffected {passing : State → Prop} {last : Outcome β → State → Prop}
    {value : α} (first : Unaffected service flow (.ok value))
    (second : ∀ found, Moves passing state found →
      Withstands service passing last (follow value) found) :
    Withstands service passing last (flow >>= follow) state := by
  unfold Withstands
  rw [run_bind]
  exact first.withstands_bind second

/-! ## Flows that others do not disturb -/

theorem undisturbed_of_unaffected {outcome : Outcome α}
    (unaffected : Unaffected service flow outcome) : Undisturbed service flow state :=
  Dialogue.undisturbed_of_unaffected unaffected

/-- What only looks up what never changes does not stand in the way. -/
theorem undisturbed_bind_of_unaffected {found : Outcome α} (first : Unaffected service flow found)
    (second : ∀ value, found = .ok value → Undisturbed service (follow value) state) :
    Undisturbed service (flow >>= follow) state := by
  cases found with
  | error failure => exact undisturbed_of_unaffected (unaffected_bind_error first)
  | ok value =>
      unfold Undisturbed
      rw [run_bind]
      exact Dialogue.undisturbed_bind_of_unaffected first (second value rfl)

/-- What a flow does with its value in the end does not stand in the way either. -/
theorem undisturbed_bind_pure {view : α → β} (undisturbed : Undisturbed service flow state) :
    Undisturbed service (flow >>= fun value => pure (view value)) state := by
  unfold Undisturbed
  rw [run_bind_pure]
  exact Dialogue.undisturbed_bind_done undisturbed

/-! ## Flows that change the state in their last turn -/

/-- No turn of the flow changes the state except a last one, and then the flow succeeds. -/
def Culminates (service : Service State) (flow : Flow α) : Prop :=
  Dialogue.Culminates service (fun outcome => ∃ value, outcome = .ok value) flow.run

theorem culminates_ofOutcome (outcome : Outcome α) : Culminates service (ofOutcome outcome) :=
  trivial

theorem culminates_bind_of_unaffected {found : Outcome α} (first : Unaffected service flow found)
    (second : ∀ value, found = .ok value → Culminates service (follow value)) :
    Culminates service (flow >>= follow) := by
  unfold Culminates
  rw [run_bind]
  refine first.culminates_bind ?_
  cases found with
  | error failure => exact trivial
  | ok value => exact second value rfl

theorem culminates_bind_pure {view : α → β} (culminates : Culminates service flow) :
    Culminates service (flow >>= fun value => pure (view value)) := by
  unfold Culminates
  rw [run_bind_pure]
  refine culminates.bind_done ?_
  rintro outcome ⟨value, rfl⟩
  exact ⟨view value, rfl⟩

end Flow

end Provision
