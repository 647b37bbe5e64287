import Provision.Lifecycle.Handler

/-!
# Identifiers of events

A creation carries no identifier of its own, so it is identified by what it declares
(`givenId?_of_create`). An event that has been given the identifier it was answered with keeps it
(`idOr_withId`).
-/

set_option autoImplicit false

namespace Provision.Lifecycle

namespace Event

variable {event : Event} {derived : Outcome String} {id : String}

/-- A creation carries no identifier for an existing resource. -/
theorem givenId?_of_create (asked : event.request = .create) : event.givenId? = none := by
  unfold givenId?
  rw [asked]
  cases event.physicalId with
  | none => rfl
  | some given =>
      show (if (given != "" && false) = true then some given else none) = none
      rw [Bool.and_false, if_neg Bool.false_ne_true]

theorem idOr_of_create (asked : event.request = .create) : event.idOr derived = derived := by
  unfold idOr
  rw [givenId?_of_create asked]

/-- The identifier that an event carries for an existing resource is not empty, and the event is no
creation. -/
theorem of_givenId?_eq_some (given : event.givenId? = some id) :
    (id != "" && event.request != .create) = true := by
  unfold givenId? at given
  cases carried : event.physicalId with
  | none =>
      rw [carried] at given
      cases given
  | some other =>
      rw [carried] at given
      obtain ⟨named, same⟩ := Option.ite_none_right_eq_some.mp given
      cases same
      exact named

/-- An event that has been given its identifier keeps it. -/
theorem idOr_withId (identified : event.idOr derived = .ok id) :
    Event.idOr { event with physicalId := some id } derived = .ok id := by
  by_cases named : (id != "" && event.request != .create) = true
  · simp only [idOr, givenId?, named, if_true]
  · -- A nameless resource can only have been identified by what is declared.
    have nothing : event.givenId? = none := by
      cases given : event.givenId? with
      | none => rfl
      | some other =>
          unfold idOr at identified
          rw [given] at identified
          cases identified
          exact absurd (of_givenId?_eq_some given) named
    unfold idOr at identified
    rw [nothing] at identified
    simp only [idOr, givenId?, named]
    exact identified

end Event

/-- The answer is finished and has the identifier. -/
def CompletesAs (id : String) (answer : Answer) : Prop :=
  ∃ data, answer = Answer.complete id data

end Provision.Lifecycle
