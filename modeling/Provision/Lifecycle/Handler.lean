import Provision.Dialogue.Basic
import Provision.Lifecycle.Continuation

/-!
# Handlers

What each kind of resource provides: the identifier of an event's resource, the answer to an
event, and the check of a pending answer.
-/

set_option autoImplicit false

namespace Provision.Lifecycle

/-- The handling of one kind of resource. -/
structure Handler where
  /-- The identifier of the resource, derived from the event alone. -/
  physicalId : Event → Outcome String
  respond : Event → Flow Answer
  check : Continuation → Flow Check

/-- A handler whose checks simply respond to the event again. -/
def Handler.repeating (physicalId : Event → Outcome String) (respond : Event → Flow Answer) :
    Handler :=
  { physicalId, respond
    check := fun continuation => Check.ofAnswer <$> respond continuation.event }

/-- The identifier that the event carries, or else the one derived from its declaration. -/
def Event.idOr (event : Event) (derived : Outcome String) : Outcome String :=
  match event.givenId? with
  | some id => .ok id
  | none => derived

end Provision.Lifecycle
