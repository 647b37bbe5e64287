import Provision.Acl.Lifecycle
import Provision.Connectivity.Lifecycle
import Provision.Lifecycle.ResourceKind
import Provision.Namespace.Lifecycle
import Provision.Topic.Lifecycle

/-!
# The controller

Events go to the handler of their kind of resource.  A transient failure of a handler is not a
failure for the caller: the event stays pending, and a check keeps the checkpoint it was given and
notes the failure.  Every other failure goes back unchanged.
-/

set_option autoImplicit false

namespace Provision.Engine

open Lifecycle (Answer Check Continuation Event Handler ResourceKind)

/-- The handler of a kind of resource. -/
def handlerOf (settings : Settings.Engine) : ResourceKind → Handler
  | .acl => Acl.handler (.ofSettings settings)
  | .topic => Topic.handler (.ofSettings settings) settings.leaders
  | .connectivityUpdate => Connectivity.handler settings.connectivity
  | .warehouseNamespace => Namespace.handler settings.namespaces

/-- The handler of an event. -/
def route (settings : Settings.Engine) (event : Event) : Outcome Handler :=
  handlerOf settings <$> ResourceKind.ofName event.resourceType

/-- The identifier of an event's resource. -/
def physicalId (settings : Settings.Engine) (event : Event) : Outcome String := do
  let handler ← route settings event
  handler.physicalId event

/-- The answer to an event. -/
def respond (settings : Settings.Engine) (event : Event) : Flow Answer := do
  let handler ← Flow.ofOutcome (route settings event)
  match ← ExceptT.lift (handler.respond event).run with
  | .ok answer => pure answer
  | .error failure =>
      if failure.isTransient then
        let id ← Flow.ofOutcome (handler.physicalId event)
        pure (Answer.pending id [])
      else throw failure

/-- The check of a pending event. -/
def check (settings : Settings.Engine) (continuation : Continuation) : Flow Check := do
  let handler ← Flow.ofOutcome (route settings continuation.event)
  match ← ExceptT.lift (handler.check continuation).run with
  | .ok result => pure result
  | .error failure =>
      if failure.isTransient then
        pure
          { isComplete := false
            data := []
            checkpoint := continuation.checkpoint
            lastError := some failure.display }
      else throw failure

end Provision.Engine
