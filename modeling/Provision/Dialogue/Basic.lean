import Provision.Dialogue.Request

/-!
# Dialogues

A dialogue is what the engine does between an event and its answer: it asks services, waits and
looks at the clock, and decides from what it is told.  It is data, so it can be run against
scripted services on a clock of their own, and it can be reasoned about for every sequence of
replies.  `bind_assoc` and its companions say that dialogues form a monad.
-/

set_option autoImplicit false

namespace Provision

open Dialogue (Request AdminCall ConnectOptions)

/-- A dialogue that ends with a value.  Times are whole milliseconds. -/
inductive Dialogue (α : Type) where
  | done (value : α)
  /-- Asks and waits for the reply as long as it takes. -/
  | ask (request : Request) (next : request.Reply → Dialogue α)
  /-- Asks and waits for the reply at most the given time; a reply at its very end counts. -/
  | askWithin (limit : Nat) (request : Request) (next : Option request.Reply → Dialogue α)
  /-- Waits. -/
  | pause (duration : Nat) (next : Unit → Dialogue α)
  /-- Looks at the clock. -/
  | clock (next : Nat → Dialogue α)

namespace Dialogue

variable {α β γ : Type}

/-- Goes on with what follows from the value of a dialogue. -/
def bind : Dialogue α → (α → Dialogue β) → Dialogue β
  | .done value, follow => follow value
  | .ask request next, follow => .ask request fun reply => (next reply).bind follow
  | .askWithin limit request next, follow =>
      .askWithin limit request fun reply => (next reply).bind follow
  | .pause duration next, follow => .pause duration fun _ => (next ()).bind follow
  | .clock next, follow => .clock fun time => (next time).bind follow

instance : Monad Dialogue where
  pure := .done
  bind := bind

theorem bind_done (dialogue : Dialogue α) : dialogue.bind .done = dialogue := by
  induction dialogue with
  | done value => rfl
  | ask request next ih => simp only [bind, ih]
  | askWithin limit request next ih => simp only [bind, ih]
  | pause duration next ih => simp only [bind, ih]
  | clock next ih => simp only [bind, ih]

theorem bind_assoc (dialogue : Dialogue α) (follow : α → Dialogue β) (last : β → Dialogue γ) :
    (dialogue.bind follow).bind last = dialogue.bind fun value => (follow value).bind last := by
  induction dialogue with
  | done value => rfl
  | ask request next ih => simp only [bind, ih]
  | askWithin limit request next ih => simp only [bind, ih]
  | pause duration next ih => simp only [bind, ih]
  | clock next ih => simp only [bind, ih]

/-- The time on the clock. -/
def now : Dialogue Nat := .clock .done

/-- Waits for the given time. -/
def sleep (duration : Nat) : Dialogue Unit := .pause duration .done

end Dialogue

/-- A dialogue that may fail. -/
abbrev Flow (α : Type) := ExceptT Failure Dialogue α

namespace Flow

/-- A result that is already known. -/
def ofOutcome {α : Type} (outcome : Outcome α) : Flow α := ExceptT.mk (.done outcome)

/-- Asks the control plane for a cluster. -/
def describeCluster (cluster : Cluster.Reference) : Flow Cluster.Description :=
  ExceptT.mk (.ask (.describeCluster cluster) .done)

/-- Submits connectivity settings; the control plane names the operation. -/
def updateConnectivity (cluster : Cluster.Reference) (token : String)
    (settings : Cluster.Settings) : Flow String :=
  ExceptT.mk (.ask (.updateConnectivity cluster token settings) .done)

/-- Reads a secret. -/
def getSecret (name : String) : Flow Session.Secret :=
  ExceptT.mk (.ask (.getSecret name) .done)

/-- Reads a namespace. -/
def getNamespace (name : String) : Flow (Option Namespace.Description) :=
  ExceptT.mk (.ask (.getNamespace name) .done)

/-- Submits the creation of a namespace. -/
def createNamespace (spec : Namespace.Spec) : Flow Namespace.Description :=
  ExceptT.mk (.ask (.createNamespace spec) .done)

/-- Submits the change of a namespace. -/
def updateNamespace (spec : Namespace.Spec) : Flow Namespace.Description :=
  ExceptT.mk (.ask (.updateNamespace spec) .done)

/-- Submits the deletion of a namespace. -/
def deleteNamespace (name : String) : Flow Unit :=
  ExceptT.mk (.ask (.deleteNamespace name) .done)

end Flow

end Provision
