import Provision.Lifecycle.Handler
import Provision.Settings.Basic

/-!
# The life of warehouse namespaces

The warehouse accepts changes and carries them out later, so each step reads the namespace once
and submits at most one change.  The checkpoint tells whether a change has been submitted, and how
often the old values were read since.
-/

set_option autoImplicit false

namespace Provision.Namespace

open Lifecycle (Answer Check Continuation Event Handler)

/-! ## Checkpoints -/

/-- The key under which a submission is noted. -/
def submittedKey : String := "submitted"

/-- The key under which reads of old values are counted. -/
def stalePollsKey : String := "stalePolls"

/-- Whether a change has been submitted. -/
def isSubmitted (checkpoint : Properties) : Bool :=
  match checkpoint.get? submittedKey with
  | some (.bool flag) => flag
  | _ => false

/-- How often old values were read since the submission. -/
def stalePolls (checkpoint : Properties) : Nat :=
  match checkpoint.get? stalePollsKey with
  | some (.whole (.ofNat count)) => count
  | _ => 0

/-- The checkpoint right after a submission. -/
def submittedCheckpoint : Properties := [(submittedKey, .bool true)]

/-! ## Steps -/

/-- How far a step has come. -/
inductive Progress where
  | finished (data : Properties)
  | pending (checkpoint : Properties)

/-- What an answer tells of a namespace. -/
def output (description : Description) : Properties :=
  [("namespaceId", .text description.id), ("namespaceArn", .text description.arn),
    ("namespaceName", .text description.name)]

/-- The step for an available namespace whose values are not the declared ones. -/
def submitChange (threshold : Nat) (spec : Spec) (checkpoint : Properties) : Flow Progress := do
  let stale := stalePolls checkpoint
  if isSubmitted checkpoint && decide (stale < threshold) then
    pure (.pending (checkpoint.insert stalePollsKey (.whole ((stale + 1 : Nat) : Int))))
  else
    let _ ← Flow.updateNamespace spec
    pure (.pending submittedCheckpoint)

/-- The step for a namespace that exists. -/
def settle (threshold : Nat) (spec : Spec) (current : Description) (checkpoint : Properties) :
    Flow Progress := do
  match spec.immutableConflict current with
  | some conflict => throw (.conflict conflict)
  | none =>
      match current.status with
      | .available =>
          if spec.matchesMutable current then pure (.finished (output current))
          else submitChange threshold spec checkpoint
      | .deleting => throw (.conflict ("命名空间 " ++ current.name ++ " 正在被删除"))
      | .modifying | .unknown => pure (.pending checkpoint)

/-- One step towards the declared namespace. -/
def converge (threshold : Nat) (spec : Spec) (checkpoint : Properties) : Flow Progress := do
  match ← Flow.getNamespace spec.name with
  | some current => settle threshold spec current checkpoint
  | none =>
      if isSubmitted checkpoint then pure (.pending checkpoint)
      else
        let _ ← Flow.createNamespace spec
        pure (.pending submittedCheckpoint)

/-- One step towards the absence of a namespace. -/
def remove (name : String) : Flow Progress := do
  match ← Flow.getNamespace name with
  | none => pure (.finished [])
  | some current =>
      if current.status == .deleting then pure (.pending submittedCheckpoint)
      else
        Flow.deleteNamespace name
        pure (.pending submittedCheckpoint)

/-! ## Answers to events -/

/-- The declared namespace, checked. -/
def declaration (event : Event) : Outcome Spec := do
  let spec ← event.declared Spec.codec.decode
  spec.validate
  pure spec

/-- The name of the declared namespace. -/
def physicalId (event : Event) : Outcome String :=
  event.idOr (Spec.name <$> declaration event)

/-- One step for an event. -/
def advance (threshold : Nat) (event : Event) (checkpoint : Properties) : Flow Progress := do
  let id ← Flow.ofOutcome (physicalId event)
  match event.request with
  | .create =>
      let spec ← Flow.ofOutcome (declaration event)
      converge threshold spec checkpoint
  | .update =>
      let spec ← Flow.ofOutcome (declaration event)
      if spec.name != id then
        throw (.conflict ("命名空间名称不可修改: " ++ id ++ " -> " ++ spec.name))
      converge threshold spec checkpoint
  | .delete => remove id

/-- Answers an event; a deletion that names nothing has nothing to delete. -/
def respond (threshold : Nat) (event : Event) : Flow Answer := do
  match physicalId event with
  | .error failure =>
      if event.request == .delete then pure (Answer.complete (event.physicalId.getD "") [])
      else throw failure
  | .ok id =>
      match ← advance threshold event [] with
      | .finished data => pure (Answer.complete id data)
      | .pending checkpoint => pure (Answer.pending id checkpoint)

/-- Checks a pending event with one more step. -/
def check (threshold : Nat) (continuation : Continuation) : Flow Check := do
  match ← advance threshold continuation.event continuation.checkpoint with
  | .finished data => pure (Check.complete data)
  | .pending checkpoint => pure (Check.pending checkpoint)

/-- The handling of namespaces. -/
def handler (resubmission : Settings.Resubmission) : Handler :=
  { physicalId := physicalId
    respond := respond resubmission.afterStalePolls
    check := check resubmission.afterStalePolls }

end Provision.Namespace
