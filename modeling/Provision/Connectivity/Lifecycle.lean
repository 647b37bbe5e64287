import Provision.Connectivity.Checkpoint
import Provision.Lifecycle.Handler
import Provision.Number.Word
import Provision.Settings.Basic

/-!
# The life of a connectivity change

Each step describes the cluster once and submits the change at most once, only while the cluster
is active and with the version token just described.  A new token on an active cluster shows that
the submission has taken effect; a token that stays for too many polls shows that it was lost.
-/

set_option autoImplicit false

namespace Provision.Connectivity

open Lifecycle (Answer Check Continuation Event Handler)

/-- The failure of a cluster in a state it cannot leave. -/
def clusterFailed (cluster : Cluster.Reference) (state : Cluster.State) : Failure :=
  ⟨.permanentClusterFailure,
    "集群 " ++ cluster.name ++ " 处于 " ++ state.name ++ " 状态，无法更新连接性"⟩

/-- The step before any submission. -/
def submitWhenActive (cluster : Cluster.Reference) (desired : Cluster.Settings)
    (description : Cluster.Description) (seen : Checkpoint) : Flow Checkpoint := do
  if !description.state.isActive then pure { seen with phase := .checking }
  else if description.connectivity == some desired then pure { seen with phase := .stable }
  else
    let _ ← Flow.updateConnectivity cluster description.versionToken desired
    pure
      { seen with
        phase := .updateInProgress
        submittedToken := some description.versionToken
        submitted := true
        stalePolls := 0 }

/-- The step after a submission. -/
def watchSubmission (threshold : Nat) (cluster : Cluster.Reference) (desired : Cluster.Settings)
    (description : Cluster.Description) (seen : Checkpoint) : Flow Checkpoint := do
  if !description.state.isActive then
    pure { seen with phase := .updateInProgress, stalePolls := 0 }
  else if seen.submittedToken != some description.versionToken then
    pure { seen with phase := .stable }
  else
    let stale := Number.wrapped 32 (seen.stalePolls + 1)
    if threshold ≤ stale then
      let _ ← Flow.updateConnectivity cluster description.versionToken desired
      pure { seen with phase := .updateInProgress, stalePolls := 0 }
    else pure { seen with phase := .updateInProgress, stalePolls := stale }

/-- One step: describes the cluster, and submits the change if it is time. -/
def step (threshold : Nat) (target : Target) (checkpoint : Checkpoint) : Flow Checkpoint := do
  let cluster ← Flow.ofOutcome target.reference
  let description ← Flow.describeCluster cluster
  if description.state.isPermanentFailure then throw (clusterFailed cluster description.state)
  let seen := { checkpoint with observedToken := some description.versionToken }
  if seen.submitted then watchSubmission threshold cluster target.desired description seen
  else submitWhenActive cluster target.desired description seen

/-- What an answer tells of a finished change. -/
def output (target : Target) (checkpoint : Checkpoint) : Properties :=
  ("clusterArn", .text target.cluster)
    :: match checkpoint.observedToken with
      | some token => [("currentVersion", .text token)]
      | none => []

/-- The declared target, which must refer to a cluster. -/
def declaredTarget (event : Event) : Outcome Target := do
  let target ← event.declared Target.codec.decode
  let _ ← target.reference
  pure target

/-- The identifier of the change: the name of its cluster. -/
def physicalId (event : Event) : Outcome String :=
  event.idOr do
    let target ← declaredTarget event
    let cluster ← target.reference
    pure ("connectivity/" ++ cluster.name)

/-- Answers an event; a deletion changes nothing. -/
def respond (threshold : Nat) (event : Event) : Flow Answer := do
  if event.request == .delete then pure (Answer.complete (event.physicalId.getD "") [])
  else
    let id ← Flow.ofOutcome (physicalId event)
    let target ← Flow.ofOutcome (declaredTarget event)
    let reached ← step threshold target (Checkpoint.initial target)
    if reached.phase == .stable then pure (Answer.complete id (output target reached))
    else pure (Answer.pending id reached.toProperties)

/-- Checks a pending change with one more step. -/
def check (threshold : Nat) (continuation : Continuation) : Flow Check := do
  if continuation.event.request == .delete then pure (Check.complete [])
  else
    let target ← Flow.ofOutcome (declaredTarget continuation.event)
    let checkpoint ← Flow.ofOutcome (Checkpoint.ofProperties continuation.checkpoint target)
    let reached ← step threshold target checkpoint
    if reached.phase == .stable then pure (Check.complete (output target reached))
    else pure (Check.pending reached.toProperties)

/-- The handling of connectivity changes. -/
def handler (resubmission : Settings.Resubmission) : Handler :=
  { physicalId := physicalId
    respond := respond resubmission.afterStalePolls
    check := check resubmission.afterStalePolls }

end Provision.Connectivity
