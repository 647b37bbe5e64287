import Provision.Connectivity.Target
import Provision.Lifecycle.Event

/-!
# The checkpoint of a connectivity change

What the steps of a connectivity change remember between them: the phase, the version token last
seen, and the token with which the change was submitted.
-/

set_option autoImplicit false

namespace Provision.Connectivity

open Json (Codec Record)

/-- Where a change stands. -/
inductive Phase where
  | checking
  | updateInProgress
  | stable
  | failed
  deriving DecidableEq, Repr

namespace Phase

/-- The name of a phase. -/
def name : Phase → String
  | .checking => "CHECKING"
  | .updateInProgress => "UPDATE_IN_PROGRESS"
  | .stable => "STABLE"
  | .failed => "FAILED"

/-- The phases by name. -/
def known : List (String × Phase) :=
  [Phase.checking, .updateInProgress, .stable, .failed].map fun phase => (phase.name, phase)

/-- Phases by their names. -/
def codec : Codec Phase := Codec.variants known none name

end Phase

/-- What is remembered between steps. -/
structure Checkpoint where
  phase : Phase
  observedToken : Option String
  submittedToken : Option String
  submitted : Bool
  /-- Successive checks in which the cluster was active with the submitted token. -/
  stalePolls : Nat
  deriving DecidableEq, Repr

namespace Checkpoint

/-- The fields of a checkpoint. -/
def record : Record Checkpoint Checkpoint :=
  Checkpoint.mk
    <$> .required "phase" Phase.codec Checkpoint.phase
    <*> .optional "observedVersion" Codec.text Checkpoint.observedToken
    <*> .optional "submittedVersion" Codec.text Checkpoint.submittedToken
    <*> .defaulted "updateSubmitted" Codec.flag false Checkpoint.submitted
    <*> .defaulted "stalePolls" (Codec.unsigned 32) 0 Checkpoint.stalePolls

/-- Checkpoints as objects. -/
def codec : Codec Checkpoint := record.codec "ConnectivityCheckpoint"

/-- The checkpoint before the first step. -/
def initial (target : Target) : Checkpoint :=
  { phase := .checking
    observedToken := target.baselineToken
    submittedToken := none
    submitted := false
    stalePolls := 0 }

/-- Reads a checkpoint; an empty map stands for the initial one. -/
def ofProperties (properties : Properties) (target : Target) : Outcome Checkpoint :=
  if properties.isEmpty then .ok (initial target)
  else
    match codec.decode (.object properties) with
    | .ok checkpoint => .ok checkpoint
    | .error fault => .error (.validation ("连接性续传状态无效: " ++ fault.message))

/-- The checkpoint as a property map. -/
def toProperties (checkpoint : Checkpoint) : Properties :=
  record.members checkpoint

end Checkpoint

end Provision.Connectivity
