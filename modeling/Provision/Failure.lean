/-!
# Failures

Every failure is either transient, so that a later attempt may succeed, or terminal, so that its
message goes back to the caller and nothing is tried again.
-/

set_option autoImplicit false

namespace Provision

/-- What kind of failure it is. -/
inductive FailureKind where
  /-- Network trouble, a missing leader, a cluster that is not ready. -/
  | transient
  /-- The declared state contradicts what exists. -/
  | conflict
  /-- A certificate or key that is not well-formed. -/
  | format
  /-- A malformed reference or a missing property. -/
  | validation
  | permissionDenied
  /-- The cluster is in a state it cannot leave. -/
  | permanentClusterFailure
  /-- A bounded wait that ran out. -/
  | timeout
  | io
  | json
  deriving DecidableEq, Repr

namespace FailureKind

/-- All kinds. -/
def all : List FailureKind :=
  [.transient, .conflict, .format, .validation, .permissionDenied, .permanentClusterFailure,
    .timeout, .io, .json]

/-- The name of a kind. -/
def name : FailureKind → String
  | .transient => "Transient"
  | .conflict => "Conflict"
  | .format => "Format"
  | .validation => "Validation"
  | .permissionDenied => "PermissionDenied"
  | .permanentClusterFailure => "PermanentClusterFailure"
  | .timeout => "Timeout"
  | .io => "Io"
  | .json => "Json"

/-- What a message of the kind is introduced by. -/
def label : FailureKind → String
  | .transient => "瞬时错误"
  | .conflict => "资源冲突"
  | .format => "格式错误"
  | .validation => "校验错误"
  | .permissionDenied => "权限不足"
  | .permanentClusterFailure => "集群永久失败"
  | .timeout => "等待超时"
  | .io => "I/O 错误"
  | .json => "JSON 错误"

/-- The kind with a name. -/
def ofName? (name : String) : Option FailureKind :=
  all.find? fun kind => kind.name == name

end FailureKind

/-- A failure with its message. -/
structure Failure where
  kind : FailureKind
  message : String
  deriving DecidableEq, Repr

namespace Failure

/-- Whether a later attempt may succeed. -/
def isTransient (failure : Failure) : Bool :=
  failure.kind == .transient

/-- Whether the failure goes back to the caller. -/
def isTerminal (failure : Failure) : Bool :=
  !failure.isTransient

/-- The message with its kind in front. -/
def display (failure : Failure) : String :=
  failure.kind.label ++ ": " ++ failure.message

/-- A transient failure. -/
def transient (message : String) : Failure := ⟨.transient, message⟩

/-- A conflict. -/
def conflict (message : String) : Failure := ⟨.conflict, message⟩

/-- A failure of form. -/
def format (message : String) : Failure := ⟨.format, message⟩

/-- A failure of validation. -/
def validation (message : String) : Failure := ⟨.validation, message⟩

end Failure

/-- A result or a failure. -/
abbrev Outcome := Except Failure

end Provision
