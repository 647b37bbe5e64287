import Provision.Failure
import Provision.Json.Record

/-!
# Lifecycle events

For every change in the life of a declared resource there is one event, and the answer to it.
-/

set_option autoImplicit false

namespace Provision.Lifecycle

open Json (Codec Record)

/-! ## Requests -/

/-- What is asked for. -/
inductive Request where
  | create
  | update
  | delete
  deriving DecidableEq, Repr

/-- The name of a request. -/
def Request.name : Request → String
  | .create => "Create"
  | .update => "Update"
  | .delete => "Delete"

/-- Requests by name. -/
def Request.codec : Codec Request :=
  Codec.variants [("Create", .create), ("Update", .update), ("Delete", .delete)] none Request.name

/-! ## Events -/

/-- An event.  A creation names no physical resource; later events carry the identifier that the
creation was answered with. -/
structure Event where
  request : Request
  resourceType : String
  properties : Properties
  oldProperties : Option Properties
  physicalId : Option String

namespace Event

/-- The fields of an event. -/
def record : Record Event Event :=
  Event.mk
    <$> .required "RequestType" Request.codec Event.request
    <*> .required "ResourceType" Codec.text Event.resourceType
    <*> .defaulted "ResourceProperties" Codec.properties [] Event.properties
    <*> .optional "OldResourceProperties" Codec.properties Event.oldProperties
    <*> .optional "PhysicalResourceId" Codec.text Event.physicalId

/-- Events as objects. -/
def codec : Codec Event := record.codec "LifecycleEvent"

/-- Decodes properties; what does not decode is not valid. -/
def decodeProperties {α : Type} (decode : Json → Except Json.DecodeFault α)
    (properties : Properties) : Outcome α :=
  match decode (.object properties) with
  | .ok value => .ok value
  | .error fault => .error (.validation ("资源属性无效: " ++ fault.message))

/-- The declared resource. -/
def declared {α : Type} (event : Event) (decode : Json → Except Json.DecodeFault α) :
    Outcome α :=
  decodeProperties decode event.properties

/-- The resource declared before, if the event tells. -/
def declaredBefore {α : Type} (event : Event) (decode : Json → Except Json.DecodeFault α) :
    Outcome (Option α) :=
  match event.oldProperties with
  | none => .ok none
  | some properties => some <$> decodeProperties decode properties

/-- The identifier that an update or deletion must carry. -/
def requirePhysicalId (event : Event) : Outcome String :=
  match event.physicalId with
  | some id =>
      if id == "" then
        .error (.validation (event.request.name ++ " 事件缺少 PhysicalResourceId"))
      else .ok id
  | none => .error (.validation (event.request.name ++ " 事件缺少 PhysicalResourceId"))

/-- The identifier that the event carries for an existing resource. -/
def givenId? (event : Event) : Option String :=
  match event.physicalId with
  | some id => if id != "" && event.request != .create then some id else none
  | none => none

end Event

/-! ## Answers -/

/-- The answer to an event: finished with data, or pending with a checkpoint. -/
structure Answer where
  physicalId : String
  data : Properties
  isComplete : Bool
  checkpoint : Properties

namespace Answer

/-- The fields of an answer. -/
def record : Record Answer Answer :=
  Answer.mk
    <$> .required "PhysicalResourceId" Codec.text Answer.physicalId
    <*> .defaulted "Data" Codec.properties [] Answer.data
    <*> .required "IsComplete" Codec.flag Answer.isComplete
    <*> .emptySkipped "Checkpoint" Answer.checkpoint

/-- Answers as objects. -/
def codec : Codec Answer := record.codec "ReconciliationResult"

/-- A finished answer. -/
def complete (physicalId : String) (data : Properties) : Answer :=
  { physicalId, data, isComplete := true, checkpoint := [] }

/-- An answer that is not finished. -/
def pending (physicalId : String) (checkpoint : Properties) : Answer :=
  { physicalId, data := [], isComplete := false, checkpoint }

end Answer

end Provision.Lifecycle
