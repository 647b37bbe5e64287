import Mathlib.Control.Monad.Basic
import Provision.Proofs.Acl.Recovery
import Provision.Proofs.Topic.Recovery
import Provision.Rehearsal.Stage

/-!
# Entries and topics after interrupted attempts

Attempts on an event may be cut short by lost replies, at every call and whether the call has been
carried out or not. An attempt that is not cut short then ends as a single attempt would have ended,
and leaves the brokers as that one would have left them (`attempts_alike`). This holds for whatever
the brokers held before.
-/

set_option autoImplicit false

namespace Provision.Session

open Dialogue (Request)
open Engine (Retries attempt)
open Lifecycle (Event Handler ResourceKind)
open Rehearsal.World (usualCluster usualSecret)

/-- The event is about an entry, or about a topic whose leaders are not waited for. -/
inductive Immediate (settings : Settings.Engine) (event : Event) : Prop where
  | acl (kind : ResourceKind.ofName event.resourceType = .ok .acl)
  | topic (kind : ResourceKind.ofName event.resourceType = .ok .topic)
      (patient : ∀ declared, Topic.declaration settings.leaders event.properties = .ok declared →
        declared.spec.waitForLeaders = false)

variable {replies : (request : Request) → request.Reply} {settings : Settings.Engine}
  {event : Event}

/-- The handler of such an event is repeatable. -/
theorem Immediate.exists_repeatable (immediate : Immediate settings event) :
    ∃ handler, Engine.route settings event = .ok handler ∧
      Engine.Repeatable (brokerService replies) handler event := by
  cases immediate with
  | acl kind =>
      exact ⟨_, Engine.route_of_ofName kind, Acl.repeatable (.ofSettings settings) event⟩
  | topic kind patient =>
      exact ⟨_, Engine.route_of_ofName kind,
        Topic.repeatable (.ofSettings settings) settings.leaders event patient⟩

/-- **After any interrupted attempts, an attempt that is not interrupted ends as a single attempt
from the start**, with the same identifier and data or with the same failure, **and leaves the same
brokers**. -/
theorem attempts_alike {startedAt : Time.Timestamp} {initial brokers : Brokers}
    {standing : Engine.Standing} (immediate : Immediate settings event)
    (retries : Retries (brokerService replies) settings event startedAt initial brokers standing) :
    ((attempt settings event startedAt standing).serve (brokerService replies) brokers).1.verdict =
        ((attempt settings event startedAt .unanswered).serve (brokerService replies)
          initial).1.verdict ∧
      ((attempt settings event startedAt standing).serve (brokerService replies) brokers).2 =
        ((attempt settings event startedAt .unanswered).serve (brokerService replies)
          initial).2 := by
  obtain ⟨handler, routed, repeatable⟩ := immediate.exists_repeatable
  exact retries.alike routed repeatable

/-! ## An update that is interrupted twice -/

/-- An entry that lets a principal read a topic. -/
def reader (principal : String) : Acl.Entry :=
  { resourceType := .topic, resourceName := "orders", patternType := .literal, principal
    host := "*", operation := .read, permission := .allow }

/-- The declaration of an entry that lets a principal read a topic. -/
def readerProperties (principal : String) : Provision.Properties :=
  [("clusterArn", .text "arn:aws:kafka:eu-west-1:1:cluster/streaming/7"),
    ("secretName", .text "client"), ("resourceType", .text "Topic"),
    ("resourceName", .text "orders"), ("resourcePatternType", .text "Literal"),
    ("principal", .text principal), ("operation", .text "Read"),
    ("permissionType", .text "Allow")]

/-- Another principal is to read the topic. -/
def handover : Event :=
  { request := .update
    resourceType := "Acl"
    properties := readerProperties "User:billing"
    oldProperties := some (readerProperties "User:shop")
    physicalId := some "reader" }

/-- The cluster of the declaration. -/
def streaming : Cluster.Reference :=
  ⟨"arn:aws:kafka:eu-west-1:1:cluster/streaming/7", "streaming"⟩

/-- Every cluster is there and can be reached, and nothing else is. -/
def reachable : (request : Request) → request.Reply
  | .describeCluster _ => .ok usualCluster
  | .getSecret _ => .ok usualSecret
  | .connect _ => .ok ()
  | .updateConnectivity _ _ _ => .error (.transient "")
  | .admin _ _ => .error ⟨.networkException, ""⟩
  | .getNamespace _ => .error (.transient "")
  | .createNamespace _ => .error (.transient "")
  | .updateNamespace _ => .error (.transient "")
  | .deleteNamespace _ => .error (.transient "")

/-- Every cluster holds the entry of the first principal. -/
def shopReads : Brokers := fun _ => ⟨[reader "User:shop"], []⟩

/-- The old entry is removed without a reply, and in the next attempt the new one does not arrive.
-/
def interruptions : List (List Dialogue.Fate) :=
  [[.served, .served, .served, .unanswered true],
    [.served, .served, .served, .served, .served, .unanswered false]]

/-- Nothing of the interrupted attempts is left in the end: the new entry alone is there. -/
theorem attempts_alike_handover :
    ∃ brokers standing,
      Retries (brokerService reachable) {} handover Rehearsal.beginning shopReads brokers standing ∧
      (brokers streaming).acls = [] ∧
      (((attempt {} handover Rehearsal.beginning standing).serve (brokerService reachable)
          brokers).1.verdict.map fun outcome => outcome.map Prod.fst) = some (.ok "reader") ∧
      (((attempt {} handover Rehearsal.beginning standing).serve (brokerService reachable)
          brokers).2 streaming).acls = [reader "User:billing"] := by
  have emptied : (Engine.retried (brokerService reachable) {} handover Rehearsal.beginning
      interruptions shopReads .unanswered).map (fun found => (found.1 streaming).acls) =
        some [] := by decide +kernel
  obtain ⟨⟨brokers, standing⟩, reached, nothing⟩ := Option.map_eq_some_iff.mp emptied
  obtain ⟨ends, leaves⟩ :=
    attempts_alike (.acl (by decide +kernel)) (Retries.start.retried reached)
  refine ⟨brokers, standing, Retries.start.retried reached, nothing, ?_⟩
  rw [ends, leaves]
  decide +kernel

end Provision.Session
