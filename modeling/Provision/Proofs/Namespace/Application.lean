import Provision.Proofs.Namespace.Convergence
import Provision.Proofs.Service.Documents
import Provision.Service.Warehouse

/-!
# What a change makes of a namespace

A change is one request, and the warehouse carries it out by setting the members that the request
has (`Properties.amended`). A declaration that names no key asks for none, but its request says
nothing of the key, so that a namespace with a key keeps it; it is the same with the default role. A
change therefore makes a namespace as declared only if the declaration names a key and a default
role wherever the namespace has one (`matchesMutable_updated_iff`).

A run on such a namespace is over with the first read of it that finds it available after a change.
A run on any other namespace never completes, however often it sends the change (`updates_settle`).
-/

set_option autoImplicit false

namespace Provision.Namespace

open Engine (Run Standing)
open Lifecycle (Event ResourceKind)
open Service.Document (text? texts? text?_unamended text?_amended texts?_amended)
open Service.Warehouse (accessArguments description? kindOf named perform present
  updateNamespace)
open Time (Timestamp)

variable {spec : Spec} {current : Description} {document : Properties}

/-! ## The request -/

/-- The arguments of the request for a change to the declared values. -/
def updateArguments (spec : Spec) : Properties :=
  named spec.name ++ present "kmsKeyId" spec.kmsKeyId ++ accessArguments spec

/-- An operation sends its request and ends with the reply. -/
theorem perform_run {α : Type} (operation : Service.Operation) (body : Json)
    (decode : Json → Option α) :
    (perform operation body decode).run =
      .send ⟨"RedshiftServerless." ++ operation.name, body⟩ fun reply =>
        .done (match operation.result decode reply with
          | .ok value => Except.ok value
          | .error code => Except.error (operation.failure (kindOf code))) := by
  show Service.Exchange.send _ _ = _
  congr 1
  funext reply
  show Service.Exchange.bind (.done (Except.ok (operation.result decode reply))) _ = _
  cases operation.result decode reply with
  | ok value => rfl
  | error code => rfl

/-- **A change is one request**, whatever is replied. -/
theorem sent_updateNamespace (spec : Spec) (replies : List Service.Reply) :
    (updateNamespace spec).run.sent replies =
      [⟨"RedshiftServerless.UpdateNamespace", .object (updateArguments spec)⟩] := by
  unfold updateNamespace
  rw [perform_run]
  cases replies with
  | nil => rfl
  | cons reply rest => rfl

theorem get?_present (name key : String) (value : Option String) :
    Properties.get? (present name value) key =
      if name = key then value.map Json.text else none := by
  cases value with
  | none => exact (ite_self none).symm
  | some value => exact Properties.get?_single key name (.text value)

/-- What the request says of a member. -/
theorem get?_updateArguments (key : String) :
    (updateArguments spec).get? key =
      if "namespaceName" = key then some (.text spec.name)
      else if "kmsKeyId" = key then spec.kmsKeyId.map Json.text
      else if "iamRoles" = key then some (.list (spec.iamRoles.map Json.text))
      else if "defaultIamRoleArn" = key then spec.defaultIamRole.map Json.text
      else if "logExports" = key then some (.list (spec.logExports.map Json.text))
      else none := by
  unfold updateArguments named accessArguments
  simp only [Properties.get?_append, get?_present, Properties.get?_single]
  by_cases name : "namespaceName" = key
  · simp [← name]
  by_cases kms : "kmsKeyId" = key
  · simp [← kms]
  by_cases roles : "iamRoles" = key
  · simp [← roles]
  by_cases role : "defaultIamRoleArn" = key
  · simp [← role]
  · simp [name, kms, roles, role]

/-- The request says nothing of what is fixed at creation or given by the warehouse. -/
theorem get?_updateArguments_fixed {key : String}
    (fixed : key ∈ ["namespaceId", "namespaceArn", "status", "dbName", "adminUsername"]) :
    (updateArguments spec).get? key = none := by
  rw [get?_updateArguments]
  simp only [List.mem_cons, List.not_mem_nil, or_false] at fixed
  rcases fixed with rfl | rfl | rfl | rfl | rfl <;> rfl

/-! ## The namespace after a change -/

/-- A namespace after a change to the declared values. -/
def updated (spec : Spec) (current : Description) : Description :=
  { current with
    name := spec.name
    kmsKeyId := spec.kmsKeyId.or current.kmsKeyId
    iamRoles := spec.iamRoles
    defaultIamRole := spec.defaultIamRole.or current.defaultIamRole
    logExports := spec.logExports }

/-- **The warehouse describes the namespace so after it has carried out the request.** -/
theorem description?_amended (described : description? (.object document) = some current) :
    description? (.object (document.amended (updateArguments spec))) =
      some (updated spec current) := by
  unfold description? at described ⊢
  simp only [Option.bind_eq_bind, Option.bind_eq_some_iff, Option.some_inj] at described ⊢
  obtain ⟨name, names, id, ids, arn, arns, status, statuses, dbName, dbNames, admin, admins, key,
    keys, roles, -, role, defaults, logs, -, rfl⟩ := described
  have fixed : ∀ {member : String} {held : Option String},
      member ∈ ["namespaceId", "namespaceArn", "status", "dbName", "adminUsername"] →
        text? [member] (.object document) = some held →
        text? [member] (.object (document.amended (updateArguments spec))) = some held :=
    fun among kept => (text?_unamended (get?_updateArguments_fixed among)).trans kept
  have named : (updateArguments spec).get? "namespaceName" = (some spec.name).map Json.text :=
    get?_updateArguments _
  refine ⟨_, text?_amended named names, id, fixed (by decide) ids, arn, fixed (by decide) arns,
    status, fixed (by decide) statuses, dbName, fixed (by decide) dbNames,
    admin, fixed (by decide) admins, _, text?_amended (get?_updateArguments _) keys,
    _, texts?_amended (get?_updateArguments _), _, text?_amended (get?_updateArguments _) defaults,
    _, texts?_amended (get?_updateArguments _), rfl⟩

/-- What is described after a change is described after the same change once more. -/
theorem updated_updated (spec : Spec) (current : Description) :
    updated spec (updated spec current) = updated spec current := by
  have again : ∀ given held : Option String, given.or (given.or held) = given.or held := by
    intro given held
    cases given <;> rfl
  unfold updated
  simp only [again]

/-- The declaration names a key and a default role wherever the namespace has one. -/
structure Covers (spec : Spec) (current : Description) : Prop where
  key : spec.kmsKeyId = none → current.kmsKeyId = none
  role : spec.defaultIamRole = none → current.defaultIamRole = none

theorem eq_or_iff {given held : Option String} :
    given = given.or held ↔ (given = none → held = none) := by
  cases given with
  | none => simp [eq_comm]
  | some value => simp

/-- **A change makes the namespace as declared if the declaration covers it, and only then.** -/
theorem matchesMutable_updated_iff :
    spec.matchesMutable (updated spec current) = true ↔ Covers spec current := by
  unfold Spec.matchesMutable updated
  simp only [beq_self_eq_true, Bool.and_true, Bool.and_eq_true, beq_iff_eq, eq_or_iff]
  exact ⟨fun same => ⟨same.1, same.2⟩, fun covers => ⟨covers.key, covers.role⟩⟩

/-- A change leaves what is fixed at creation. -/
theorem usable_updated (usable : Usable spec current) : Usable spec (updated spec current) := by
  obtain ⟨available, agrees⟩ := usable
  refine ⟨available, ?_⟩
  unfold Spec.immutableConflict at agrees ⊢
  split at agrees
  · cases agrees
  · rename_i sameDatabase
    split at agrees
    · cases agrees
    · rename_i sameAdmin
      exact (if_neg sameDatabase).trans (if_neg sameAdmin)

/-- Whoever is as declared has been covered all along. -/
theorem Settled.covers (settled : Settled spec current) : Covers spec current := by
  have same := settled.2
  unfold Spec.matchesMutable at same
  simp only [Bool.and_eq_true, beq_iff_eq] at same
  obtain ⟨⟨⟨key, -⟩, role⟩, -⟩ := same
  exact ⟨fun none => key ▸ none, fun none => role ▸ none⟩

/-! ## A namespace that nobody else changes -/

/-- What an exchange makes of the document of a namespace that nobody else changes. A change may be
carried out without being acknowledged, and it keeps the namespace busy for a while. -/
inductive Served (spec : Spec) : Exchange → Properties → Properties → Prop where
  | found {document : Properties} {current : Description}
      (described : description? (.object document) = some current) :
      Served spec (read spec.name (.ok (some current))) document document
  | busy {document : Properties} {current : Description}
      (described : description? (.object document) = some current) :
      Served spec (read spec.name (.ok (some { current with status := .modifying }))) document
        document
  | unread {document : Properties} (failure : Failure) :
      Served spec (read spec.name (.error failure)) document document
  | carriedOut {document : Properties} (reply : Outcome Description) :
      Served spec (change spec reply) document (document.amended (updateArguments spec))
  | refused {document : Properties} (failure : Failure) :
      Served spec (change spec (.error failure)) document document

/-- What a history makes of the document. -/
inductive Serves (spec : Spec) : List Exchange → Properties → Properties → Prop where
  | nil (document : Properties) : Serves spec [] document document
  | cons {exchange : Exchange} {rest : List Exchange} {before between after : Properties}
      (first : Served spec exchange before between) (follows : Serves spec rest between after) :
      Serves spec (exchange :: rest) before after

/-- The document is that of the namespace, or that of the namespace after a change. -/
def Describes (spec : Spec) (current : Description) (document : Properties) : Prop :=
  description? (.object document) = some current ∨
    description? (.object document) = some (updated spec current)

variable {exchange : Exchange} {history log : List Exchange} {before after : Properties}

/-- A document that has been changed stays so. -/
theorem Served.keeps (served : Served spec exchange before after)
    (changed : description? (.object before) = some (updated spec current)) :
    description? (.object after) = some (updated spec current) := by
  cases served with
  | carriedOut reply =>
      have again : description? (.object (before.amended (updateArguments spec))) =
          some (updated spec (updated spec current)) := description?_amended changed
      rw [updated_updated] at again
      exact again
  | found | busy | unread | refused => exact changed

/-- One exchange leaves the document as it is, or changes it. -/
theorem Served.describes (served : Served spec exchange before after)
    (describes : Describes spec current before) : Describes spec current after := by
  rcases describes with described | changed
  · cases served with
    | carriedOut reply => exact .inr (description?_amended described)
    | found | busy | unread | refused => exact .inl described
  · exact .inr (served.keeps changed)

theorem Serves.keeps (serves : Serves spec history before after)
    (changed : description? (.object before) = some (updated spec current)) :
    description? (.object after) = some (updated spec current) := by
  induction serves with
  | nil => exact changed
  | cons first follows ih => exact ih (first.keeps changed)

theorem Serves.describes (serves : Serves spec history before after)
    (describes : Describes spec current before) : Describes spec current after := by
  induction serves with
  | nil => exact describes
  | cons first follows ih => exact ih (first.describes describes)

/-- A change that is acknowledged has been carried out. -/
theorem Served.changed_of_acknowledges (served : Served spec exchange before after)
    (describes : Describes spec current before) (accepted : exchange.acknowledges = true) :
    description? (.object after) = some (updated spec current) := by
  cases served with
  | carriedOut reply =>
      rcases describes with described | changed
      · exact description?_amended described
      · exact (Served.carriedOut reply).keeps changed
  | found | busy | unread | refused => cases accepted

theorem Serves.changed_of_acknowledged (serves : Serves spec history before after)
    (describes : Describes spec current before) (accepted : Acknowledged history) :
    description? (.object after) = some (updated spec current) := by
  induction serves with
  | nil => exact absurd accepted not_acknowledged_nil
  | cons first follows ih =>
      obtain ⟨exchange, member, acknowledges⟩ := accepted
      rcases List.mem_cons.mp member with rfl | later
      · exact follows.keeps (first.changed_of_acknowledges describes acknowledges)
      · exact ih (first.describes describes) ⟨exchange, later, acknowledges⟩

/-- A read that finds the namespace available finds what the document describes. -/
theorem Served.described_of_available {found : Description} {name : String}
    (served : Served spec (read name (.ok (some found))) before after)
    (available : found.status = .available) :
    description? (.object before) = some found := by
  cases served with
  | found described => exact described
  | busy described => cases available

/-! ## Steps -/

variable {threshold : Nat} {checkpoint : Properties} {outcome : Outcome Progress}
  {reply : Outcome (Option Description)} {calls : List Exchange}

/-- The only read of a step comes first. -/
theorem Taken.exists_log_eq (taken : Taken threshold spec checkpoint log outcome)
    (member : read spec.name reply ∈ log) : ∃ calls, log = read spec.name reply :: calls := by
  obtain ⟨first, calls, rfl, submits⟩ := taken.log_eq
  rcases List.mem_cons.mp member with same | later
  · cases same
    exact ⟨calls, rfl⟩
  · rcases submits with rfl | ⟨answer, rfl, -⟩ | ⟨answer, other, rfl, -⟩
    · cases later
    · cases List.mem_singleton.mp later
    · cases List.mem_singleton.mp later

/-- A step that finds the namespace as declared is over, and submits nothing. -/
theorem Taken.finished_of_settled
    (taken : Taken threshold spec checkpoint (read spec.name (.ok (some current)) :: calls) outcome)
    (settled : Settled spec current) :
    calls = [] ∧ outcome = .ok (.finished (output current)) := by
  refine ⟨?_, (taken.finished_iff _).mpr ⟨current, rfl, settled, rfl⟩⟩
  cases taken with
  | changed _ answer stale due => exact absurd settled stale.not_settled
  | _ => rfl

/-! ## Runs -/

section Runs

variable {settings : Settings.Engine} {event : Event} {startedAt : Timestamp} {standing : Standing}
  {earlier : List (List Exchange)} {id : String} {data : Properties}
  (kind : ResourceKind.ofName event.resourceType = .ok .warehouseNamespace)
  (changes : event.request ≠ .delete) (declared : declaration event = .ok spec)
  (named : event.request = .update → physicalId event = .ok spec.name)
  (run : Run settings event startedAt (earlier ++ [log]) standing)

include kind changes declared named run

/-- Once a covered namespace has been changed, its run completes with the next read that finds it
available. -/
theorem completed_of_changed {found : Description} (serves : Serves spec log before after)
    (changed : description? (.object before) = some (updated spec current))
    (usable : Usable spec current) (covers : Covers spec current)
    (member : read spec.name (.ok (some found)) ∈ log) (available : found.status = .available) :
    log = [read spec.name (.ok (some (updated spec current)))] ∧
      standing = .completed spec.name (output (updated spec current)) := by
  obtain ⟨checkpoint, outcome, -, taken, leads⟩ := run_last_taken kind changes declared named run
  obtain ⟨calls, rfl⟩ := taken.exists_log_eq member
  cases serves with
  | cons first follows =>
      have described := first.described_of_available available
      cases changed.symm.trans described
      have settled : Settled spec (updated spec current) :=
        ⟨usable_updated usable, matchesMutable_updated_iff.mpr covers⟩
      obtain ⟨rfl, finished⟩ := taken.finished_of_settled settled
      exact ⟨rfl, (leads.completed_iff _ _).mpr ⟨rfl, finished⟩⟩

/-- A run never completes on a namespace that the declaration does not cover. -/
theorem covers_of_completed (serves : Serves spec log before after)
    (describes : Describes spec current before) (completed : standing = .completed id data) :
    Covers spec current := by
  obtain ⟨checkpoint, outcome, -, taken, leads⟩ := run_last_taken kind changes declared named run
  obtain ⟨-, finished⟩ := (leads.completed_iff id data).mp completed
  obtain ⟨reply, calls, rfl, -⟩ := taken.log_eq
  obtain ⟨found, rfl, settled, -⟩ := (taken.finished_iff data).mp finished
  cases serves with
  | cons first follows =>
      have described := first.described_of_available settled.1.1
      -- A change makes no difference here: it leaves what the declaration does not name.
      rcases describes with same | changed
      · cases same.symm.trans described
        exact settled.covers
      · cases changed.symm.trans described
        exact matchesMutable_updated_iff.mp settled.2

end Runs

/-- **The request for a change makes a namespace as declared if and only if the declaration names a
key and a default role wherever the namespace has one. If it does, the run completes with the first
read that finds the namespace available after the change. If it does not, no run ever completes**,
however often it sends the same request. -/
theorem updates_settle (described : description? (.object document) = some current)
    (usable : Usable spec current) :
    (∀ replies, (updateNamespace spec).run.sent replies =
      [⟨"RedshiftServerless.UpdateNamespace", .object (updateArguments spec)⟩]) ∧
    description? (.object (document.amended (updateArguments spec))) =
      some (updated spec current) ∧
    Usable spec (updated spec current) ∧
    (spec.matchesMutable (updated spec current) = true ↔ Covers spec current) ∧
    ∀ (settings : Settings.Engine) (event : Event) (startedAt : Timestamp) (standing : Standing)
        (earlier : List (List Exchange)) (log : List Exchange) (before after : Properties),
      ResourceKind.ofName event.resourceType = .ok .warehouseNamespace →
      event.request ≠ .delete → declaration event = .ok spec →
      (event.request = .update → physicalId event = .ok spec.name) →
      Run settings event startedAt (earlier ++ [log]) standing →
      Serves spec earlier.flatten document before → Serves spec log before after →
      (Acknowledged earlier.flatten →
        description? (.object before) = some (updated spec current)) ∧
      (Covers spec current → description? (.object before) = some (updated spec current) →
        ∀ found, read spec.name (.ok (some found)) ∈ log → found.status = .available →
          log = [read spec.name (.ok (some (updated spec current)))] ∧
            standing = .completed spec.name (output (updated spec current))) ∧
      (¬ Covers spec current → ∀ id data, standing ≠ .completed id data) := by
  refine ⟨sent_updateNamespace spec, description?_amended described, usable_updated usable,
    matchesMutable_updated_iff, ?_⟩
  intro settings event startedAt standing earlier log before after kind changes declared named run
    history last
  refine ⟨history.changed_of_acknowledged (.inl described), ?_, ?_⟩
  · intro covers changed found member available
    exact completed_of_changed kind changes declared named run last changed usable covers member
      available
  · intro uncovered id data completed
    have describes := history.describes (.inl described)
    exact uncovered
      (covers_of_completed kind changes declared named run last describes completed)

/-! ## A namespace with and without a key -/

/-- The document of the namespace without log exports. -/
def salesDocument : Properties :=
  [("namespaceName", .text "sales"), ("namespaceId", .text "1"),
    ("namespaceArn", .text "arn:aws:redshift-serverless:eu-west-1:1:namespace/1"),
    ("status", .text "available"), ("dbName", .text "dev")]

theorem description?_salesDocument :
    description? (.object salesDocument) = some (sales .available []) := by
  decide +kernel

/-- The history is that of a warehouse which carries out the change. -/
theorem serves_awaited :
    Serves audited awaited.flatten salesDocument
      (salesDocument.amended (updateArguments audited)) := by
  have changed : description? (.object (salesDocument.amended (updateArguments audited))) =
      some (sales .available ["useractivitylog"]) :=
    description?_amended description?_salesDocument
  apply Serves.cons (.found description?_salesDocument)
  apply Serves.cons (.carriedOut (.ok (sales .modifying ["useractivitylog"])))
  apply Serves.cons (.unread (.transient "throttled"))
  apply Serves.cons (.busy changed)
  exact .nil _

/-- Nothing is left out of a declaration that the namespace has, and the run completes. -/
theorem updates_settle_arrived :
    Covers audited (sales .available []) ∧
      ∃ standing, Run {} auditing Rehearsal.beginning (awaited ++ [arrived]) standing ∧
        standing = .completed "sales" (output (updated audited (sales .available []))) := by
  have covers : Covers audited (sales .available []) := ⟨fun _ => rfl, fun _ => rfl⟩
  have usable : Usable audited (sales .available []) := ⟨rfl, by decide +kernel⟩
  obtain ⟨-, changed, -, -, runs⟩ := updates_settle description?_salesDocument usable
  obtain ⟨standing, run⟩ : ∃ standing,
      Run {} auditing Rehearsal.beginning (awaited ++ [arrived]) standing :=
    Engine.exists_run (by decide +kernel)
  have last : Serves audited arrived (salesDocument.amended (updateArguments audited))
      (salesDocument.amended (updateArguments audited)) := .cons (.found changed) (.nil _)
  have named : physicalId auditing = .ok audited.name := by decide +kernel
  obtain ⟨-, completes, -⟩ := runs _ _ _ _ _ _ _ _ (by decide +kernel) (by decide)
    (by decide +kernel) (fun _ => named) run serves_awaited last
  obtain ⟨-, completed⟩ := completes covers changed _ (.head _) rfl
  exact ⟨covers, standing, run, completed⟩

/-- The namespace has a key, of which the declaration says nothing. -/
def keyed (logExports : List String) : Description :=
  { sales .available logExports with kmsKeyId := some "key-1" }

/-- The document of that namespace. -/
def keyedDocument : Properties := salesDocument ++ [("kmsKeyId", .text "key-1")]

/-- The change is carried out, and the next read finds just what it has made of the namespace. -/
def keyedLogs : List (List Exchange) :=
  [[read "sales" (.ok (some (keyed []))), change audited (.ok (keyed ["useractivitylog"]))],
    [read "sales" (.ok (some (keyed ["useractivitylog"])))]]

/-- The change is carried out to the letter, and yet the namespace is not as declared: it still has
the key of which the declaration says nothing. The run does not complete. -/
theorem key_unsettled :
    description? (.object keyedDocument) = some (keyed []) ∧ Usable audited (keyed []) ∧
      description? (.object (keyedDocument.amended (updateArguments audited))) =
        some (keyed ["useractivitylog"]) ∧
      audited.matchesMutable (keyed ["useractivitylog"]) = false ∧
      ∃ standing, Run {} auditing Rehearsal.beginning keyedLogs standing ∧
        standing.isOpen = true := by
  refine ⟨by decide +kernel, ⟨rfl, by decide +kernel⟩, by decide +kernel, by decide +kernel, ?_⟩
  have goesOn : (Engine.replay {} auditing Rehearsal.beginning keyedLogs .unanswered).map
      Standing.isOpen = some true := by decide +kernel
  obtain ⟨standing, reached, isOpen⟩ := Option.map_eq_some_iff.mp goesOn
  exact ⟨standing, Run.start.replay reached, isOpen⟩

end Provision.Namespace
