import Provision.Lifecycle.Handler
import Provision.Session.Handle

/-!
# The life of access control entries

Entries are only created and removed, so an update removes the old entry and then ensures the new
one.  The placeholder principal is replaced by the brokers' identity once a session is open.
-/

set_option autoImplicit false

namespace Provision.Acl

open Lifecycle (Answer Event Handler)
open Session (AclDeclaration Handle Opening openSession)

/-- The entry with the brokers' identity in place of the placeholder. -/
def resolve (handle : Handle) (entry : Entry) : Outcome Entry :=
  if entry.hasPlaceholder then entry.withPrincipal <$> handle.bootstrapPrincipal
  else .ok entry

/-- Creates an entry unless it is there. -/
def ensure (handle : Handle) (entry : Entry) : Flow Unit := do
  let existing ← handle.perform (.listAcls (.exact entry))
  if List.contains existing entry then pure ()
  else
    let _ ← handle.perform (.createAcl entry)

/-- Removes an entry, whatever its host and permission; nothing to remove is fine. -/
def remove (handle : Handle) (entry : Entry) : Flow Unit := do
  let _ ← handle.perform (.deleteAcls (.forRemoval entry))

/-- What an answer tells of an entry. -/
def output (entry : Entry) : Properties :=
  [("principal", .text entry.principal), ("resourceName", .text entry.resourceName)]

/-- The declaration of an event, checked. -/
def declaration (event : Event) : Outcome AclDeclaration := do
  let declared ← event.declared AclDeclaration.decode
  declared.validate
  pure declared

/-- Answers a creation. -/
def create (opening : Opening) (event : Event) (physicalId : String) : Flow Answer := do
  let declared ← Flow.ofOutcome (declaration event)
  let handle ← openSession opening declared.session
  let entry ← Flow.ofOutcome (resolve handle declared.entry)
  ensure handle entry
  pure (Answer.complete physicalId (output entry))

/-- Removes the entry declared before, unless it is the one declared now. -/
def removeOld (opening : Opening) (handle : Handle) (declared old : AclDeclaration)
    (entry : Entry) : Flow Unit := do
  if old.session.clusterArn == declared.session.clusterArn then
    let oldEntry ← Flow.ofOutcome (resolve handle old.entry)
    if oldEntry != entry then remove handle oldEntry
  else
    let oldHandle ← openSession opening old.session
    let oldEntry ← Flow.ofOutcome (resolve oldHandle old.entry)
    remove oldHandle oldEntry

/-- Answers an update. -/
def update (opening : Opening) (event : Event) (physicalId : String) : Flow Answer := do
  let declared ← Flow.ofOutcome (declaration event)
  let before ← Flow.ofOutcome (event.declaredBefore AclDeclaration.decode)
  let handle ← openSession opening declared.session
  let entry ← Flow.ofOutcome (resolve handle declared.entry)
  match before with
  | some old => removeOld opening handle declared old entry
  | none => pure ()
  ensure handle entry
  pure (Answer.complete physicalId (output entry))

/-- Answers a deletion; a declaration that is not valid cannot have created anything. -/
def delete (opening : Opening) (event : Event) (physicalId : String) : Flow Answer := do
  match declaration event with
  | .error _ => pure (Answer.complete physicalId [])
  | .ok declared =>
      let handle ← openSession opening declared.session
      let entry ← Flow.ofOutcome (resolve handle declared.entry)
      remove handle entry
      pure (Answer.complete physicalId [])

/-- The identifier of the declared entry. -/
def physicalId (event : Event) : Outcome String :=
  event.idOr do
    let declared ← event.declared AclDeclaration.decode
    pure declared.entry.physicalId

/-- Answers an event. -/
def respond (opening : Opening) (event : Event) : Flow Answer := do
  let id ← Flow.ofOutcome (physicalId event)
  match event.request with
  | .create => create opening event id
  | .update => update opening event id
  | .delete => delete opening event id

/-- The handling of access control entries. -/
def handler (opening : Opening) : Handler :=
  .repeating physicalId (respond opening)

end Provision.Acl
