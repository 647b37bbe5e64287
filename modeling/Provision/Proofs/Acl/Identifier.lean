import Provision.Acl.Entry
import Provision.Proofs.Text.Separated

/-!
# What the identifier of an entry tells

The identifier of an entry is made of its content, with slashes between the fields. The terms have
no slashes in them, so they can be read off it. The name of the resource, the principal and the host
may have slashes, and then the identifier does not tell where one of them ends and the next begins:
it tells the three only as they stand together (`physicalId_eq_iff`). It belongs to one entry alone
as soon as it is known how many slashes the name and the principal have
(`identifiers_distinguish`).
-/

set_option autoImplicit false

namespace Provision.Acl

/-! ## Terms -/

/-- Different terms have different names, and there is no slash in any of them. -/
structure Plain {α : Type} (name : α → String) : Prop where
  distinct : ∀ term other, name term = name other → term = other
  slashless : ∀ term, (name term).toList.count '/' = 0

theorem plain_resourceType : Plain ResourceType.name where
  distinct := by intro term other; cases term <;> cases other <;> decide
  slashless := by intro term; cases term <;> decide

theorem plain_patternType : Plain PatternType.name where
  distinct := by intro term other; cases term <;> cases other <;> decide
  slashless := by intro term; cases term <;> decide

theorem plain_operation : Plain Operation.name where
  distinct := by intro term other; cases term <;> cases other <;> decide
  slashless := by intro term; cases term <;> decide

theorem plain_permission : Plain Permission.name where
  distinct := by intro term other; cases term <;> cases other <;> decide
  slashless := by intro term; cases term <;> decide

namespace Plain

variable {α : Type} {name : α → String} {term other : α} {rest remaining : List Char}

theorem toList_inj (plain : Plain name) : (name term).toList = (name other).toList ↔ term = other :=
  ⟨fun same => plain.distinct term other (String.toList_inj.mp same), fun same => by rw [same]⟩

/-- The term in front of a slash can be read off. -/
theorem cut (plain : Plain name) :
    (name term).toList ++ '/' :: rest = (name other).toList ++ '/' :: remaining ↔
      term = other ∧ rest = remaining := by
  have counts : (name term).toList.count '/' = (name other).toList.count '/' := by
    rw [plain.slashless, plain.slashless]
  rw [Text.append_separator_inj counts, plain.toList_inj]

end Plain

/-! ## Entries -/

namespace Entry

variable {first second : Entry}

/-- The name of the resource, the principal and the host, as they stand in the identifier. -/
def freeText (entry : Entry) : List Char :=
  entry.resourceName.toList ++ '/' :: (entry.principal.toList ++ '/' :: entry.host.toList)

theorem toList_physicalId (entry : Entry) :
    entry.physicalId.toList =
      "acl".toList ++ '/' :: (entry.resourceType.name.toList ++ '/' ::
        (entry.patternType.name.toList ++ '/' :: (entry.freeText ++ '/' ::
          (entry.operation.name.toList ++ '/' :: entry.permission.name.toList)))) := by
  simp [physicalId, freeText, Text.joined]

/-- **Two entries have one identifier when their terms are the same and the three other fields are
the same together.** -/
theorem physicalId_eq_iff (first second : Entry) :
    first.physicalId = second.physicalId ↔
      first.resourceType = second.resourceType ∧ first.patternType = second.patternType ∧
        first.freeText = second.freeText ∧ first.operation = second.operation ∧
          first.permission = second.permission := by
  -- Behind the free text stands one slash, whatever the terms there are.
  have after : ∀ entry : Entry,
      (entry.operation.name.toList ++ '/' :: entry.permission.name.toList).count '/' = 1 := by
    intro entry
    have operation := plain_operation.slashless entry.operation
    have permission := plain_permission.slashless entry.permission
    simp [operation, permission]
  rw [← String.toList_inj, toList_physicalId, toList_physicalId,
    List.append_cancel_left_eq, List.cons.injEq, eq_self, true_and,
    plain_resourceType.cut, plain_patternType.cut,
    Text.append_separator_inj_of_after ((after first).trans (after second).symm),
    plain_operation.cut, plain_permission.toList_inj]

/-- The fields that stand together are the same if their slashes are in the same fields. -/
theorem freeText_inj
    (names : first.resourceName.toList.count '/' = second.resourceName.toList.count '/')
    (principals : first.principal.toList.count '/' = second.principal.toList.count '/') :
    first.freeText = second.freeText ↔
      first.resourceName = second.resourceName ∧ first.principal = second.principal ∧
        first.host = second.host := by
  unfold freeText
  rw [Text.append_separator_inj names, Text.append_separator_inj principals, String.toList_inj,
    String.toList_inj, String.toList_inj]

/-- **An identifier belongs to one entry alone among those that have as many slashes in the name of
the resource, and as many in the principal.** -/
theorem identifiers_distinguish (first second : Entry) :
    first = second ↔
      first.physicalId = second.physicalId ∧
        first.resourceName.toList.count '/' = second.resourceName.toList.count '/' ∧
        first.principal.toList.count '/' = second.principal.toList.count '/' := by
  refine ⟨fun same => by subst same; exact ⟨rfl, rfl, rfl⟩, ?_⟩
  rintro ⟨same, names, principals⟩
  obtain ⟨resource, pattern, free, operation, permission⟩ :=
    (physicalId_eq_iff first second).mp same
  obtain ⟨named, principal, host⟩ := (freeText_inj names principals).mp free
  obtain ⟨_, _, _, _, _, _, _⟩ := first
  obtain ⟨_, _, _, _, _, _, _⟩ := second
  subst resource named pattern principal host operation permission
  rfl

/-- A group of consumers may be read by a principal. -/
def reading (group principal : String) : Entry :=
  { resourceType := .group
    resourceName := group
    patternType := .literal
    principal
    host := "*"
    operation := .read
    permission := .allow }

/-- **Two valid entries may have one identifier.** It cannot be told whether the middle part belongs
to the group or to the principal. -/
theorem identifier_shared :
    (reading "billing" "User:eu/User:app").validate = .ok () ∧
      (reading "billing/User:eu" "User:app").validate = .ok () ∧
      (reading "billing" "User:eu/User:app").physicalId =
        (reading "billing/User:eu" "User:app").physicalId ∧
      reading "billing" "User:eu/User:app" ≠ reading "billing/User:eu" "User:app" :=
  ⟨rfl, rfl, by decide, by decide⟩

end Entry

end Provision.Acl
