import Provision.Service.Operation

/-!
# Members of documents

What is read of a document at a name depends on the member of that name alone. A partial change
sets the members that it has and leaves the others (`Properties.amended`), so that what is read
afterwards comes from the change where it has a member, and from the document where it has none
(`Properties.get?_amended`).
-/

set_option autoImplicit false

namespace Provision

namespace Properties

variable (members change : Properties) (key : String)

theorem get?_append : get? (members ++ change) key = (members.get? key).or (change.get? key) := by
  unfold get?
  rw [List.find?_append, Option.map_or]

theorem get?_single (name : String) (value : Json) :
    get? [(name, value)] key = if name = key then some value else none := by
  by_cases same : name = key
  · simp [get?, same]
  · simp [get?, same]

/-- The members after a partial change: those that it has are set, and the others stay. -/
def amended : Properties :=
  change.foldr (fun member held => held.insert member.1 member.2) members

/-- **A change decides about the members that it has, and about no others.** -/
theorem get?_amended :
    (members.amended change).get? key = (change.get? key).or (members.get? key) := by
  induction change with
  | nil => rfl
  | cons member rest ih =>
      have first : members.amended (member :: rest) =
          (members.amended rest).insert member.1 member.2 := rfl
      have whole : get? (member :: rest) key = (get? [member] key).or (get? rest key) :=
        get?_append [member] rest key
      rw [first, get?_insert, ih, whole, get?_single]
      split
      · rfl
      · rfl

end Properties

namespace Service.Document

variable {first second members change : Properties} {name : String}

theorem text?_congr (same : first.get? name = second.get? name) :
    text? [name] (.object first) = text? [name] (.object second) := by
  unfold text? follow?
  rw [same]

theorem text?_of_get? {value : String} (given : members.get? name = some (.text value)) :
    text? [name] (.object members) = some (some value) := by
  unfold text? follow?
  rw [given]
  rfl

theorem texts?_of_get? {values : List String}
    (given : members.get? name = some (.list (values.map Json.text))) :
    texts? [name] (.object members) = some values := by
  unfold texts? follow?
  rw [given]
  show (values.map Json.text).mapM _ = some values
  clear given
  induction values with
  | nil => rfl
  | cons value rest ih =>
      rw [List.map_cons, List.mapM_cons, ih]
      rfl

/-- A text that the change says nothing of stays as it is. -/
theorem text?_unamended (silent : change.get? name = none) :
    text? [name] (.object (members.amended change)) = text? [name] (.object members) := by
  apply text?_congr
  rw [Properties.get?_amended, silent]
  rfl

/-- A text that the change may give is read from the change if it does. -/
theorem text?_amended {given old : Option String}
    (gives : change.get? name = given.map Json.text)
    (held : text? [name] (.object members) = some old) :
    text? [name] (.object (members.amended change)) = some (given.or old) := by
  cases given with
  | none =>
      rw [text?_unamended gives]
      exact held
  | some value =>
      apply text?_of_get?
      rw [Properties.get?_amended, gives]
      rfl

/-- Texts that the change gives are read from the change. -/
theorem texts?_amended {values : List String}
    (gives : change.get? name = some (.list (values.map Json.text))) :
    texts? [name] (.object (members.amended change)) = some values := by
  apply texts?_of_get?
  rw [Properties.get?_amended, gives]
  rfl

end Service.Document

end Provision
