import Provision.Number.Binary64

/-!
# JSON values

JSON values whose objects keep the order of their members, and property maps: member lists in
which every key occurs once.  `Properties.insert` replaces the value of a present key where it
stands and adds a new key at the end, so the order of a map is the order in which its keys first
appeared; `get?_insert` is its law.
-/

set_option autoImplicit false

namespace Provision

open Number (Binary64)

/-- A JSON value.  Whole numbers and floating point numbers are different values. -/
inductive Json where
  | null
  | bool (value : Bool)
  | whole (value : Int)
  | float (value : Binary64)
  | text (value : String)
  | list (items : List Json)
  | object (members : List (String × Json))
  deriving Inhabited

/-- Named values in the order in which the names first appeared, each name once. -/
abbrev Properties := List (String × Json)

namespace Properties

/-- The value of a key. -/
def get? (properties : Properties) (key : String) : Option Json :=
  (properties.find? fun member => member.1 == key).map Prod.snd

/-- Whether a key is present. -/
def contains (properties : Properties) (key : String) : Bool :=
  properties.any fun member => member.1 == key

/-- Gives a key a value: in its place if the key is present, else at the end. -/
def insert (properties : Properties) (key : String) (value : Json) : Properties :=
  match properties with
  | [] => [(key, value)]
  | (name, old) :: rest =>
      if name == key then (name, value) :: rest
      else (name, old) :: Properties.insert rest key value

/-- The map of a member list in which keys may repeat; the last value of a key counts. -/
def ofMembers (members : List (String × Json)) : Properties :=
  members.foldl (fun properties member => properties.insert member.1 member.2) []

theorem get?_insert (properties : Properties) (key other : String) (value : Json) :
    (properties.insert key value).get? other
      = if key = other then some value else properties.get? other := by
  induction properties with
  | nil => by_cases same : key = other <;> simp [insert, get?, same]
  | cons member rest ih =>
      obtain ⟨name, old⟩ := member
      by_cases here : name = key
      · subst here
        by_cases same : name = other <;> simp [insert, get?, same]
      · simp only [insert, beq_iff_eq, here, if_false]
        by_cases found : name = other
        · subst found
          simp [get?, Ne.symm here]
        · simpa [get?, found] using ih

end Properties

end Provision
