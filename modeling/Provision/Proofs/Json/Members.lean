import Mathlib.Data.List.Induction
import Provision.Json.Basic

/-!
# Property maps made of members

In a map that is made of members whose keys may repeat, every key has the value that it was given
last (`get?_ofMembers`), nothing is in the map that has not been given (`mem_ofMembers`), and a key
can as well be left out before the map is made (`ofMembers_filter`).
-/

set_option autoImplicit false

namespace Provision.Properties

variable {properties members : Properties} {key name : String} {value : Json}
  {member : String × Json}

theorem mem_insert (inside : member ∈ properties.insert key value) :
    member ∈ properties ∨ member = (key, value) := by
  induction properties with
  | nil => exact .inr (List.mem_singleton.mp inside)
  | cons first rest ih =>
      rw [insert] at inside
      split at inside
      · rename_i same
        rcases List.mem_cons.mp inside with rfl | later
        · exact .inr (Prod.ext (beq_iff_eq.mp same) rfl)
        · exact .inl (List.mem_cons_of_mem first later)
      · rcases List.mem_cons.mp inside with rfl | later
        · exact .inl List.mem_cons_self
        · exact (ih later).imp_left (List.mem_cons_of_mem first)

theorem mem_of_get? (found : properties.get? key = some value) : (key, value) ∈ properties := by
  obtain ⟨⟨name, held⟩, inside, rfl⟩ := Option.map_eq_some_iff.mp found
  have named := List.find?_some inside
  have same : name = key := beq_iff_eq.mp named
  subst same
  exact List.mem_of_find?_eq_some inside

/-- A key that is left out after an insertion might have been left out before it. -/
theorem filter_insert :
    (properties.insert key value).filter (fun member => member.1 != name) =
      if key = name then properties.filter (fun member => member.1 != name)
      else insert (properties.filter fun member => member.1 != name) key value := by
  induction properties with
  | nil => by_cases same : key = name <;> simp [insert, same]
  | cons first rest ih =>
      obtain ⟨found, old⟩ := first
      by_cases here : found = key
      · subst here
        by_cases same : found = name <;> simp [insert, same]
      · by_cases same : key = name
        · subst same
          simp [insert, here, ih]
        · by_cases left : found = name
          · subst left
            simp [insert, here, same, ih]
          · simp [insert, here, same, left, ih]

theorem ofMembers_concat :
    ofMembers (members ++ [member]) = (ofMembers members).insert member.1 member.2 := by
  simp [ofMembers]

/-- **Every key has the value that it was given last.** -/
theorem get?_ofMembers :
    (ofMembers members).get? name = get? members.reverse name := by
  induction members using List.reverseRecOn with
  | nil => rfl
  | append_singleton members member ih =>
      rw [ofMembers_concat, get?_insert, ih, List.reverse_concat]
      by_cases same : member.1 = name <;> simp [get?, same]

/-- Nothing is in the map that has not been given. -/
theorem mem_ofMembers (inside : member ∈ ofMembers members) : member ∈ members := by
  induction members using List.reverseRecOn with
  | nil => cases inside
  | append_singleton members last ih =>
      rw [ofMembers_concat] at inside
      rcases mem_insert inside with early | same
      · exact List.mem_append_left _ (ih early)
      · exact List.mem_append_right _ (List.mem_singleton.mpr same)

/-- **A key can be left out before the map is made.** -/
theorem ofMembers_filter :
    (ofMembers members).filter (fun member => member.1 != name) =
      ofMembers (members.filter fun member => member.1 != name) := by
  induction members using List.reverseRecOn with
  | nil => rfl
  | append_singleton members member ih =>
      rw [ofMembers_concat, filter_insert, ih, List.filter_append]
      by_cases same : member.1 = name
      · simp [same]
      · rw [if_neg same, ← ofMembers_concat]
        simp [same]

end Provision.Properties
