/-!
# What a result tells of its parts

Where something has been made of results, each of them was one: what is computed first of two things
(`exists_of_bind_eq_ok`), what is changed (`exists_of_map_eq_ok`), each check of a list
(`forM_eq_ok`), and what is made of each item of a list (`mapM_eq_ok`). Where that has failed, an
item is to blame (`exists_of_mapM_eq_error`).
-/

set_option autoImplicit false

namespace Provision

/-- What goes on with a result has had one. -/
theorem exists_of_bind_eq_ok {ε α β : Type} {first : Except ε α} {follow : α → Except ε β}
    {value : β} (same : first >>= follow = .ok value) :
    ∃ middle, first = .ok middle ∧ follow middle = .ok value := by
  cases first with
  | error fault => cases same
  | ok middle => exact ⟨middle, rfl, same⟩

/-- What has been made of a result has had one. -/
theorem exists_of_map_eq_ok {ε α β : Type} {first : Except ε α} {change : α → β} {value : β}
    (same : change <$> first = .ok value) :
    ∃ middle, first = .ok middle ∧ change middle = value := by
  cases first with
  | error fault => cases same
  | ok middle => exact ⟨middle, rfl, Except.ok.inj same⟩

/-- Items that are checked one after the other pass if each of them does. -/
theorem forM_eq_ok {ε α : Type} {check : α → Except ε Unit} {items : List α} :
    items.forM check = .ok () ↔ ∀ item ∈ items, check item = .ok () := by
  induction items with
  | nil => simp [List.forM, pure, Except.pure]
  | cons item others ih =>
      rw [List.forall_mem_cons, ← ih, List.forM]
      cases check item with
      | error fault => simp [bind, Except.bind]
      | ok nothing => simp [bind, Except.bind]

/-- Items of which something is made one after the other have come to a result each. -/
theorem mapM_eq_ok {ε α β : Type} {make : α → Except ε β} {items : List α} {values : List β} :
    items.mapM make = .ok values ↔ items.map make = values.map .ok := by
  induction items generalizing values with
  | nil => simp [pure, Except.pure, eq_comm]
  | cons item others ih =>
      rw [List.mapM_cons, List.map_cons, eq_comm (a := make item :: others.map make),
        List.map_eq_cons_iff]
      constructor
      · intro made
        obtain ⟨value, first, made⟩ := exists_of_bind_eq_ok made
        obtain ⟨rest, later, same⟩ := exists_of_bind_eq_ok made
        exact ⟨value, rest, (Except.ok.inj same).symm, first.symm, (ih.mp later).symm⟩
      · rintro ⟨value, rest, rfl, first, later⟩
        rw [← first, ih.mpr later.symm]
        rfl

/-- Where items cannot be made into something, one of them cannot. -/
theorem exists_of_mapM_eq_error {ε α β : Type} {make : α → Except ε β} {items : List α} {fault : ε}
    (failed : items.mapM make = .error fault) : ∃ item ∈ items, make item = .error fault := by
  induction items with
  | nil => cases failed
  | cons item others ih =>
      rw [List.mapM_cons] at failed
      cases first : make item with
      | error reason =>
          rw [first] at failed
          cases failed
          exact ⟨item, List.mem_cons_self, first⟩
      | ok value =>
          rw [first] at failed
          cases later : others.mapM make with
          | error reason =>
              rw [later] at failed
              cases failed
              obtain ⟨other, inside, found⟩ := ih later
              exact ⟨other, List.mem_cons_of_mem item inside, found⟩
          | ok rest =>
              rw [later] at failed
              cases failed

end Provision
