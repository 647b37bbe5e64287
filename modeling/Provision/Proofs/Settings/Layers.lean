import Provision.Settings.Layer

/-!
# Values in layered settings

A value is looked up in settings along a path of keys (`valueAt?`). A value that is assigned is
found where it has been assigned (`valueAt?_assignAt_self`); what is assigned elsewhere is not seen
there (`valueAt?_assignAt_of_misses`); and what is found after an assignment depends on nothing but
what was found there before it (`valueAt?_assignAt_congr`). For the assignments of a whole layer it
follows that a value which all others miss is found as it was given (`valueAt?_overlay_self`), and
that what it misses is found as if it had not been given (`valueAt?_overlay_filter`).
-/

set_option autoImplicit false

namespace Provision.Settings

variable {key : String} {steps : List Step} {path : List String} {value target : Json}

/-! ## Looking up -/

/-- The value at a path of keys. -/
def valueAt? : List String → Json → Option Json
  | [], value => some value
  | key :: path, value => ((membersOf value).get? key).bind (valueAt? path)

/-- What is missing can be taken for a value that is no table. -/
theorem valueAt?_getD_null {found : Option Json} (something : path ≠ []) :
    valueAt? path (found.getD .null) = found.bind (valueAt? path) := by
  cases found with
  | some value => rfl
  | none =>
      cases path with
      | nil => exact absurd rfl something
      | cons name path => rfl

/-! ## Assigning -/

/-- The value is no table. -/
def IsPlain (value : Json) : Prop :=
  ∀ members, value ≠ .object members

/-- The steps lead elsewhere: at some point they go on to another key than the path. -/
def Misses : List Step → List String → Prop
  | .child key :: steps, name :: path => key ≠ name ∨ Misses steps path
  | _, _ => False

/-- Whether steps lead elsewhere can be computed. -/
def decideMisses : (steps : List Step) → (path : List String) → Decidable (Misses steps path)
  | .child key :: steps, name :: path =>
      have := decideMisses steps path
      inferInstanceAs (Decidable (key ≠ name ∨ Misses steps path))
  | [], _ => isFalse id
  | .item :: _, _ => isFalse id
  | .child _ :: _, [] => isFalse id

instance (steps : List Step) (path : List String) : Decidable (Misses steps path) :=
  decideMisses steps path

theorem not_misses_self {names : List String} : ¬ Misses (names.map .child) names := by
  induction names with
  | nil => exact id
  | cons name names ih => exact fun misses => misses.elim (fun other => other rfl) ih

/-- What an assignment makes of the part at its first key. -/
def partAfter (value : Json) : List Step → Option Json → Json
  | [], part =>
      match value with
      | .object incoming => assignAll incoming (part.getD (.object []))
      | plain => plain
  | .child next :: steps, part => assignAt value next steps (part.getD .null)
  | .item :: _, part =>
      .list (match part with
        | some (.list items) => items
        | _ => [])

/-- An assignment changes the part at its first key, and no other. -/
theorem assignAt_eq : assignAt value key steps target =
    .object ((membersOf target).insert key
      (partAfter value steps ((membersOf target).get? key))) := by
  cases steps with
  | nil => cases value <;> rfl
  | cons step steps => cases step <;> rfl

theorem partAfter_nil_of_plain (plain : IsPlain value) (part : Option Json) :
    partAfter value [] part = value := by
  cases value with
  | object members => exact absurd rfl (plain members)
  | null | bool | whole | float | text | list => rfl

theorem valueAt?_assignAt {name : String} :
    valueAt? (name :: path) (assignAt value key steps target) =
      if key = name then valueAt? path (partAfter value steps ((membersOf target).get? key))
      else valueAt? (name :: path) target := by
  rw [assignAt_eq, valueAt?, membersOf, Properties.get?_insert]
  split
  · rfl
  · rfl

/-- **What is assigned elsewhere is not seen.** -/
theorem valueAt?_assignAt_of_misses (misses : Misses (.child key :: steps) path) :
    valueAt? path (assignAt value key steps target) = valueAt? path target := by
  induction steps generalizing key path target with
  | nil =>
      cases path with
      | nil => exact misses.elim
      | cons name path =>
          have other : key ≠ name := misses.resolve_right id
          rw [valueAt?_assignAt, if_neg other]
  | cons step steps ih =>
      cases path with
      | nil => exact misses.elim
      | cons name path =>
          by_cases same : key = name
          · subst same
            have further : Misses (step :: steps) path := misses.resolve_left fun other => other rfl
            cases step with
            | item => exact further.elim
            | child next =>
                have something : path ≠ [] := by
                  rintro rfl
                  exact further
                rw [valueAt?_assignAt, if_pos rfl, partAfter, ih further,
                  valueAt?_getD_null something, valueAt?]
          · rw [valueAt?_assignAt, if_neg same]

/-- **What has been assigned is found.** -/
theorem valueAt?_assignAt_self (plain : IsPlain value) {names : List String} :
    valueAt? (key :: names) (assignAt value key (names.map .child) target) = some value := by
  induction names generalizing key target with
  | nil =>
      rw [List.map_nil, valueAt?_assignAt, if_pos rfl, partAfter_nil_of_plain plain]
      rfl
  | cons next names ih =>
      rw [List.map_cons, valueAt?_assignAt, if_pos rfl, partAfter, ih]

/-- **What is found after an assignment depends on what was found there before.** -/
theorem valueAt?_assignAt_congr {other : Json} (plain : IsPlain value) (something : path ≠ [])
    (same : valueAt? path target = valueAt? path other) :
    valueAt? path (assignAt value key steps target) =
      valueAt? path (assignAt value key steps other) := by
  induction steps generalizing key path target other with
  | nil =>
      cases path with
      | nil => exact absurd rfl something
      | cons name path =>
          rw [valueAt?_assignAt, valueAt?_assignAt, partAfter_nil_of_plain plain,
            partAfter_nil_of_plain plain, same]
  | cons step steps ih =>
      cases path with
      | nil => exact absurd rfl something
      | cons name path =>
          rw [valueAt?_assignAt, valueAt?_assignAt, same]
          by_cases here : key = name
          · subst here
            rw [if_pos rfl, if_pos rfl]
            -- At the key itself the parts are the same; below it, what the path leads to is.
            cases path with
            | nil =>
                have part : (membersOf target).get? key = (membersOf other).get? key := by
                  simpa [valueAt?] using same
                rw [part]
            | cons further path =>
                have below := List.cons_ne_nil further path
                cases step with
                | item => rfl
                | child next =>
                    rw [partAfter, partAfter]
                    refine ih below ?_
                    rw [valueAt?_getD_null below, valueAt?_getD_null below]
                    exact same
          · rw [if_neg here, if_neg here]

/-! ## Layers -/

/-- The steps that a key spells, its first key among them. -/
def stepsOf (key : String) : List Step :=
  .child (pathOf key).1 :: (pathOf key).2

theorem overlay_cons {member : String × Json} {layer : Properties} :
    overlay target (member :: layer) =
      overlay (assignAt member.2 (pathOf member.1).1 (pathOf member.1).2 target) layer := rfl

/-- A layer over a table is a table. -/
theorem exists_overlay_eq_object (members layer : Properties) :
    ∃ overlaid, overlay (.object members) layer = .object overlaid := by
  induction layer generalizing members with
  | nil => exact ⟨members, rfl⟩
  | cons member layer ih =>
      rw [overlay_cons, assignAt_eq]
      exact ih _

theorem valueAt?_overlay_congr {other : Json} {layer : Properties}
    (plain : ∀ member ∈ layer, IsPlain member.2) (something : path ≠ [])
    (same : valueAt? path target = valueAt? path other) :
    valueAt? path (overlay target layer) = valueAt? path (overlay other layer) := by
  induction layer generalizing target other with
  | nil => exact same
  | cons member layer ih =>
      obtain ⟨here, there⟩ := List.forall_mem_cons.mp plain
      rw [overlay_cons, overlay_cons]
      exact ih there (valueAt?_assignAt_congr here something same)

/-- **What a key misses is found as if no value had been given for it.** -/
theorem valueAt?_overlay_filter {layer : Properties} (plain : ∀ member ∈ layer, IsPlain member.2)
    (misses : Misses (stepsOf key) path) :
    valueAt? path (overlay target layer) =
      valueAt? path (overlay target (layer.filter fun member => member.1 != key)) := by
  have something : path ≠ [] := by
    rintro rfl
    exact misses
  induction layer generalizing target with
  | nil => rfl
  | cons member layer ih =>
      obtain ⟨-, there⟩ := List.forall_mem_cons.mp plain
      by_cases same : member.1 = key
      · rw [List.filter_cons, if_neg (by simp [same]), overlay_cons, ← ih there]
        refine valueAt?_overlay_congr there something (valueAt?_assignAt_of_misses ?_)
        exact same ▸ misses
      · rw [List.filter_cons, if_pos (by simp [same]), overlay_cons, overlay_cons, ih there]

/-- **A value that all others miss is found as it was given.** -/
theorem valueAt?_overlay_self {layer : Properties} {names : List String}
    (spelled : stepsOf key = names.map .child) (plain : IsPlain value)
    (alone : ∀ member ∈ layer, member.1 = key → member.2 = value)
    (missed : ∀ member ∈ layer, member.1 ≠ key → Misses (stepsOf member.1) names)
    (given : (key, value) ∈ layer ∨ valueAt? names target = some value) :
    valueAt? names (overlay target layer) = some value := by
  induction layer generalizing target with
  | nil => exact given.resolve_left List.not_mem_nil
  | cons member layer ih =>
      obtain ⟨aloneHere, aloneThere⟩ := List.forall_mem_cons.mp alone
      obtain ⟨missedHere, missedThere⟩ := List.forall_mem_cons.mp missed
      rw [overlay_cons]
      refine ih aloneThere missedThere ?_
      by_cases same : member.1 = key
      · cases names with
        | nil => cases spelled
        | cons name names =>
            obtain ⟨first, rest⟩ := List.cons.inj spelled
            rw [same, aloneHere same, Step.child.inj first, rest]
            exact .inr (valueAt?_assignAt_self plain)
      · rcases given with inside | found
        · refine .inl ((List.mem_cons.mp inside).resolve_left ?_)
          rintro rfl
          exact same rfl
        · exact .inr ((valueAt?_assignAt_of_misses (missedHere same)).trans found)

end Provision.Settings
