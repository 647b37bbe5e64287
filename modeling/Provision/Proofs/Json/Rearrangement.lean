import Mathlib.Data.List.Perm.Basic
import Provision.Proofs.Json.Agreement

/-!
# Members in any order

What a record decodes depends on the members that its fields go by, and not on where they stand.
Members are gathered just if every value is accepted by its field and no field is given twice
(`Field.gather_eq_ok_iff`), and neither depends on the order. Members under other keys are passed
over wherever they are (`Field.gather_filter`). So the members of an object may be put into another
order, and others may be put among them, and a record decodes the same value as before or refuses
both (`Record.ofMembers_rearranged`).
-/

set_option autoImplicit false

namespace Provision

/-! ## Looking up -/

namespace Properties

variable {members others : Properties}

/-- Where no key comes twice, a member is what its key is looked up as. -/
theorem get?_eq_some_iff (distinct : (members.map Prod.fst).Nodup) {key : String} {value : Json} :
    members.get? key = some value ↔ (key, value) ∈ members := by
  induction members with
  | nil => simp [get?]
  | cons member rest ih =>
      obtain ⟨name, given⟩ := member
      obtain ⟨absent, distinct⟩ := List.nodup_cons.mp distinct
      by_cases here : name = key
      · subst here
        have elsewhere : (name, value) ∉ rest := fun member =>
          absent (List.mem_map.mpr ⟨_, member, rfl⟩)
        simp [get?, elsewhere, eq_comm]
      · have later := ih distinct
        simp only [get?] at later
        simp [get?, here, Ne.symm here, later]

/-- **Where no key comes twice, looking up does not depend on the order.** -/
theorem get?_perm (distinct : (members.map Prod.fst).Nodup) (perm : members.Perm others) :
    members.get? = others.get? := by
  have distinct' := (perm.map Prod.fst).nodup_iff.mp distinct
  funext key
  refine Option.ext fun value => ?_
  rw [get?_eq_some_iff distinct, get?_eq_some_iff distinct', perm.mem_iff]

theorem contains_eq_true_iff {key : String} :
    Properties.contains members key = true ↔ key ∈ members.map Prod.fst := by
  rw [contains, List.any_eq_true, List.mem_map]
  simp only [beq_iff_eq]

end Properties

namespace Json

variable {σ α : Type}

/-! ## Gathering -/

namespace Field

variable {fields : List Field} {given members others : List (String × Json)}

/-- The keys that the fields go by: their names and their other names. -/
def keys (fields : List Field) : List String :=
  fields.flatMap fun field => field.name :: field.aliases

theorem mem_keys {key : String} :
    key ∈ keys fields ↔ ∃ field ∈ fields, field.answersTo key = true := by
  simp only [keys, answersTo, List.mem_flatMap, List.mem_cons, Bool.or_eq_true, beq_iff_eq,
    List.contains_iff_mem, eq_comm (a := key)]

/-- The members that the fields go by, each with its field. -/
def claimed (fields : List Field) (members : List (String × Json)) : List (Field × Json) :=
  members.filterMap fun member =>
    (fields.find? fun field => field.answersTo member.1).map fun field => (field, member.2)

theorem claimed_eq_nil (unknown : ∀ member ∈ members, member.1 ∉ keys fields) :
    claimed fields members = [] := by
  refine List.filterMap_eq_nil_iff.mpr fun member present => ?_
  rw [Option.map_eq_none_iff, List.find?_eq_none]
  exact fun field inside named => unknown member present (mem_keys.mpr ⟨field, inside, named⟩)

/-- **Members are gathered if every field accepts its value and none is given twice.** -/
theorem gather_eq_ok_iff {result : List (String × Json)} (distinct : (given.map Prod.fst).Nodup) :
    gather fields given members = .ok result ↔
      (∀ entry ∈ claimed fields members, entry.1.check entry.2 = .ok ()) ∧
        (result.map Prod.fst).Nodup ∧
        result = given ++ (claimed fields members).map fun entry => (entry.1.name, entry.2) := by
  induction members generalizing given with
  | nil =>
      simp only [gather, claimed, List.filterMap_nil, List.map_nil, List.append_nil,
        Except.ok.injEq, List.not_mem_nil, false_implies, implies_true, true_and]
      constructor
      · rintro rfl
        exact ⟨distinct, rfl⟩
      · rintro ⟨-, rfl⟩
        rfl
  | cons member rest ih =>
      obtain ⟨key, value⟩ := member
      unfold gather
      cases found : fields.find? (fun field => field.answersTo key) with
      | none =>
          have skipped : claimed fields ((key, value) :: rest) = claimed fields rest := by
            simp [claimed, found]
          rw [skipped]
          exact ih distinct
      | some field =>
          have taken : claimed fields ((key, value) :: rest) =
              (field, value) :: claimed fields rest := by
            simp [claimed, found]
          rw [taken, List.forall_mem_cons, List.map_cons]
          dsimp only
          split
          · -- The field has been given already.
            rename_i twice
            constructor
            · intro gathered
              cases gathered
            · rintro ⟨-, nodup, rfl⟩
              rw [List.map_append, List.map_cons, List.nodup_append] at nodup
              exact absurd rfl (nodup.2.2 _ (Properties.contains_eq_true_iff.mp twice) _
                List.mem_cons_self)
          · rename_i once
            have absent : field.name ∉ given.map Prod.fst :=
              mt Properties.contains_eq_true_iff.mpr once
            cases accepted : field.check value with
            | error fault => simp
            | ok nothing =>
                have distinct' : ((given ++ [(field.name, value)]).map Prod.fst).Nodup := by
                  rw [List.map_append, List.map_singleton, List.nodup_append]
                  refine ⟨distinct, by simp, fun name present other single => ?_⟩
                  rintro rfl
                  rw [List.mem_singleton.mp single] at present
                  exact absent present
                rw [ih distinct', List.append_assoc, List.singleton_append]
                simp

/-- **Members that no field goes by may be left out.** -/
theorem gather_filter {keep : String → Bool} (kept : ∀ key ∈ keys fields, keep key = true) :
    gather fields given (members.filter fun member => keep member.1) =
      gather fields given members := by
  induction members generalizing given with
  | nil => rfl
  | cons member rest ih =>
      obtain ⟨key, value⟩ := member
      by_cases keeps : keep key = true
      · simp only [List.filter_cons, keeps, if_true, gather, ih]
      · have unknown : fields.find? (fun field => field.answersTo key) = none :=
          List.find?_eq_none.mpr fun field inside named =>
            keeps (kept key (mem_keys.mpr ⟨field, inside, named⟩))
        simp only [List.filter_cons, keeps, if_false, gather, unknown, ih, Bool.false_eq_true]

end Field

/-! ## Rearranged members -/

/-- The others are the members in any order, with further ones among them whose keys are not of the
given ones. -/
def Rearranged (keys : List String) (members others : List (String × Json)) : Prop :=
  ∃ further : List (String × Json), (∀ member ∈ further, member.1 ∉ keys) ∧
    others.Perm (members ++ further)

/-- Fewer keys leave more members to be added. -/
theorem Rearranged.mono {keys fewer : List String} {members others : List (String × Json)}
    (rearranged : Rearranged keys members others) (subset : fewer ⊆ keys) :
    Rearranged fewer members others := by
  obtain ⟨further, unknown, perm⟩ := rearranged
  exact ⟨further, fun member present known => unknown member present (subset known), perm⟩

namespace Record

variable {record : Record σ α} {members others : List (String × Json)}

theorem knows_iff {key : String} : record.knows key = true ↔ key ∈ Field.keys record.fields := by
  rw [knows, List.any_eq_true, Field.mem_keys]

theorem ofMembers_filter (keep : String → Bool)
    (kept : ∀ key ∈ Field.keys record.fields, keep key = true) :
    record.ofMembers (members.filter fun member => keep member.1) = record.ofMembers members := by
  unfold ofMembers
  rw [Field.gather_filter kept]

/-- A value of rearranged members is a value of the members themselves, and the other way round. -/
theorem ofMembers_eq_ok_of_perm {value : α}
    (perm : (Field.claimed record.fields members).Perm (Field.claimed record.fields others))
    (decoded : record.ofMembers members = .ok value) : record.ofMembers others = .ok value := by
  unfold ofMembers at decoded ⊢
  cases gathered : Field.gather record.fields [] members with
  | error fault =>
      rw [gathered] at decoded
      cases decoded
  | ok given =>
      have start : (([] : List (String × Json)).map Prod.fst).Nodup := List.nodup_nil
      obtain ⟨accepts, distinct, shape⟩ := (Field.gather_eq_ok_iff start).mp gathered
      have moved : given.Perm ([] ++ (Field.claimed record.fields others).map fun entry =>
          (entry.1.name, entry.2)) := by
        rw [shape]
        exact (perm.map _).append_left []
      have again := (Field.gather_eq_ok_iff start).mpr
        ⟨fun entry present => accepts entry (perm.mem_iff.mpr present),
          (moved.map Prod.fst).nodup_iff.mp distinct, rfl⟩
      rw [gathered] at decoded
      rw [again]
      show record.build (Properties.get? _) = _
      rw [← Properties.get?_perm distinct moved]
      exact decoded

/-- **A record decodes rearranged members as it decodes the members themselves.** -/
theorem ofMembers_rearranged
    (rearranged : Rearranged (Field.keys record.fields) members others) :
    Agree (record.ofMembers members) (record.ofMembers others) := by
  obtain ⟨further, unknown, perm⟩ := rearranged
  have claims : (Field.claimed record.fields others).Perm
      (Field.claimed record.fields members) := by
    have same := perm.filterMap fun member =>
      (record.fields.find? fun field => field.answersTo member.1).map
        fun field => (field, member.2)
    rw [List.filterMap_append] at same
    have nothing := Field.claimed_eq_nil unknown
    unfold Field.claimed at nothing
    rwa [nothing, List.append_nil] at same
  exact agree_iff.mpr fun value =>
    ⟨ofMembers_eq_ok_of_perm claims.symm, ofMembers_eq_ok_of_perm claims⟩

end Record

end Json

end Provision
