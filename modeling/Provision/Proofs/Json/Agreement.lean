import Mathlib.Data.List.Forall2
import Provision.Json.Record

/-!
# Members that are read alike

Two results agree if they are the same value, or if neither of them is one, whatever their faults
say (`Agree`). One value may stand for another under a key, and a record is tolerant if it does not
tell such values apart: under every name of a field they are accepted alike, and what is built from
them is the same (`Record.Tolerates`). A tolerant record then decodes members in which any values
have been replaced as it decodes the members given first (`Record.Tolerates.ofMembers`).

There is one law for each kind of field, so that tolerance follows the definition of a record.
-/

set_option autoImplicit false

namespace Provision

/-! ## Results that agree -/

section Agreement

variable {ε δ α β : Type}

/-- The results are the same value, or neither is one. -/
def Agree (first : Except ε α) (second : Except δ α) : Prop :=
  first.toOption = second.toOption

theorem Agree.refl (result : Except ε α) : Agree result result := rfl

theorem agree_error (fault : ε) (other : δ) :
    Agree (.error fault : Except ε α) (.error other : Except δ α) := rfl

theorem agree_cases {first : Except ε α} {second : Except δ α} (agree : Agree first second) :
    (∃ value, first = .ok value ∧ second = .ok value) ∨
      ∃ fault other, first = .error fault ∧ second = .error other := by
  cases first with
  | ok value =>
      cases second with
      | ok other =>
          cases agree
          exact .inl ⟨value, rfl, rfl⟩
      | error fault => cases agree
  | error fault =>
      cases second with
      | ok other => cases agree
      | error other => exact .inr ⟨fault, other, rfl, rfl⟩

theorem toOption_eq_some_iff {result : Except ε α} {value : α} :
    result.toOption = some value ↔ result = .ok value := by
  cases result with
  | ok given => exact (Option.some_inj.trans (Except.ok.injEq given value).to_iff.symm)
  | error fault => exact ⟨nofun, nofun⟩

/-- Results agree if the same values can come of them. -/
theorem agree_iff {first : Except ε α} {second : Except δ α} :
    Agree first second ↔ ∀ value, first = .ok value ↔ second = .ok value := by
  rw [Agree, Option.ext_iff]
  simp only [toOption_eq_some_iff]

/-- What goes on alike with the same value agrees. -/
theorem Agree.bind {first : Except ε α} {second : Except δ α} {follow : α → Except ε β}
    {other : α → Except δ β} (agree : Agree first second)
    (follows : ∀ value, Agree (follow value) (other value)) :
    Agree (first >>= follow) (second >>= other) := by
  rcases agree_cases agree with ⟨value, rfl, rfl⟩ | ⟨fault, reason, rfl, rfl⟩
  · exact follows value
  · exact agree_error fault reason

theorem Agree.map {first : Except ε α} {second : Except δ α} (view : α → β)
    (agree : Agree first second) : Agree (view <$> first) (view <$> second) := by
  rcases agree_cases agree with ⟨value, rfl, rfl⟩ | ⟨fault, reason, rfl, rfl⟩
  · exact rfl
  · exact agree_error fault reason

end Agreement

namespace Json

variable {σ α β : Type}

/-! ## Members with alike values -/

/-- Says of two values that one may stand for the other under a key. -/
abbrev Likeness := String → Json → Json → Prop

/-- The members have the same keys in the same order, and alike values. -/
def MembersAlike (alike : Likeness) : List (String × Json) → List (String × Json) → Prop :=
  List.Forall₂ fun member other => member.1 = other.1 ∧ alike member.1 member.2 other.2

namespace MembersAlike

variable {alike : Likeness} {given other : List (String × Json)}

theorem contains_eq (same : MembersAlike alike given other) (key : String) :
    Properties.contains given key = Properties.contains other key := by
  induction same with
  | nil => rfl
  | cons here _ ih =>
      simp only [Properties.contains, List.any_cons, here.1] at ih ⊢
      rw [ih]

theorem get?_rel (same : MembersAlike alike given other) (key : String) :
    Option.Rel (alike key) (Properties.get? given key) (Properties.get? other key) := by
  induction same with
  | nil => exact .none
  | @cons member entry rest others here _ ih =>
      obtain ⟨name, value⟩ := member
      obtain ⟨rfl, likeness⟩ := here
      by_cases found : entry.1 = key
      · subst found
        simpa [Properties.get?] using Option.Rel.some likeness
      · simpa [Properties.get?, found] using ih

theorem append {before earlier : List (String × Json)} (first : MembersAlike alike before earlier)
    (second : MembersAlike alike given other) :
    MembersAlike alike (before ++ given) (earlier ++ other) :=
  List.rel_append first second

end MembersAlike

/-! ## Tolerant records -/

/-- The record does not tell alike values apart, whichever of its names a field is given by. -/
structure Record.Tolerates (record : Record σ α) (alike : Likeness) : Prop where
  renames : ∀ field ∈ record.fields, ∀ key, field.answersTo key = true →
    ∀ value other, alike key value other → alike field.name value other
  accepts : ∀ field ∈ record.fields, ∀ value other, alike field.name value other →
    Agree (field.check value) (field.check other)
  builds : ∀ given other : String → Option Json,
    (∀ name, Option.Rel (alike name) (given name) (other name)) →
      Agree (record.build given) (record.build other)

/-- The codec does not tell values apart that are alike under the key. -/
def Codec.Tolerates (codec : Codec α) (alike : Likeness) (key : String) : Prop :=
  ∀ value other, alike key value other → Agree (codec.decode value) (codec.decode other)

variable {alike : Likeness}

/-- Members are gathered alike under the names of tolerant fields, or not at all. -/
theorem Field.gather_alike {fields : List Field}
    (renames : ∀ field ∈ fields, ∀ key, field.answersTo key = true →
      ∀ value other, alike key value other → alike field.name value other)
    (accepts : ∀ field ∈ fields, ∀ value other, alike field.name value other →
      Agree (field.check value) (field.check other))
    {given other : List (String × Json)} (same : MembersAlike alike given other)
    {before earlier : List (String × Json)} (gathered : MembersAlike alike before earlier) :
    Option.Rel (MembersAlike alike) (gather fields before given).toOption
      (gather fields earlier other).toOption := by
  induction same generalizing before earlier with
  | nil => exact .some gathered
  | @cons member entry rest others here _ ih =>
      obtain ⟨key, value⟩ := member
      obtain ⟨key', value'⟩ := entry
      obtain ⟨rfl, likeness⟩ := here
      unfold gather
      dsimp only
      cases found : fields.find? (fun field => field.answersTo key) with
      | none => exact ih gathered
      | some field =>
          have known : field ∈ fields := List.mem_of_find?_eq_some found
          have named : field.answersTo key = true := by simpa using List.find?_some found
          have renamed := renames field known key named value value' likeness
          dsimp only
          rw [gathered.contains_eq field.name]
          split
          · exact .none
          · rcases agree_cases (accepts field known value value' renamed) with
              ⟨_, first, second⟩ | ⟨_, _, first, second⟩
            · rw [first, second]
              exact ih (gathered.append (.cons ⟨rfl, renamed⟩ .nil))
            · rw [first, second]
              exact .none

namespace Record

namespace Tolerates

/-- **A tolerant record decodes alike members alike.** -/
theorem ofMembers {record : Record σ α} (tolerates : record.Tolerates alike)
    {given other : List (String × Json)} (same : MembersAlike alike given other) :
    Agree (record.ofMembers given) (record.ofMembers other) := by
  have gathered := Field.gather_alike tolerates.renames tolerates.accepts same
    (show MembersAlike alike [] [] from .nil)
  unfold Record.ofMembers
  cases first : Field.gather record.fields [] given with
  | error fault =>
      cases second : Field.gather record.fields [] other with
      | error reason => exact agree_error fault reason
      | ok found =>
          rw [first, second] at gathered
          cases gathered
  | ok members =>
      cases second : Field.gather record.fields [] other with
      | error reason =>
          rw [first, second] at gathered
          cases gathered
      | ok found =>
          rw [first, second] at gathered
          cases gathered with
          | some likeness => exact tolerates.builds _ _ likeness.get?_rel

/-! ### Putting records together -/

theorem seq {left : Record σ (α → β)} {right : Record σ α} (first : left.Tolerates alike)
    (second : right.Tolerates alike) : (left <*> right).Tolerates alike where
  renames field member :=
    (List.mem_append.mp member).elim (first.renames field) (second.renames field)
  accepts field member :=
    (List.mem_append.mp member).elim (first.accepts field) (second.accepts field)
  builds given other same :=
    (first.builds given other same).bind fun function =>
      (second.builds given other same).bind fun argument => .refl (.ok (function argument))

theorem const (value : α) : (Record.const value : Record σ α).Tolerates alike where
  renames _ absent := (List.not_mem_nil absent).elim
  accepts _ absent := (List.not_mem_nil absent).elim
  builds _ _ _ := .refl _

theorem map {record : Record σ α} (function : α → β) (tolerates : record.Tolerates alike) :
    (function <$> record).Tolerates alike :=
  (const function).seq tolerates

/-- A record of one field is tolerant if the field is, by all of its names, and if it builds the
same from alike contents. -/
theorem single {record : Record σ α} {codec : Codec β} {name : String} {aliases : List String}
    {skippable : Bool} (fields : record.fields = [Field.ofCodec name aliases skippable codec])
    (renames : ∀ key ∈ aliases, ∀ value other, alike key value other → alike name value other)
    (tolerates : codec.Tolerates alike name)
    (builds : ∀ given other : String → Option Json, Option.Rel (alike name) (given name)
      (other name) → Agree (record.build given) (record.build other)) :
    record.Tolerates alike where
  renames field member key named := by
    rw [fields, List.mem_singleton] at member
    subst member
    simp only [Field.answersTo, Field.ofCodec, Bool.or_eq_true, beq_iff_eq,
      List.contains_iff_mem] at named
    rcases named with rfl | other
    · exact fun _ _ => id
    · exact renames key other
  accepts field member value other same := by
    rw [fields, List.mem_singleton] at member
    subst member
    exact (tolerates value other same).map _
  builds given other same := builds given other (same name)

variable {codec : Codec α} {name : String} {aliases : List String}

theorem required {get : σ → α}
    (renames : ∀ key ∈ aliases, ∀ value other, alike key value other → alike name value other)
    (tolerates : codec.Tolerates alike name) :
    (Record.required name codec get aliases).Tolerates alike := by
  refine single rfl renames tolerates fun given other same => ?_
  simp only [Record.required]
  generalize given name = content, other name = instead at same ⊢
  cases same with
  | none => exact agree_error _ _
  | some likeness => exact tolerates _ _ likeness

theorem defaulted {get : σ → α} {missing : α}
    (renames : ∀ key ∈ aliases, ∀ value other, alike key value other → alike name value other)
    (tolerates : codec.Tolerates alike name) :
    (Record.defaulted name codec missing get aliases).Tolerates alike := by
  refine single rfl renames tolerates fun given other same => ?_
  simp only [Record.defaulted]
  generalize given name = content, other name = instead at same ⊢
  cases same with
  | none => exact .refl _
  | some likeness => exact tolerates _ _ likeness

theorem optional {get : σ → Option α} (tolerates : codec.nullable.Tolerates alike name) :
    (Record.optional name codec get).Tolerates alike := by
  refine single rfl (fun _ absent => (List.not_mem_nil absent).elim) tolerates
    fun given other same => ?_
  simp only [Record.optional]
  generalize given name = content, other name = instead at same ⊢
  cases same with
  | none => exact .refl _
  | some likeness => exact tolerates _ _ likeness

end Tolerates

end Record

end Json

end Provision
