import Provision.Json.Record

/-!
# What is written is read back

A codec keeps a value when it decodes the value again from what it encodes for it. Codecs of
scalars keep the values of their range, and codecs built from others keep what is built from kept
values.

For records the law is put together field by field. A record keeps a structure as a value when
the fields can be filled, each with what is written under its name or with nothing, so that every
field accepts its content and the contents build the value (`Record.Filled`). A record of which
no earlier field answers to the name of a later one then decodes as that value from the members
that are written for the structure (`Record.ofMembers_members`).
-/

set_option autoImplicit false

namespace Provision.Json

variable {σ α β : Type}

/-! ## Scalars -/

namespace Codec

/-- The codec decodes the value from what it encodes for it. -/
def Keeps (codec : Codec α) (value : α) : Prop :=
  codec.decode (codec.encode value) = .ok value

theorem keeps_text (value : String) : text.Keeps value := rfl

theorem keeps_nullable_text (value : Option String) : text.nullable.Keeps value := by
  cases value <;> rfl

theorem keeps_flag (value : Bool) : flag.Keeps value := rfl

theorem keeps_properties (value : Properties) : properties.Keeps value := rfl

/-- Numbers are kept as far as the word reaches. -/
theorem keeps_unsigned {bits value : Nat} (fits : value < Number.wordSize bits) :
    (unsigned bits).Keeps value := by
  have low : (0 : Int) ≤ (value : Int) := Int.natCast_nonneg value
  have high : (value : Int) ≤ (Number.wordSize bits : Int) - 1 := by omega
  show Int.toNat <$> decodeWhole _ 0 _ (.whole (value : Int)) = _
  simp only [decodeWhole, low, high, decide_true, Bool.and_self, if_true]
  rfl

end Codec

/-! ## Records -/

namespace Field

/-- No field answers to the name of a later one. -/
def Unambiguous (fields : List Field) : Prop :=
  fields.Pairwise fun earlier later => earlier.answersTo later.name = false

instance (fields : List Field) : Decidable (Unambiguous fields) :=
  inferInstanceAs (Decidable (fields.Pairwise _))

theorem answersTo_name (field : Field) : field.answersTo field.name = true := by
  simp [answersTo]

theorem name_ne_of_answersTo {earlier later : Field}
    (silent : earlier.answersTo later.name = false) : earlier.name ≠ later.name := by
  intro same
  simp [answersTo, same] at silent

/-- The first field that answers to a field's name is that field. -/
theorem Unambiguous.find? {before after : List Field} {field : Field}
    (unambiguous : Unambiguous (before ++ field :: after)) :
    (before ++ field :: after).find? (fun other => other.answersTo field.name) = some field := by
  have silent : ∀ other ∈ before, other.answersTo field.name = false := fun other member =>
    (List.pairwise_append.mp unambiguous).2.2 other member field List.mem_cons_self
  have skipped : before.find? (fun other => other.answersTo field.name) = none :=
    List.find?_eq_none.mpr fun other member => by simp [silent other member]
  rw [List.find?_append, skipped, Option.none_or]
  simp [answersTo_name]

end Field

/-- A field with what is written under its name, if anything is. -/
abbrev Slot := Field × Option Json

namespace Slot

/-- The members that the slots amount to. -/
def members (slots : List Slot) : List (String × Json) :=
  slots.filterMap fun slot => slot.2.map (slot.1.name, ·)

theorem members_append (before after : List Slot) :
    members (before ++ after) = members before ++ members after :=
  List.filterMap_append

theorem members_cons (field : Field) (content : Option Json) (rest : List Slot) :
    members ((field, content) :: rest) =
      match content with
      | none => members rest
      | some value => (field.name, value) :: members rest := by
  cases content <;> rfl

/-- A name that no slot has is no key. -/
theorem contains_members_eq_false {slots : List Slot} {name : String}
    (absent : ∀ slot ∈ slots, slot.1.name ≠ name) :
    Properties.contains (members slots) name = false := by
  simp only [Properties.contains, members, List.any_eq_false, List.mem_filterMap, beq_iff_eq]
  rintro member ⟨slot, here, filled⟩ same
  cases content : slot.2 with
  | none => simp [content] at filled
  | some value =>
      simp only [content, Option.map_some, Option.some.injEq] at filled
      subst filled
      exact absent slot here same

theorem get?_eq_none_of_contains {properties : Properties} {key : String}
    (absent : properties.contains key = false) : properties.get? key = none := by
  simp only [Properties.contains, List.any_eq_false] at absent
  simp only [Properties.get?, Option.map_eq_none_iff, List.find?_eq_none]
  exact absent

/-- Under the name of a slot stands its content. -/
theorem get?_members {slots : List Slot} (unambiguous : Field.Unambiguous (slots.map Prod.fst)) :
    ∀ slot ∈ slots, Properties.get? (members slots) slot.1.name = slot.2 := by
  induction slots with
  | nil => intro slot absent; cases absent
  | cons first rest ih =>
      obtain ⟨field, content⟩ := first
      obtain ⟨silent, unambiguous⟩ := List.pairwise_cons.mp unambiguous
      have names : ∀ slot ∈ rest, field.name ≠ slot.1.name := fun slot member =>
        Field.name_ne_of_answersTo (silent slot.1 (List.mem_map_of_mem member))
      intro slot member
      rcases List.mem_cons.mp member with rfl | here
      · rw [members_cons]
        cases content with
        | none =>
            exact get?_eq_none_of_contains
              (contains_members_eq_false fun other here => (names other here).symm)
        | some value => simp [Properties.get?]
      · rw [← ih unambiguous slot here, members_cons]
        cases content with
        | none => rfl
        | some value => simp [Properties.get?, names slot here]

/-- Members that come from accepted slots are gathered as they are. -/
theorem gather_members (before after : List Slot)
    (unambiguous : Field.Unambiguous ((before ++ after).map Prod.fst))
    (accepted : ∀ slot ∈ after, ∀ value, slot.2 = some value → slot.1.check value = .ok ()) :
    Field.gather ((before ++ after).map Prod.fst) (members before) (members after) =
      .ok (members (before ++ after)) := by
  induction after generalizing before with
  | nil => simp [members, Field.gather]
  | cons first rest ih =>
      obtain ⟨field, content⟩ := first
      have shifted : before ++ (field, content) :: rest = (before ++ [(field, content)]) ++ rest := by
        simp
      have gathered := ih (before ++ [(field, content)]) (by rwa [← shifted])
        fun slot member => accepted slot (List.mem_cons_of_mem _ member)
      rw [← shifted, members_append before [(field, content)], members_cons] at gathered
      cases content with
      | none =>
          rw [members_cons]
          simpa [members] using gathered
      | some value =>
          have known : ((before ++ (field, some value) :: rest).map Prod.fst).find?
              (fun other => other.answersTo field.name) = some field := by
            rw [List.map_append, List.map_cons] at unambiguous ⊢
            exact unambiguous.find?
          have fresh : Properties.contains (members before) field.name = false := by
            refine contains_members_eq_false fun slot member => ?_
            rw [List.map_append, List.map_cons] at unambiguous
            exact Field.name_ne_of_answersTo ((List.pairwise_append.mp unambiguous).2.2 slot.1
              (List.mem_map_of_mem member) field List.mem_cons_self)
          have taken : field.check value = .ok () :=
            accepted (field, some value) List.mem_cons_self value rfl
          rw [members_cons, Field.gather, known]
          simp only [fresh, taken, Bool.false_eq_true, if_false]
          exact gathered

end Slot

namespace Record

/-- The slots of a record, filled with what is written for a structure, build the value. -/
structure Filled (record : Record σ α) (written : σ) (value : α) (slots : List Slot) : Prop where
  fields : slots.map Prod.fst = record.fields
  members : record.members written = Slot.members slots
  accepted : ∀ slot ∈ slots, ∀ content, slot.2 = some content → slot.1.check content = .ok ()
  builds : ∀ given, (∀ slot ∈ slots, given slot.1.name = slot.2) → record.build given = .ok value

/-- What is written for the structure can be read back as the value. -/
def Keeps (record : Record σ α) (written : σ) (value : α) : Prop :=
  ∃ slots, record.Filled written value slots

variable {record : Record σ α} {written : σ} {value : α}

/-! ### Putting records together -/

theorem keeps_apply {function : α → β} {left : Record σ (α → β)} {right : Record σ α}
    (first : left.Keeps written function) (second : right.Keeps written value) :
    (left.apply right).Keeps written (function value) := by
  obtain ⟨before, before_filled⟩ := first
  obtain ⟨after, after_filled⟩ := second
  refine ⟨before ++ after, ?_, ?_, ?_, ?_⟩
  · rw [List.map_append, before_filled.fields, after_filled.fields]
    rfl
  · rw [Slot.members_append, ← before_filled.members, ← after_filled.members]
    rfl
  · intro slot member
    rcases List.mem_append.mp member with here | here
    · exact before_filled.accepted slot here
    · exact after_filled.accepted slot here
  · intro given shows
    have function_built := before_filled.builds given fun slot member =>
      shows slot (List.mem_append_left after member)
    have argument_built := after_filled.builds given fun slot member =>
      shows slot (List.mem_append_right before member)
    show (left.build given).bind _ = _
    rw [function_built]
    show (right.build given).bind _ = _
    rw [argument_built]
    rfl

theorem Keeps.seq {function : α → β} {left : Record σ (α → β)} {right : Record σ α}
    (first : left.Keeps written function) (second : right.Keeps written value) :
    (left <*> right).Keeps written (function value) :=
  keeps_apply first second

theorem Keeps.map (function : α → β) (kept : record.Keeps written value) :
    (function <$> record).Keeps written (function value) :=
  keeps_apply ⟨[], rfl, rfl, fun _ absent => (List.not_mem_nil absent).elim, fun _ _ => rfl⟩ kept

/-- One slot is filled when its content is accepted and builds the value. -/
theorem filled_single {field : Field} {content : Option Json}
    (fields : record.fields = [field])
    (members : record.members written = Slot.members [(field, content)])
    (accepted : ∀ given, content = some given → field.check given = .ok ())
    (builds : ∀ given : String → Option Json, given field.name = content →
      record.build given = .ok value) :
    record.Filled written value [(field, content)] := by
  refine ⟨fields.symm, members, ?_, ?_⟩
  · intro slot member
    obtain rfl := List.mem_singleton.mp member
    exact accepted
  · exact fun given shows => builds given (shows _ List.mem_cons_self)

theorem check_ofCodec {name : String} {aliases : List String} {skippable : Bool}
    {codec : Codec α} {given : Json} (decoded : codec.decode given = .ok value) :
    (Field.ofCodec name aliases skippable codec).check given = .ok () := by
  show (fun _ => ()) <$> codec.decode given = _
  rw [decoded]
  rfl

theorem keeps_required {name : String} {codec : Codec α} {get : σ → α} {aliases : List String}
    (kept : codec.Keeps (get written)) :
    (required name codec get aliases).Keeps written (get written) := by
  refine ⟨[(Field.ofCodec name aliases false codec, some (codec.encode (get written)))],
    filled_single rfl rfl ?_ ?_⟩
  · rintro given ⟨rfl⟩
    exact check_ofCodec kept
  · intro given shows
    simp only [required, Field.ofCodec] at shows ⊢
    rw [shows]
    exact kept

theorem keeps_defaulted {name : String} {codec : Codec α} {missing : α} {get : σ → α}
    {aliases : List String} (kept : codec.Keeps (get written)) :
    (defaulted name codec missing get aliases).Keeps written (get written) := by
  refine ⟨[(Field.ofCodec name aliases true codec, some (codec.encode (get written)))],
    filled_single rfl rfl ?_ ?_⟩
  · rintro given ⟨rfl⟩
    exact check_ofCodec kept
  · intro given shows
    simp only [defaulted, Field.ofCodec] at shows ⊢
    rw [shows]
    exact kept

/-- An optional field is kept if its codec keeps the value and does not write it as null. -/
theorem keeps_optional {name : String} {codec : Codec α} {get : σ → Option α}
    (kept : ∀ present, get written = some present → codec.nullable.Keeps (some present)) :
    (optional name codec get).Keeps written (get written) := by
  cases present : get written with
  | none =>
      refine ⟨[(Field.ofCodec name [] true codec.nullable, none)],
        filled_single rfl (by simp only [optional, present]; rfl) ?_ ?_⟩
      · intro given absent
        cases absent
      · intro given shows
        simp only [optional, Field.ofCodec] at shows ⊢
        rw [shows]
  | some inner =>
      refine ⟨[(Field.ofCodec name [] true codec.nullable, some (codec.encode inner))],
        filled_single rfl (by simp only [optional, present]; rfl) ?_ ?_⟩
      · rintro given ⟨rfl⟩
        exact check_ofCodec (kept inner present)
      · intro given shows
        simp only [optional, Field.ofCodec] at shows ⊢
        rw [shows]
        exact kept inner present

/-! ### Reading back -/

/-- **A record reads back what it keeps.** -/
theorem ofMembers_members (unambiguous : Field.Unambiguous record.fields)
    (keeps : record.Keeps written value) :
    record.ofMembers (record.members written) = .ok value := by
  obtain ⟨slots, filled⟩ := keeps
  rw [← filled.fields] at unambiguous
  have gathered := Slot.gather_members [] slots unambiguous filled.accepted
  rw [List.nil_append, filled.fields] at gathered
  have built := filled.builds _ (Slot.get?_members unambiguous)
  rw [ofMembers, filled.members]
  show (Field.gather record.fields (Slot.members []) (Slot.members slots)).bind _ = _
  rw [gathered]
  exact built

end Record

end Provision.Json
