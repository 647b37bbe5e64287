import Provision.Json.Lenient
import Provision.Proofs.Json.RoundTrip

/-!
# One form is written, and it is read

A lenient reader accepts several forms of one value, and its writer writes one of them. The laws
here say of each way to build a codec that the written form is among those that are read, and that
it is read as the value: for numbers and booleans that may also be given as text
(`Codec.keeps_lenientNumber`, `Codec.keeps_lenientFlag`), for values that may be missing
(`Codec.keeps_nullable`), for lists (`Codec.keeps_list`), and for the objects that are made of
fields (`Record.codec_keeps`).
-/

set_option autoImplicit false

namespace Provision.Json

variable {σ α : Type}

namespace Codec

variable {codec : Codec α}

/-! ## Scalars -/

theorem keeps_lenientFlag (value : Bool) : lenientFlag.Keeps value := rfl

/-- A number is kept as far as its word reaches. -/
theorem keeps_lenientNumber {bits value : Nat} (fits : value < Number.wordSize bits) :
    (lenientNumber bits).Keeps value := by
  show decodeLenientNumber bits (.whole (.ofNat value)) = _
  simp only [decodeLenientNumber, fits, if_true]

/-- A number with a sign is kept as far as 32 bits reach. -/
theorem keeps_int32 {value : Int}
    (fits : -(Number.wordSize 31 : Int) ≤ value ∧ value < Number.wordSize 31) :
    int32.Keeps value := by
  have high : value ≤ (Number.wordSize 31 : Int) - 1 := by omega
  show decodeWhole _ _ _ (.whole value) = _
  simp only [decodeWhole, fits.1, high, decide_true, Bool.and_self, if_true]

/-! ## Values that may be missing -/

/-- A value that may be null is kept if null is not what is written for it when it is there. -/
theorem keeps_nullable {value : Option α}
    (kept : ∀ present, value = some present →
      codec.Keeps present ∧ codec.encode present ≠ .null) : codec.nullable.Keeps value := by
  cases value with
  | none => rfl
  | some present =>
      obtain ⟨kept, something⟩ := kept present rfl
      -- What is written is not null, so it is read as something that is there.
      simp only [Keeps, nullable]
      rw [kept]
      rfl

theorem keeps_nullable_properties (value : Option Properties) :
    properties.nullable.Keeps value := by
  cases value <;> rfl

/-! ## Lists -/

/-- A list is kept if all of its items are. -/
theorem keeps_list {values : List α} (kept : ∀ value ∈ values, codec.Keeps value) :
    codec.list.Keeps values := by
  show decodeItems codec (values.map codec.encode) = _
  induction values with
  | nil => rfl
  | cons first others ih =>
      obtain ⟨here, there⟩ := List.forall_mem_cons.mp kept
      rw [List.map_cons, decodeItems, here, ih there]
      rfl

theorem keeps_texts (values : List String) : (list text).Keeps values :=
  keeps_list fun value _ => keeps_text value

end Codec

/-! ## Records -/

namespace Record

variable {record : Record σ α} {written : σ} {value : α}

/-- A field that may be null is kept if its codec keeps the value. -/
theorem keeps_nullable {name : String} {codec : Codec α} {get : σ → Option α}
    (kept : codec.nullable.Keeps (get written)) :
    (nullable name codec get).Keeps written (get written) := by
  refine ⟨[(Field.ofCodec name [] false codec.nullable,
    some (codec.nullable.encode (get written)))], filled_single rfl rfl ?_ ?_⟩
  · rintro given ⟨rfl⟩
    exact check_ofCodec kept
  · intro given shows
    simp only [nullable, Field.ofCodec] at shows ⊢
    rw [shows]
    exact kept

/-- A map that is not written when it is empty is taken for empty when it is missing. -/
theorem keeps_emptySkipped {name : String} {get : σ → Properties} :
    (emptySkipped name get).Keeps written (get written) := by
  cases found : get written with
  | nil =>
      refine ⟨[(Field.ofCodec name [] true Codec.properties, none)],
        filled_single rfl (by simp only [emptySkipped, found]; rfl) ?_ ?_⟩
      · intro given absent
        cases absent
      · intro given shows
        simp only [emptySkipped, Field.ofCodec] at shows ⊢
        rw [shows]
  | cons first others =>
      refine ⟨[(Field.ofCodec name [] true Codec.properties, some (.object (first :: others)))],
        filled_single rfl (by simp only [emptySkipped, found]; rfl) ?_ ?_⟩
      · rintro given ⟨rfl⟩
        exact check_ofCodec (Codec.keeps_properties (first :: others))
      · intro given shows
        simp only [emptySkipped, Field.ofCodec] at shows ⊢
        rw [shows]
        rfl

/-- **A record as an object keeps what its fields keep.** -/
theorem codec_keeps {record : Record α α} (name : String)
    (unambiguous : Field.Unambiguous record.fields) (kept : record.Keeps value value) :
    (record.codec name).Keeps value :=
  ofMembers_members unambiguous kept

end Record

end Provision.Json
