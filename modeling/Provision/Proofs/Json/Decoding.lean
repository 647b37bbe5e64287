import Provision.Json.Lenient
import Provision.Json.Record
import Provision.Proofs.Result

/-!
# What decoding tells of a value

What a record decodes is put together from what its fields decode (`Record.build_apply`), and a
number that is decoded for a word fits the word (`Codec.lenientNumber_lt`).
-/

set_option autoImplicit false

namespace Provision

/-! ## Numbers -/

namespace Number

theorem readDigits_le {radix limit : Nat} {beyond : WholeFault} {characters : List Char}
    {value found : Nat} (start : value ≤ limit)
    (read : readDigits radix limit beyond value characters = .ok found) : found ≤ limit := by
  induction characters generalizing value with
  | nil => cases read; exact start
  | cons character rest ih =>
      unfold readDigits at read
      split at read
      · cases read
      · split at read
        · cases read
        · rename_i inside
          exact ih (Nat.le_of_not_lt inside) read

theorem readSomeDigits_le {radix limit : Nat} {beyond : WholeFault} {characters : List Char}
    {found : Nat} (read : readSomeDigits radix limit beyond characters = .ok found) :
    found ≤ limit := by
  unfold readSomeDigits at read
  split at read
  · cases read
  · exact readDigits_le (Nat.zero_le limit) read

theorem readUnsigned_le {limit found : Nat} {characters : List Char}
    (read : readUnsigned limit characters = .ok found) : found ≤ limit := by
  unfold readUnsigned at read
  split at read
  · cases read
  · exact readSomeDigits_le read
  · exact readSomeDigits_le read

end Number

/-! ## Records -/

namespace Json

variable {σ α β : Type} {given : String → Option Json}

/-- What a record builds is put together from what its parts build. -/
theorem Record.build_apply {left : Record σ (α → β)} {right : Record σ α} {value : β}
    (built : (left.apply right).build given = .ok value) :
    ∃ function argument, left.build given = .ok function ∧ right.build given = .ok argument ∧
      value = function argument := by
  obtain ⟨function, first, follows⟩ := exists_of_bind_eq_ok built
  obtain ⟨argument, second, built⟩ := exists_of_bind_eq_ok follows
  cases built
  exact ⟨function, argument, first, second, rfl⟩

theorem Record.build_required {name : String} {codec : Codec α} {get : σ → α}
    {aliases : List String} {value : α}
    (built : (Record.required name codec get aliases).build given = .ok value) :
    ∃ json, codec.decode json = .ok value := by
  unfold Record.required at built
  dsimp only at built
  split at built
  · cases built
  · exact ⟨_, built⟩

/-- A number that is decoded for a word fits it. -/
theorem Codec.lenientNumber_lt {bits value : Nat} {json : Json}
    (decoded : (lenientNumber bits).decode json = .ok value) : value < Number.wordSize bits := by
  have read : decodeLenientNumber bits json = .ok value := decoded
  unfold decodeLenientNumber at read
  split at read
  · split at read
    · rename_i fits
      cases read
      exact fits
    · cases read
  · split at read
    · rename_i found
      cases read
      have bound := Number.readUnsigned_le found
      have size := Number.wordSize_pos bits
      omega
    · cases read
  · cases read

end Json

end Provision
