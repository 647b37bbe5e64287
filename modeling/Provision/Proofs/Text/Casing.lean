import Provision.Text.Case

/-!
# Letters of either case

Upper and lower case differ in the letters alone. A digit stays what it is in a text that is put
into lower case (`mem_lowerFrom`), and two characters of one lower case are the same, or two letters
of one upper case (`eq_or_of_toLower_eq`).
-/

set_option autoImplicit false

namespace Provision.Text

/-! ## ASCII letters -/

theorem isDigit_iff (character : Char) :
    character.isDigit = true ↔ 48 ≤ character.toNat ∧ character.toNat ≤ 57 := by
  simp only [Char.isDigit, Bool.and_eq_true, decide_eq_true_eq, ge_iff_le, UInt32.le_iff_toNat_le]
  rfl

theorem isAlpha_iff (character : Char) :
    character.isAlpha = true ↔
      (65 ≤ character.toNat ∧ character.toNat ≤ 90) ∨
        (97 ≤ character.toNat ∧ character.toNat ≤ 122) := by
  have either : character.isAlpha =
      (decide ('A'.val ≤ character.val ∧ character.val ≤ 'Z'.val) ||
        ('a'.val ≤ character.val && character.val ≤ 'z'.val)) := rfl
  simp only [either, Bool.or_eq_true, Bool.and_eq_true, decide_eq_true_eq, UInt32.le_iff_toNat_le]
  rfl

theorem toNat_toLower (character : Char) :
    character.toLower.toNat =
      if 65 ≤ character.toNat ∧ character.toNat ≤ 90 then character.toNat + 32
      else character.toNat := by
  have capital : character.val ≥ 'A'.val ∧ character.val ≤ 'Z'.val ↔
      65 ≤ character.toNat ∧ character.toNat ≤ 90 := by
    simp only [ge_iff_le, UInt32.le_iff_toNat_le]
    rfl
  unfold Char.toLower
  by_cases upper : 65 ≤ character.toNat ∧ character.toNat ≤ 90
  · have small : character.toNat + 32 < 2 ^ 32 := by omega
    rw [dif_pos (capital.mpr upper), if_pos upper]
    show (character.val + 32).toNat = _
    rw [UInt32.toNat_add]
    exact Nat.mod_eq_of_lt small
  · rw [dif_neg fun given => upper (capital.mp given), if_neg upper]

theorem toNat_toUpper (character : Char) :
    character.toUpper.toNat =
      if 97 ≤ character.toNat ∧ character.toNat ≤ 122 then character.toNat - 32
      else character.toNat := by
  have small : 'a'.val ≤ character.val ∧ character.val ≤ 'z'.val ↔
      97 ≤ character.toNat ∧ character.toNat ≤ 122 := by
    simp only [UInt32.le_iff_toNat_le]
    rfl
  unfold Char.toUpper
  by_cases lower : 97 ≤ character.toNat ∧ character.toNat ≤ 122
  · rw [dif_pos (small.mpr lower), if_pos lower]
    show (character.val + ('A'.val - 'a'.val)).toNat = _
    rw [UInt32.toNat_add]
    have offset : ('A'.val - 'a'.val).toNat = 4294967264 := rfl
    have code : character.val.toNat = character.toNat := rfl
    omega
  · rw [dif_neg fun given => lower (small.mp given), if_neg lower]

/-- **Characters of one lower case are the same, or letters of one upper case.** -/
theorem eq_or_of_toLower_eq {first second : Char} (same : first.toLower = second.toLower) :
    first = second ∨
      first.isAlpha = true ∧ second.isAlpha = true ∧ first.toUpper = second.toUpper := by
  have codes := congrArg Char.toNat same
  rw [toNat_toLower, toNat_toLower] at codes
  by_cases equal : first.toNat = second.toNat
  · exact .inl (Char.toNat_inj.mp equal)
  · refine .inr ⟨?_, ?_, Char.toNat_inj.mp ?_⟩
    · rw [isAlpha_iff]
      split at codes <;> split at codes <;> omega
    · rw [isAlpha_iff]
      split at codes <;> split at codes <;> omega
    · rw [toNat_toUpper, toNat_toUpper]
      split at codes <;> split at codes <;> split <;> split <;> omega

/-! ## Digits -/

theorem toLower_of_isDigit {digit : Char} (isDigit : digit.isDigit = true) :
    digit.toLower = digit := by
  have code := (isDigit_iff digit).mp isDigit
  refine Char.toNat_inj.mp ?_
  rw [toNat_toLower, if_neg (by omega)]

theorem toUpper_of_isDigit {digit : Char} (isDigit : digit.isDigit = true) :
    digit.toUpper = digit := by
  have code := (isDigit_iff digit).mp isDigit
  refine Char.toNat_inj.mp ?_
  rw [toNat_toUpper, if_neg (by omega)]

/-- A digit stays in a text that is put into lower case. -/
theorem mem_lowerFrom {digit : Char} (isDigit : digit.isDigit = true) {characters : List Char}
    (member : digit ∈ characters) (before : List Char) :
    digit ∈ lowerFrom before characters := by
  induction characters generalizing before with
  | nil => cases member
  | cons first rest ih =>
      rw [lowerFrom]
      rcases List.mem_cons.mp member with rfl | there
      · have code := (isDigit_iff digit).mp isDigit
        have noSigma : digit.toNat ≠ 0x3A3 := by omega
        have small : digit.toNat < 0x80 := by omega
        refine List.mem_append_left _ ?_
        simp [noSigma, lowerChar, small, toLower_of_isDigit isDigit]
      · exact List.mem_append_right _ (ih there _)

end Provision.Text
