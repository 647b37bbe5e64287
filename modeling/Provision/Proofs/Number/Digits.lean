import Provision.Number.Whole

/-!
# Numbers in digits of a given width

A number that is written with zeros in front has as many digits as wanted, if it has no more of its
own (`length_padded`), and its digits stand for it (`ofDigitChars_padded`).
-/

set_option autoImplicit false

namespace Provision.Number

/-- The characters of a number with zeros in front. -/
theorem toList_padded (width number : Nat) :
    (padded width number).toList =
      List.replicate (width - (Nat.toDigits 10 number).length) '0' ++ Nat.toDigits 10 number := by
  unfold padded
  rw [String.toList_ofList]

theorem isDigit_of_mem_padded {width number : Nat} {character : Char}
    (member : character ∈ (padded width number).toList) : character.isDigit = true := by
  rw [toList_padded] at member
  rcases List.mem_append.mp member with zero | digit
  · rw [List.eq_of_mem_replicate zero]
    rfl
  · exact Nat.isDigit_of_mem_toDigits (by decide) (by decide) digit

/-- A number that fits the width has just as many digits. -/
theorem length_padded {width number : Nat} (positive : 0 < width)
    (fits : number < Nat.pow 10 width) : (padded width number).toList.length = width := by
  have short : (Nat.toDigits 10 number).length ≤ width :=
    (Nat.length_toDigits_le_iff (by decide) positive).mpr fits
  rw [toList_padded, List.length_append, List.length_replicate]
  omega

theorem padded_ne_nil (width number : Nat) : (padded width number).toList ≠ [] := by
  intro empty
  rw [toList_padded] at empty
  have none := (List.append_eq_nil_iff.mp empty).2
  have some : 0 < (Nat.toDigits 10 number).length := Nat.length_toDigits_pos
  rw [none] at some
  exact Nat.lt_irrefl 0 some

/-- A text that begins with a number begins with a digit. -/
theorem exists_digit_append (width number : Nat) (rest : List Char) :
    ∃ digit others, (padded width number).toList ++ rest = digit :: others ∧
      digit.isDigit = true := by
  cases shape : (padded width number).toList with
  | nil => exact absurd shape (padded_ne_nil width number)
  | cons digit others =>
      have first : digit ∈ (padded width number).toList := by
        rw [shape]
        exact List.mem_cons_self
      exact ⟨digit, others ++ rest, rfl, isDigit_of_mem_padded first⟩

/-- **The digits stand for the number.** -/
theorem ofDigitChars_padded (width number : Nat) :
    Nat.ofDigitChars 10 (padded width number).toList 0 = number := by
  rw [toList_padded, Nat.ofDigitChars_append, Nat.ofDigitChars_replicate_zero, Nat.mul_zero,
    Nat.ofDigitChars_toDigits (by decide) (by decide)]

/-- Digits make a number of at least what they are added to. -/
theorem le_ofDigitChars (run : List Char) (start : Nat) :
    start ≤ Nat.ofDigitChars 10 run start := by
  induction run generalizing start with
  | nil => exact Nat.le_refl start
  | cons digit run ih =>
      rw [Nat.ofDigitChars_cons]
      exact Nat.le_trans (by omega) (ih _)

end Provision.Number
