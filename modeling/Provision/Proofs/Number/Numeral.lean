import Provision.Proofs.Number.Written

/-!
# Numerals

A numeral is a run of ASCII digits, one at least; it denotes a number, and zeros in front do not
count. Numbers up to a bound are read from exactly their numerals, with one plus sign in front or
none (`readUnsigned_eq_ok_iff`), and numbers of 64 bits from the same and from numerals behind one
minus sign (`readSigned_eq_ok_iff`). No other text is read as a number, and no numeral of a number
past the bound.
-/

set_option autoImplicit false

namespace Provision.Number

/-- The characters are digits, one at least, and stand for the number. -/
structure Denotes (digits : List Char) (number : Nat) : Prop where
  something : digits ≠ []
  digit : ∀ character ∈ digits, character.isDigit = true
  value : Nat.ofDigitChars 10 digits 0 = number

/-- The characters write the number, with a plus sign in front or without. -/
inductive Writes : List Char → Nat → Prop where
  | bare {digits : List Char} {number : Nat} (denotes : Denotes digits number) :
      Writes digits number
  | plus {digits : List Char} {number : Nat} (denotes : Denotes digits number) :
      Writes ('+' :: digits) number

/-- The characters write the number with its sign; zero may have either sign. -/
inductive WritesSigned : List Char → Int → Prop where
  | positive {characters : List Char} {size : Nat} (writes : Writes characters size) :
      WritesSigned characters size
  | negative {digits : List Char} {size : Nat} (denotes : Denotes digits size) :
      WritesSigned ('-' :: digits) (-(size : Int))

variable {limit : Nat} {beyond : WholeFault} {characters digits : List Char}

/-- A run of digits begins with one. -/
theorem Denotes.exists_digit {number : Nat} (denotes : Denotes digits number) :
    ∃ first rest, digits = first :: rest ∧ first.isDigit = true := by
  cases digits with
  | nil => exact absurd rfl denotes.something
  | cons first rest => exact ⟨first, rest, rfl, denotes.digit first List.mem_cons_self⟩

theorem WritesSigned.exists_digit {number : Int} (writes : WritesSigned characters number) :
    ∃ digit ∈ characters, digit.isDigit = true := by
  cases writes with
  | negative denotes =>
      obtain ⟨first, rest, rfl, isDigit⟩ := denotes.exists_digit
      exact ⟨first, by simp, isDigit⟩
  | positive writes =>
      cases writes with
      | plus denotes =>
          obtain ⟨first, rest, rfl, isDigit⟩ := denotes.exists_digit
          exact ⟨first, by simp, isDigit⟩
      | bare denotes =>
          obtain ⟨first, rest, rfl, isDigit⟩ := denotes.exists_digit
          exact ⟨first, by simp, isDigit⟩

theorem readSomeDigits_eq_ok_iff {found : Nat} :
    readSomeDigits 10 limit beyond characters = .ok found ↔
      Denotes characters found ∧ found ≤ limit := by
  cases characters with
  | nil =>
      constructor
      · intro read
        cases read
      · rintro ⟨denotes, -⟩
        exact absurd rfl denotes.something
  | cons first rest =>
      show readDigits 10 limit beyond 0 (first :: rest) = .ok found ↔ _
      constructor
      · intro read
        have digit := isDigit_of_readDigits read
        rw [readDigits_eq digit (Nat.zero_le limit)] at read
        split at read
        · rename_i inside
          cases read
          exact ⟨⟨List.cons_ne_nil first rest, digit, rfl⟩, inside⟩
        · cases read
      · rintro ⟨denotes, inside⟩
        rw [readDigits_eq denotes.digit (Nat.zero_le limit), denotes.value, if_pos inside]

/-! ## Numbers up to a bound -/

/-- A run of digits has no sign in front. -/
theorem Denotes.readUnsigned_eq {number : Nat} (denotes : Denotes digits number) :
    readUnsigned limit digits = readSomeDigits 10 limit .tooLarge digits := by
  obtain ⟨first, rest, rfl, isDigit⟩ := denotes.exists_digit
  unfold readUnsigned
  split
  · contradiction
  · rename_i same
    cases same
    cases isDigit
  · rfl

/-- **Numbers up to a bound are read from exactly their numerals.** -/
theorem readUnsigned_eq_ok_iff {found : Nat} :
    readUnsigned limit characters = .ok found ↔ Writes characters found ∧ found ≤ limit := by
  constructor
  · intro read
    unfold readUnsigned at read
    split at read
    · cases read
    · obtain ⟨denotes, inside⟩ := readSomeDigits_eq_ok_iff.mp read
      exact ⟨.plus denotes, inside⟩
    · obtain ⟨denotes, inside⟩ := readSomeDigits_eq_ok_iff.mp read
      exact ⟨.bare denotes, inside⟩
  · rintro ⟨writes, inside⟩
    cases writes with
    | plus denotes => exact readSomeDigits_eq_ok_iff.mpr ⟨denotes, inside⟩
    | bare denotes =>
        rw [denotes.readUnsigned_eq]
        exact readSomeDigits_eq_ok_iff.mpr ⟨denotes, inside⟩

/-! ## Numbers with a sign -/

theorem Denotes.readSigned_eq {number : Nat} (denotes : Denotes digits number) :
    readSigned 10 digits =
      (readSomeDigits 10 (wordSize 63 - 1) .tooLarge digits).map Int.ofNat := by
  obtain ⟨first, rest, rfl, isDigit⟩ := denotes.exists_digit
  unfold readSigned
  split
  · contradiction
  · rename_i same
    cases same
    cases isDigit
  · rename_i same
    cases same
    cases isDigit
  · rfl

theorem map_ofNat_eq_ok_iff {found : Int} :
    (readSomeDigits 10 (wordSize 63 - 1) .tooLarge digits).map Int.ofNat = .ok found ↔
      ∃ size : Nat, Denotes digits size ∧ size < wordSize 63 ∧ size = found := by
  have bound (size : Nat) : size ≤ wordSize 63 - 1 ↔ size < wordSize 63 := by
    have positive := wordSize_pos 63
    omega
  constructor
  · intro read
    obtain ⟨size, inner, same⟩ := exists_of_map_eq_ok read
    obtain ⟨denotes, inside⟩ := readSomeDigits_eq_ok_iff.mp inner
    exact ⟨size, denotes, (bound size).mp inside, same⟩
  · rintro ⟨size, denotes, inside, rfl⟩
    rw [readSomeDigits_eq_ok_iff.mpr ⟨denotes, (bound size).mpr inside⟩]
    rfl

/-- **Numbers of 64 bits are read from exactly their numerals with a sign.** -/
theorem readSigned_eq_ok_iff {found : Int} :
    readSigned 10 characters = .ok found ↔
      WritesSigned characters found ∧ -(wordSize 63 : Int) ≤ found ∧ found < wordSize 63 := by
  constructor
  · intro read
    unfold readSigned at read
    split at read
    · cases read
    · obtain ⟨size, denotes, inside, rfl⟩ := map_ofNat_eq_ok_iff.mp read
      exact ⟨.positive (.plus denotes), by omega⟩
    · obtain ⟨value, signed, rfl⟩ := exists_of_map_eq_ok read
      obtain ⟨size, inner, same⟩ := exists_of_bind_eq_ok signed
      cases same
      obtain ⟨denotes, inside⟩ := readSomeDigits_eq_ok_iff.mp inner
      have positive := wordSize_pos 63
      exact ⟨.negative denotes, by omega⟩
    · obtain ⟨size, denotes, inside, rfl⟩ := map_ofNat_eq_ok_iff.mp read
      exact ⟨.positive (.bare denotes), by omega⟩
  · rintro ⟨writes, least, most⟩
    cases writes with
    | negative denotes =>
        rename_i digits size
        have read : readSomeDigits 10 (wordSize 63) .tooSmall digits = .ok size :=
          readSomeDigits_eq_ok_iff.mpr ⟨denotes, by omega⟩
        simp only [readSigned, read]
        rfl
    | positive writes =>
        rename_i size
        have inside : size < wordSize 63 := Int.ofNat_lt.mp most
        cases writes with
        | plus denotes => exact map_ofNat_eq_ok_iff.mpr ⟨size, denotes, inside, rfl⟩
        | bare denotes =>
            rw [denotes.readSigned_eq]
            exact map_ofNat_eq_ok_iff.mpr ⟨size, denotes, inside, rfl⟩

end Provision.Number
