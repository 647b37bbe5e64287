import Provision.Number.Shortest
import Provision.Proofs.Number.Digits
import Provision.Proofs.Result
import Provision.Proofs.Text.Casing

/-!
# Numbers that are read from their text

A whole number is read back from its digits as far as it is allowed (`readUnsigned_toDigits`,
`readSigned_toDigits`, `readSigned_negative`), and a text that is read as a number has nothing but
digits and perhaps a sign (`plain_of_readUnsigned`, `plain_of_readSigned`). The text of a number
with a point is therefore never read as a whole one: it has a digit, but also a point or an exponent
(`Binary64.jsonText_cases`).
-/

set_option autoImplicit false

namespace Provision.Number

/-! ## Digits -/

/-- Of all characters the ten digits have a value in decimal numbers. -/
theorem digitValue_ten (character : Char) :
    digitValue 10 character =
      if character.isDigit then some (character.toNat - '0'.toNat) else none := by
  have code := Text.isDigit_iff character
  unfold digitValue
  by_cases digit : 48 ≤ character.toNat ∧ character.toNat ≤ 57
  · have small : character.toNat - 48 < 10 := by omega
    simp [code, digit, small]
  · simp only [code, digit, if_false, Bool.and_eq_true, decide_eq_true_eq]
    split
    · simp
    · split <;> simp

theorem readDigits_eq {limit value : Nat} {beyond : WholeFault} {digits : List Char}
    (digit : ∀ character ∈ digits, character.isDigit = true) (start : value ≤ limit) :
    readDigits 10 limit beyond value digits =
      if Nat.ofDigitChars 10 digits value ≤ limit then .ok (Nat.ofDigitChars 10 digits value)
      else .error beyond := by
  induction digits generalizing value with
  | nil => simp [readDigits, start]
  | cons first rest ih =>
      obtain ⟨here, there⟩ := List.forall_mem_cons.mp digit
      have step : value * 10 + (first.toNat - '0'.toNat) =
          10 * value + (first.toNat - '0'.toNat) := by
        rw [Nat.mul_comm]
      rw [readDigits, digitValue_ten, if_pos here, Nat.ofDigitChars_cons, ← step]
      dsimp only
      by_cases more : value * 10 + (first.toNat - '0'.toNat) ≤ limit
      · rw [if_neg (Nat.not_lt.mpr more), ih there more]
      · have above := le_ofDigitChars rest (value * 10 + (first.toNat - '0'.toNat))
        rw [if_pos (Nat.lt_of_not_le more), if_neg (by omega)]

theorem isDigit_of_readDigits {limit value found : Nat} {beyond : WholeFault}
    {characters : List Char} (read : readDigits 10 limit beyond value characters = .ok found) :
    ∀ character ∈ characters, character.isDigit = true := by
  induction characters generalizing value with
  | nil => exact fun _ absent => (List.not_mem_nil absent).elim
  | cons first rest ih =>
      rw [readDigits, digitValue_ten] at read
      by_cases digit : first.isDigit = true
      · rw [if_pos digit] at read
        dsimp only at read
        split at read
        · cases read
        · exact List.forall_mem_cons.mpr ⟨digit, ih read⟩
      · rw [if_neg digit] at read
        cases read

/-! ## Whole numbers -/

theorem isDigit_of_mem_toDigits {size : Nat} {character : Char}
    (member : character ∈ Nat.toDigits 10 size) : character.isDigit = true :=
  Nat.isDigit_of_mem_toDigits (by decide) (by decide) member

/-- **The digits of a number are read as the number, as far as it is allowed.** -/
theorem readSomeDigits_toDigits (limit size : Nat) (beyond : WholeFault) :
    readSomeDigits 10 limit beyond (Nat.toDigits 10 size) =
      if size ≤ limit then .ok size else .error beyond := by
  have something : (Nat.toDigits 10 size).isEmpty = false :=
    List.isEmpty_eq_false_iff.mpr Nat.toDigits_ne_nil
  rw [readSomeDigits, something, readDigits_eq (fun _ => isDigit_of_mem_toDigits) (Nat.zero_le _),
    Nat.ofDigitChars_ten_toDigits]
  rfl

/-- What a number is written with begins with a digit. -/
theorem exists_toDigits_eq_cons (size : Nat) :
    ∃ digit rest, Nat.toDigits 10 size = digit :: rest ∧ digit.isDigit = true := by
  cases shape : Nat.toDigits 10 size with
  | nil => exact absurd shape Nat.toDigits_ne_nil
  | cons digit rest =>
      have member : digit ∈ Nat.toDigits 10 size := shape ▸ List.mem_cons_self
      exact ⟨digit, rest, rfl, isDigit_of_mem_toDigits member⟩

theorem readUnsigned_toDigits (limit size : Nat) :
    readUnsigned limit (Nat.toDigits 10 size) =
      if size ≤ limit then .ok size else .error .tooLarge := by
  rw [← readSomeDigits_toDigits]
  obtain ⟨digit, rest, shape, isDigit⟩ := exists_toDigits_eq_cons size
  rw [shape]
  unfold readUnsigned
  split
  · contradiction
  · rename_i same
    cases same
    cases isDigit
  · rfl

theorem readSigned_toDigits (size : Nat) :
    readSigned 10 (Nat.toDigits 10 size) =
      if size < wordSize 63 then .ok (size : Int) else .error .tooLarge := by
  have bound : size ≤ wordSize 63 - 1 ↔ size < wordSize 63 := by
    have positive := wordSize_pos 63
    omega
  have unsigned := readSomeDigits_toDigits (wordSize 63 - 1) size .tooLarge
  obtain ⟨digit, rest, shape, isDigit⟩ := exists_toDigits_eq_cons size
  rw [shape] at unsigned ⊢
  unfold readSigned
  split
  · contradiction
  · rename_i same
    cases same
    cases isDigit
  · rename_i same
    cases same
    cases isDigit
  · rw [unsigned]
    simp only [bound]
    split <;> rfl

theorem readSigned_negative (size : Nat) :
    readSigned 10 ('-' :: Nat.toDigits 10 size) =
      if size ≤ wordSize 63 then .ok (-(size : Int)) else .error .tooSmall := by
  simp only [readSigned, readSomeDigits_toDigits]
  split <;> rfl

/-- **A number with a sign is read back from its text, as far as 64 bits reach.** -/
theorem readSigned_decimal {number : Int} (least : -(wordSize 63 : Int) ≤ number)
    (most : number < wordSize 63) : readSigned 10 (decimal number).toList = .ok number := by
  cases number with
  | ofNat size =>
      rw [decimal, String.toList_ofList, readSigned_toDigits, if_pos (Int.ofNat_lt.mp most)]
      rfl
  | negSucc size =>
      rw [decimal, String.toList_ofList, readSigned_negative, if_pos (by omega)]
      rfl

theorem exists_error_readSigned_decimal {number : Int}
    (outside : ¬ (-(wordSize 63 : Int) ≤ number ∧ number < wordSize 63)) :
    ∃ fault, readSigned 10 (decimal number).toList = .error fault := by
  cases number with
  | ofNat size =>
      have large : ¬ size < wordSize 63 := by
        rw [Int.ofNat_eq_natCast] at outside
        omega
      rw [decimal, String.toList_ofList, readSigned_toDigits, if_neg large]
      exact ⟨_, rfl⟩
  | negSucc size =>
      rw [decimal, String.toList_ofList, readSigned_negative, if_neg (by omega)]
      exact ⟨_, rfl⟩

/-- A text that is read as a number has nothing but digits and perhaps a sign. -/
theorem plain_of_readUnsigned {limit found : Nat} {characters : List Char}
    (read : readUnsigned limit characters = .ok found) :
    ∀ character ∈ characters, character.isDigit = true ∨ character = '+' := by
  have digits {run : List Char} (read : readSomeDigits 10 limit .tooLarge run = .ok found) :
      ∀ character ∈ run, character.isDigit = true ∨ character = '+' := by
    unfold readSomeDigits at read
    split at read
    · cases read
    · exact fun character member => .inl (isDigit_of_readDigits read character member)
  unfold readUnsigned at read
  split at read
  · cases read
  · exact List.forall_mem_cons.mpr ⟨.inr rfl, digits read⟩
  · exact digits read

theorem plain_of_readSigned {found : Int} {characters : List Char}
    (read : readSigned 10 characters = .ok found) :
    ∀ character ∈ characters, character.isDigit = true ∨ character = '+' ∨ character = '-' := by
  have digits {limit size : Nat} {beyond : WholeFault} {run : List Char}
      (read : readSomeDigits 10 limit beyond run = .ok size) :
      ∀ character ∈ run, character.isDigit = true ∨ character = '+' ∨ character = '-' := by
    unfold readSomeDigits at read
    split at read
    · cases read
    · exact fun character member => .inl (isDigit_of_readDigits read character member)
  unfold readSigned at read
  split at read
  · cases read
  · obtain ⟨size, inner, -⟩ := exists_of_map_eq_ok read
    exact List.forall_mem_cons.mpr ⟨.inr (.inl rfl), digits inner⟩
  · obtain ⟨value, signed, -⟩ := exists_of_map_eq_ok read
    obtain ⟨size, inner, -⟩ := exists_of_bind_eq_ok signed
    exact List.forall_mem_cons.mpr ⟨.inr (.inr rfl), digits inner⟩
  · obtain ⟨size, inner, -⟩ := exists_of_map_eq_ok read
    exact digits inner

/-! ## Numbers with a point -/

theorem point_mem_pointAfter (digits : List Char) (whole : Int) :
    '.' ∈ pointAfter digits whole := by
  unfold pointAfter
  split
  · dsimp only
    split <;> simp
  · simp

/-- A number has a digit on either side of the point, or zeros. -/
theorem exists_digit_pointAfter {digits : List Char} (something : digits ≠ [])
    (digit : ∀ character ∈ digits, character.isDigit = true) (whole : Int) :
    ∃ character ∈ pointAfter digits whole, character.isDigit = true := by
  unfold pointAfter
  split
  · dsimp only
    split
    · exact ⟨'0', List.mem_cons_self, rfl⟩
    · rename_i size positive
      cases digits with
      | nil => exact absurd rfl something
      | cons first rest =>
          refine ⟨first, List.mem_append_left _ ?_, digit first List.mem_cons_self⟩
          cases size with
          | zero => simp at positive
          | succ size => simp
  · exact ⟨'0', by simp, rfl⟩

/-- **The text of a number with a point has a digit and a point or an exponent**, unless there is no
number to write. -/
theorem Binary64.jsonText_cases (number : Binary64) :
    number.jsonText = "null" ∨
      (∃ character ∈ number.jsonText.toList, character.isDigit = true) ∧
        ∃ character ∈ number.jsonText.toList, character = '.' ∨ character = 'e' := by
  unfold Binary64.jsonText
  cases number.view with
  | notANumber => exact .inl rfl
  | infinite negative => exact .inl rfl
  | finite negative mantissa exponent =>
      right
      dsimp only
      split
      · rw [String.toList_ofList]
        exact ⟨⟨'0', by simp, rfl⟩, '.', by simp, .inl rfl⟩
      · generalize shortestDecimal mantissa exponent = shortest
        obtain ⟨value, power⟩ := shortest
        obtain ⟨digit, rest, shape, isDigit⟩ := exists_toDigits_eq_cons value
        have digits : ∀ character ∈ Nat.toDigits 10 value, character.isDigit = true :=
          fun _ => isDigit_of_mem_toDigits
        have signed {body : List Char} (sign : List Char)
            (shown : (∃ character ∈ body, character.isDigit = true) ∧
              ∃ character ∈ body, character = '.' ∨ character = 'e') :
            (∃ character ∈ sign ++ body, character.isDigit = true) ∧
              ∃ character ∈ sign ++ body, character = '.' ∨ character = 'e' := by
          obtain ⟨⟨first, inside, isDigit⟩, mark, among, known⟩ := shown
          exact ⟨⟨first, List.mem_append_right sign inside, isDigit⟩,
            mark, List.mem_append_right sign among, known⟩
        dsimp only
        rw [String.toList_ofList]
        refine signed _ ?_
        split
        · exact ⟨⟨'0', by simp, rfl⟩, '.', List.mem_append_left _ (point_mem_pointAfter _ _),
            .inl rfl⟩
        · split
          · exact ⟨exists_digit_pointAfter Nat.toDigits_ne_nil digits _, '.',
              point_mem_pointAfter _ _, .inl rfl⟩
          · rw [shape]
            cases rest with
            | nil => exact ⟨⟨digit, by simp, isDigit⟩, 'e', by simp, .inr rfl⟩
            | cons next others => exact ⟨⟨digit, by simp, isDigit⟩, 'e', by simp, .inr rfl⟩

end Provision.Number
