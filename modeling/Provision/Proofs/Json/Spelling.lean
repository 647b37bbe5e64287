import Provision.Json.Lenient
import Provision.Json.Printer
import Provision.Proofs.Json.Agreement
import Provision.Proofs.Number.Written
import Provision.Proofs.Text.Blanks

/-!
# Scalars that are given as text

A boolean or a number may stand in a declaration as a string that holds its JSON text
(`Json.Quoted`). The two forms are read by different rules, and they are read alike: as the same
value if the wanted type has it, and else not at all. This holds for lenient booleans
(`decodeLenientFlag_quoted`) and for lenient numbers of any width (`decodeLenientNumber_quoted`),
for every scalar, of the wanted type or of another one.

Both rest on what can stand in the text of a scalar: it is a word of JSON or it has a digit, and a
whole number with nothing but digits and a sign is read as that number.
-/

set_option autoImplicit false

namespace Provision.Json

open Number (decimal)
open Text (lower mem_lowerFrom mem_trimChars trim trimChars trimChars_eq_self)

/-! ## The text of a scalar -/

/-- The value is a boolean or a number. -/
def IsScalar : Json → Prop
  | .bool _ | .whole _ | .float _ => True
  | _ => False

/-- The second value is a string that holds the JSON text of the first one, a scalar. -/
def Quoted (value other : Json) : Prop :=
  value.IsScalar ∧ other = .text value.compact

theorem compact_whole (number : Int) : compact (.whole number) = decimal number := by
  simp [compact, writeOnto]

theorem compact_float (number : Number.Binary64) : compact (.float number) = number.jsonText := by
  simp [compact, writeOnto]

/-- The text has a digit. -/
def HasDigit (given : String) : Prop :=
  ∃ digit ∈ given.toList, digit.isDigit = true

theorem hasDigit_decimal (number : Int) : HasDigit (decimal number) := by
  cases number with
  | ofNat size =>
      obtain ⟨digit, rest, shape, isDigit⟩ := Number.exists_toDigits_eq_cons size
      exact ⟨digit, by simp [decimal, shape], isDigit⟩
  | negSucc size =>
      obtain ⟨digit, rest, shape, isDigit⟩ := Number.exists_toDigits_eq_cons (size + 1)
      exact ⟨digit, by simp [decimal, shape], isDigit⟩

/-- A digit survives trimming and lower case. -/
theorem hasDigit_lower_trim {given : String} (shown : HasDigit given) :
    HasDigit (lower (trim given)) := by
  obtain ⟨digit, member, isDigit⟩ := shown
  refine ⟨digit, ?_, isDigit⟩
  rw [lower, trim, String.toList_ofList, String.toList_ofList]
  exact mem_lowerFrom isDigit (mem_trimChars (Text.isBlank_of_isDigit isDigit) member) []

/-- Whole numbers have no blanks to trim. -/
theorem trimChars_decimal (number : Int) :
    trimChars (decimal number).toList = (decimal number).toList := by
  refine trimChars_eq_self fun character member => ?_
  cases number with
  | ofNat size =>
      rw [decimal, String.toList_ofList] at member
      exact Text.isBlank_of_isDigit (Number.isDigit_of_mem_toDigits member)
  | negSucc size =>
      rw [decimal, String.toList_ofList] at member
      rcases List.mem_cons.mp member with rfl | digit
      · rfl
      · exact Text.isBlank_of_isDigit (Number.isDigit_of_mem_toDigits digit)

/-! ## Booleans -/

namespace Codec

/-- A text with a digit is no boolean. -/
theorem exists_error_lenientFlag {given : String} (shown : HasDigit given) :
    ∃ fault, decodeLenientFlag (.text given) = .error fault := by
  have other (word : String) (plain : ¬ HasDigit word) : (lower (trim given) == word) = false := by
    refine beq_eq_false_iff_ne.mpr ?_
    rintro rfl
    exact plain (hasDigit_lower_trim shown)
  have wordless (word : String) (letters : word.toList.all (fun character => !character.isDigit)) :
      ¬ HasDigit word := by
    rintro ⟨digit, member, isDigit⟩
    have letter := List.all_eq_true.mp letters digit member
    rw [isDigit] at letter
    cases letter
  simp only [decodeLenientFlag, other "true" (wordless _ (by decide)),
    other "false" (wordless _ (by decide)), other "" (wordless _ (by decide))]
  exact ⟨_, rfl⟩

/-- **A scalar and its text are read as the same boolean, or neither as one.** -/
theorem decodeLenientFlag_quoted {value other : Json} (quoted : Quoted value other) :
    Agree (decodeLenientFlag value) (decodeLenientFlag other) := by
  obtain ⟨scalar, rfl⟩ := quoted
  cases value with
  | bool flag => cases flag <;> rfl
  | whole number =>
      obtain ⟨fault, refused⟩ := exists_error_lenientFlag (hasDigit_decimal number)
      rw [compact_whole, refused]
      exact agree_error _ _
  | float number =>
      rw [compact_float]
      rcases number.jsonText_cases with word | ⟨shown, -⟩
      · rw [word]
        exact agree_error _ _
      · obtain ⟨fault, refused⟩ := exists_error_lenientFlag shown
        rw [refused]
        exact agree_error _ _
  | _ => cases scalar

/-! ## Numbers -/

/-- A text is no unsigned number if it has a visible character that is neither a digit nor a
plus. -/
theorem exists_error_lenientNumber (bits : Nat) {given : String} {character : Char}
    (member : character ∈ given.toList) (visible : Text.isBlank character = false)
    (noDigit : character.isDigit = false) (noSign : character ≠ '+') :
    ∃ fault, decodeLenientNumber bits (.text given) = .error fault := by
  simp only [decodeLenientNumber]
  cases read : Number.readUnsigned (Number.wordSize bits - 1) (trimChars given.toList) with
  | error fault => exact ⟨_, rfl⟩
  | ok found =>
      rcases Number.plain_of_readUnsigned read character (mem_trimChars visible member) with
        digit | sign
      · rw [noDigit] at digit
        cases digit
      · exact absurd sign noSign

/-- **A scalar and its text are read as the same number, or neither as one.** -/
theorem decodeLenientNumber_quoted (bits : Nat) {value other : Json}
    (quoted : Quoted value other) :
    Agree (decodeLenientNumber bits value) (decodeLenientNumber bits other) := by
  obtain ⟨scalar, rfl⟩ := quoted
  cases value with
  | bool flag =>
      have letter : 'e' ∈ (compact (.bool flag)).toList := by cases flag <;> decide
      obtain ⟨fault, refused⟩ := exists_error_lenientNumber bits letter rfl rfl (by decide)
      rw [refused]
      exact agree_error _ _
  | whole number =>
      rw [compact_whole]
      cases number with
      | ofNat size =>
          have bound : size ≤ Number.wordSize bits - 1 ↔ size < Number.wordSize bits := by
            have positive := Number.wordSize_pos bits
            omega
          have digits : trimChars (decimal (.ofNat size)).toList = Nat.toDigits 10 size :=
            (trimChars_decimal _).trans String.toList_ofList
          simp only [decodeLenientNumber, digits, Number.readUnsigned_toDigits, bound]
          split <;> rfl
      | negSucc size =>
          have minus : '-' ∈ (decimal (.negSucc size)).toList := by simp [decimal]
          obtain ⟨fault, refused⟩ := exists_error_lenientNumber bits minus rfl rfl (by decide)
          rw [refused]
          exact agree_error _ _
  | float number =>
      rw [compact_float]
      obtain ⟨mark, member, visible, noDigit, noSign⟩ : ∃ mark ∈ number.jsonText.toList,
          Text.isBlank mark = false ∧ mark.isDigit = false ∧ mark ≠ '+' := by
        rcases number.jsonText_cases with word | ⟨-, mark, member, rfl | rfl⟩
        · exact ⟨'n', by rw [word]; decide, rfl, rfl, by decide⟩
        · exact ⟨_, member, rfl, rfl, by decide⟩
        · exact ⟨_, member, rfl, rfl, by decide⟩
      obtain ⟨fault, refused⟩ := exists_error_lenientNumber bits member visible noDigit noSign
      rw [refused]
      exact agree_error _ _
  | _ => cases scalar

end Codec

end Provision.Json
