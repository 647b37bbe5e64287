import Provision.Json.Lenient
import Provision.Proofs.Number.Numeral
import Provision.Proofs.Text.Blanks

/-!
# What lenient numbers are read from

A declaration states a number by the number itself, or by a text: the digits of the number, one plus
sign in front of them or none, and any blanks around both (`States`). Partition counts, replication
factors and limits of time are read from exactly the values that state a number which fits the word
(`numbers_read_exactly`). So no number is wrapped or cut off: one that is too large for its word is
refused, as is every value that states no number.
-/

set_option autoImplicit false

namespace Provision.Json

open Number (Writes wordSize)
open Text (exists_blanks_around isBlank trimChars trimChars_between trimChars_eq_self)

/-! ## Texts -/

/-- The text writes the number, with blanks around it or without. -/
def Spells (given : String) (number : Nat) : Prop :=
  ∃ front middle back, given.toList = front ++ middle ++ back ∧ Writes middle number ∧
    (∀ character ∈ front, isBlank character = true) ∧ ∀ character ∈ back, isBlank character = true

/-- There are no blanks in a written number. -/
theorem visible_of_writes {characters : List Char} {number : Nat}
    (writes : Writes characters number) : ∀ character ∈ characters, isBlank character = false := by
  cases writes with
  | bare denotes =>
      exact fun character member => Text.isBlank_of_isDigit (denotes.digit character member)
  | plus denotes =>
      refine List.forall_mem_cons.mpr ⟨rfl, fun character member => ?_⟩
      exact Text.isBlank_of_isDigit (denotes.digit character member)

/-- A text spells the number that is written between its blanks. -/
theorem spells_iff {given : String} {number : Nat} :
    Spells given number ↔ Writes (trimChars given.toList) number := by
  constructor
  · rintro ⟨front, middle, back, shape, writes, before, behind⟩
    rw [shape, trimChars_between middle before behind, trimChars_eq_self (visible_of_writes writes)]
    exact writes
  · intro writes
    obtain ⟨front, back, shape, before, behind⟩ := exists_blanks_around given.toList
    exact ⟨front, _, back, shape, writes, before, behind⟩

/-! ## Values -/

/-- The value states the number, by the number itself or by a text. -/
inductive States : Json → Nat → Prop where
  | itself (number : Nat) : States (.whole number) number
  | spelled {given : String} {number : Nat} (spells : Spells given number) :
      States (.text given) number

theorem states_whole_iff {whole : Int} {number : Nat} :
    States (.whole whole) number ↔ whole = number := by
  constructor
  · rintro ⟨⟩
    rfl
  · rintro rfl
    exact .itself number

theorem states_text_iff {given : String} {number : Nat} :
    States (.text given) number ↔ Spells given number :=
  ⟨fun stated => by cases stated; assumption, .spelled⟩

namespace Codec

variable {bits number : Nat} {value : Json}

/-- A text is read as the number that it spells, if that fits the word. -/
theorem decodeLenientNumber_text_iff {given : String} :
    decodeLenientNumber bits (.text given) = .ok number ↔
      Spells given number ∧ number < wordSize bits := by
  have bound : number ≤ wordSize bits - 1 ↔ number < wordSize bits := by
    have positive := Number.wordSize_pos bits
    omega
  rw [spells_iff, ← bound, ← Number.readUnsigned_eq_ok_iff]
  unfold decodeLenientNumber
  dsimp only
  cases Number.readUnsigned (wordSize bits - 1) (trimChars given.toList) with
  | error fault => simp
  | ok found => simp

/-- A whole number is read as itself, if it has no sign and fits the word. -/
theorem decodeLenientNumber_whole_iff {whole : Int} :
    decodeLenientNumber bits (.whole whole) = .ok number ↔
      whole = number ∧ number < wordSize bits := by
  cases whole with
  | negSucc size => simp [decodeLenientNumber]
  | ofNat size =>
      unfold decodeLenientNumber
      dsimp only
      split
      · rename_i fits
        simp only [Except.ok.injEq, Int.ofNat_eq_natCast, Int.natCast_inj]
        exact ⟨fun same => ⟨same, same ▸ fits⟩, And.left⟩
      · rename_i large
        simp only [Int.ofNat_eq_natCast, Int.natCast_inj, reduceCtorEq, false_iff, not_and]
        rintro rfl
        exact large

theorem decodeLenientNumber_eq_ok_iff :
    decodeLenientNumber bits value = .ok number ↔ States value number ∧ number < wordSize bits := by
  cases value with
  | whole whole => rw [states_whole_iff, decodeLenientNumber_whole_iff]
  | text given => rw [states_text_iff, decodeLenientNumber_text_iff]
  | null | bool | float | list | object =>
      refine iff_of_false (by simp [decodeLenientNumber]) ?_
      rintro ⟨stated, -⟩
      cases stated

/-- **A number of so many bits is read from exactly the values that state it**, and every value that
states none of them is refused. -/
theorem numbers_read_exactly (bits : Nat) (value : Json) :
    (∀ number, (lenientNumber bits).decode value = .ok number ↔
      States value number ∧ number < wordSize bits) ∧
      ((∃ number, States value number ∧ number < wordSize bits) ∨
        ∃ fault, (lenientNumber bits).decode value = .error fault) := by
  have read (number : Nat) : (lenientNumber bits).decode value = .ok number ↔
      States value number ∧ number < wordSize bits := decodeLenientNumber_eq_ok_iff
  refine ⟨read, ?_⟩
  cases decoded : (lenientNumber bits).decode value with
  | error fault => exact .inr ⟨fault, rfl⟩
  | ok number => exact .inl ⟨number, (read number).mp decoded⟩

example : (lenientNumber 16).decode (.text " +0065535 ") = .ok 65535 := by rfl

example : (lenientNumber 16).decode (.text "65536") =
    .error (.refused Number.WholeFault.tooLarge.message) := by rfl

end Codec

end Provision.Json
