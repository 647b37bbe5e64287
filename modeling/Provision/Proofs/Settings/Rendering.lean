import Provision.Proofs.Json.Spelling
import Provision.Proofs.Number.Numeral
import Provision.Settings.Environment
import Provision.Settings.Loading

/-!
# What a text comes out as

The type of a value from the environment is guessed from its text, and where a setting asks for a
text, the value is written again. A text comes out as the truth value, the whole number of 64 bits
or the floating point number that it spells, in the one form in which that is written, and as itself
if it spells none of them (`textOf?_spelled_iff`). So it comes out unchanged if it has that form
already, and only then (`rendered_self_iff`): zeros and a plus sign in front of a number are lost,
as are zeros behind its point, its exponent, the sign of a whole zero and the case of a truth value.
-/

set_option autoImplicit false

namespace Provision.Settings

open Number (Binary64 WritesSigned decimal readSigned readSigned_decimal readSigned_eq_ok_iff
  wordSize)

variable {text shown : String} {flag : Bool} {whole : Int} {number : Binary64}

/-! ## What a text spells -/

/-- The text of a truth value. -/
def flagText (flag : Bool) : String := if flag then "true" else "false"

/-- The text is a truth value, in any case of its letters. -/
def SpellsFlag (text : String) (flag : Bool) : Prop :=
  Text.lower text = flagText flag

/-- The text is a whole number of 64 bits, with or without a sign. -/
structure SpellsWhole (text : String) (number : Int) : Prop where
  writes : WritesSigned text.toList number
  least : -(wordSize 63 : Int) ≤ number
  most : number < wordSize 63

/-- The text is a floating point number. -/
def SpellsFloat (text : String) (number : Binary64) : Prop :=
  Binary64.read? text.toList = some number

/-- The text spells no value of another type. -/
structure IsWord (text : String) : Prop where
  flagless (flag : Bool) : ¬ SpellsFlag text flag
  wholeless (whole : Int) : ¬ SpellsWhole text whole
  floatless (number : Binary64) : ¬ SpellsFloat text number

theorem readSigned_iff : readSigned 10 text.toList = .ok whole ↔ SpellsWhole text whole :=
  readSigned_eq_ok_iff.trans
    ⟨fun ⟨writes, least, most⟩ => ⟨writes, least, most⟩,
      fun spells => ⟨spells.writes, spells.least, spells.most⟩⟩

/-- A whole number has a digit, and so it is no truth value. -/
theorem SpellsWhole.flagless (spells : SpellsWhole text whole) (flag : Bool) :
    ¬ SpellsFlag text flag := by
  intro same
  obtain ⟨digit, member, isDigit⟩ := spells.writes.exists_digit
  have kept : digit ∈ (Text.lower text).toList := by
    rw [Text.lower, String.toList_ofList]
    exact Text.mem_lowerFrom isDigit member []
  have letters : (flagText flag).toList.all (fun character => !character.isDigit) = true := by
    cases flag <;> rfl
  rw [same] at kept
  have other := List.all_eq_true.mp letters digit kept
  rw [isDigit] at other
  cases other

/-! ## Guesses -/

theorem spelled_of_flag (spells : SpellsFlag text flag) : spelled text = .bool flag := by
  have same : Text.lower text = flagText flag := spells
  unfold spelled
  rw [same]
  cases flag <;> rfl

theorem spelled_of_flagless (flagless : ∀ flag, ¬ SpellsFlag text flag) :
    spelled text =
      match readSigned 10 text.toList with
      | .ok value => .whole value
      | .error _ =>
          match Binary64.read? text.toList with
          | some value => .float value
          | none => .text text := by
  have noTrue : ¬ (Text.lower text == "true") = true :=
    fun same => flagless true (beq_iff_eq.mp same)
  have noFalse : ¬ (Text.lower text == "false") = true :=
    fun same => flagless false (beq_iff_eq.mp same)
  exact (if_neg noTrue).trans (if_neg noFalse)

theorem spelled_of_whole (spells : SpellsWhole text whole) : spelled text = .whole whole := by
  rw [spelled_of_flagless spells.flagless, readSigned_iff.mpr spells]

theorem spelled_of_wholeless (flagless : ∀ flag, ¬ SpellsFlag text flag)
    (wholeless : ∀ whole, ¬ SpellsWhole text whole) :
    spelled text =
      match Binary64.read? text.toList with
      | some value => .float value
      | none => .text text := by
  rw [spelled_of_flagless flagless]
  cases read : readSigned 10 text.toList with
  | ok whole => exact absurd (readSigned_iff.mp read) (wholeless whole)
  | error fault => rfl

/-! ## Texts that come out -/

/-- What the text comes out as. -/
inductive Rendered (text : String) : String → Prop where
  | flag {flag : Bool} (spells : SpellsFlag text flag) : Rendered text (flagText flag)
  | whole {whole : Int} (spells : SpellsWhole text whole) : Rendered text (decimal whole)
  | float {number : Binary64} (flagless : ∀ flag, ¬ SpellsFlag text flag)
      (wholeless : ∀ whole, ¬ SpellsWhole text whole) (spells : SpellsFloat text number) :
      Rendered text number.plainText
  | itself (word : IsWord text) : Rendered text text

theorem textOf?_of_rendered (rendered : Rendered text shown) :
    textOf? (spelled text) = some shown := by
  cases rendered with
  | flag spells =>
      rw [spelled_of_flag spells]
      rfl
  | whole spells =>
      rename_i whole
      have small : ¬ (wordSize 63 : Int) ≤ whole := Int.not_le.mpr spells.most
      rw [spelled_of_whole spells, textOf?, inRange, if_neg small]
  | float flagless wholeless spells =>
      rw [spelled_of_wholeless flagless wholeless, spells]
      rfl
  | itself word =>
      rw [spelled_of_wholeless word.flagless word.wholeless]
      cases read : Binary64.read? text.toList with
      | some number => exact absurd read (word.floatless number)
      | none => rfl

/-- Every text comes out as something. -/
theorem exists_rendered (text : String) : ∃ shown, Rendered text shown := by
  by_cases flagged : ∃ flag, SpellsFlag text flag
  · obtain ⟨flag, spells⟩ := flagged
    exact ⟨_, .flag spells⟩
  by_cases counted : ∃ whole, SpellsWhole text whole
  · obtain ⟨whole, spells⟩ := counted
    exact ⟨_, .whole spells⟩
  have flagless := not_exists.mp flagged
  have wholeless := not_exists.mp counted
  cases read : Binary64.read? text.toList with
  | some number => exact ⟨_, .float flagless wholeless read⟩
  | none =>
      refine ⟨text, .itself ⟨flagless, wholeless, fun number spells => ?_⟩⟩
      rw [SpellsFloat, read] at spells
      cases spells

/-- **A text comes out as what it spells, in the form in which that is written.** -/
theorem textOf?_spelled_iff : textOf? (spelled text) = some shown ↔ Rendered text shown := by
  refine ⟨fun out => ?_, textOf?_of_rendered⟩
  obtain ⟨other, rendered⟩ := exists_rendered text
  rw [textOf?_of_rendered rendered] at out
  cases out
  exact rendered

example : textOf? (spelled "+1e3") = some "1000" := by decide +kernel

/-! ## Texts that are not changed -/

/-- The text has the form in which what it spells is written. -/
inductive Kept (text : String) : Prop where
  | flag {flag : Bool} (same : text = flagText flag)
  | whole {whole : Int} (least : -(wordSize 63 : Int) ≤ whole) (most : whole < wordSize 63)
      (same : text = decimal whole)
  | float {number : Binary64} (flagless : ∀ flag, ¬ SpellsFlag text flag)
      (wholeless : ∀ whole, ¬ SpellsWhole text whole) (spells : SpellsFloat text number)
      (same : text = number.plainText)
  | itself (word : IsWord text)

theorem Kept.of_rendered (rendered : Rendered text shown) (same : shown = text) : Kept text := by
  cases rendered with
  | flag spells => exact .flag same.symm
  | whole spells => exact .whole spells.least spells.most same.symm
  | float flagless wholeless spells => exact .float flagless wholeless spells same.symm
  | itself word => exact .itself word

/-- **A text comes out unchanged if it has the form in which it is written**, and only then. -/
theorem rendered_self_iff : Rendered text text ↔ Kept text := by
  refine ⟨fun rendered => .of_rendered rendered rfl, fun kept => ?_⟩
  cases kept with
  | flag same =>
      rename_i flag
      subst same
      have spells : SpellsFlag (flagText flag) flag := by cases flag <;> rfl
      exact .flag spells
  | whole least most same =>
      subst same
      exact .whole (readSigned_iff.mp (readSigned_decimal least most))
  | float flagless wholeless spells same =>
      have rendered : Rendered text _ := .float flagless wholeless spells
      rwa [← same] at rendered
  | itself word => exact .itself word

/-! ## Something comes out of something -/

theorem decimal_ne_empty (whole : Int) : decimal whole ≠ "" := by
  intro empty
  obtain ⟨digit, member, -⟩ := Json.hasDigit_decimal whole
  rw [empty] at member
  exact List.not_mem_nil member

theorem ofList_append_ne_empty (sign : List Char) {body : List Char} (something : body ≠ []) :
    String.ofList (sign ++ body) ≠ "" := by
  intro empty
  have none : sign ++ body = [] := by
    rw [← String.toList_ofList (l := sign ++ body), empty]
    rfl
  exact something (List.append_eq_nil_iff.mp none).2

theorem plainText_ne_empty (number : Binary64) : number.plainText ≠ "" := by
  unfold Binary64.plainText
  cases number.view with
  | notANumber => decide
  | infinite negative => cases negative <;> decide
  | finite negative mantissa exponent =>
      dsimp only
      split
      · exact ofList_append_ne_empty _ (by simp)
      · refine ofList_append_ne_empty _ ?_
        split
        · intro empty
          exact Nat.toDigits_ne_nil (List.append_eq_nil_iff.mp empty).1
        · exact List.ne_nil_of_mem (Number.point_mem_pointAfter _ _)

/-- Nothing comes out of no text alone. -/
theorem Rendered.ne_empty (rendered : Rendered text shown) (something : text ≠ "") :
    shown ≠ "" := by
  cases rendered with
  | flag spells =>
      rename_i flag
      cases flag <;> decide
  | whole spells => exact decimal_ne_empty _
  | float flagless wholeless spells => exact plainText_ne_empty _
  | itself word => exact something

end Provision.Settings
