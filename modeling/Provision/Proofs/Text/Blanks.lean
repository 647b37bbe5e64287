import Mathlib.Data.List.DropRight
import Mathlib.Data.List.TakeWhile
import Provision.Proofs.Text.Casing
import Provision.Text.Blank
import Provision.Text.Pieces

/-!
# Blanks are removed once

A text that has been trimmed has no blanks at its ends any more, so that it is not changed by
trimming it again (`trimChars_trimChars`), and nothing visible is trimmed away (`mem_trimChars`):
what is trimmed away are the blanks around what is left (`exists_blanks_around`,
`trimChars_between`). And where all blanks of a text are removed, those that had been put between
its parts leave no trace (`toList_removeBlanks_joined`).
-/

set_option autoImplicit false

namespace Provision.Text

/-! ## Trimming -/

/-- **To trim a text again does not change it.** -/
theorem trimChars_trimChars (characters : List Char) :
    trimChars (trimChars characters) = trimChars characters := by
  have visible := List.dropWhile_eq_self_iff.mp (List.dropWhile_idempotent isBlank characters)
  have front : trimChars characters <+: trimStart characters := List.rdropWhile_prefix isBlank _
  have start : trimStart (trimChars characters) = trimChars characters := by
    refine List.dropWhile_eq_self_iff.mpr fun something => ?_
    rw [front.getElem something]
    exact visible (Nat.lt_of_lt_of_le something front.length_le)
  show trimEnd (trimStart (trimChars characters)) = trimChars characters
  rw [start]
  exact List.rdropWhile_idempotent isBlank _

theorem trim_trim (text : String) : trim (trim text) = trim text := by
  rw [trim, trim, String.toList_ofList, trimChars_trimChars]

theorem isBlank_of_isDigit {character : Char} (digit : character.isDigit = true) :
    isBlank character = false := by
  have code := (isDigit_iff character).mp digit
  simp [isBlank]
  omega

theorem isBlank_of_isAlpha {character : Char} (letter : character.isAlpha = true) :
    isBlank character = false := by
  have code := (isAlpha_iff character).mp letter
  simp [isBlank]
  omega

theorem mem_dropWhile_isBlank {character : Char} {characters : List Char}
    (visible : isBlank character = false) (member : character ∈ characters) :
    character ∈ characters.dropWhile isBlank := by
  rw [← List.takeWhile_append_dropWhile (p := isBlank) (l := characters)] at member
  rcases List.mem_append.mp member with front | behind
  · rw [List.mem_takeWhile_imp front] at visible
    cases visible
  · exact behind

/-- What is visible in a text is not trimmed away. -/
theorem mem_trimChars {character : Char} {characters : List Char}
    (visible : isBlank character = false) (member : character ∈ characters) :
    character ∈ trimChars characters :=
  List.mem_reverse.mpr <| mem_dropWhile_isBlank visible <| List.mem_reverse.mpr <|
    mem_dropWhile_isBlank visible member

/-- A text of visible characters only is not trimmed. -/
theorem trimChars_eq_self {characters : List Char}
    (visible : ∀ character ∈ characters, isBlank character = false) :
    trimChars characters = characters := by
  have dropped {run : List Char} (visible : ∀ character ∈ run, isBlank character = false) :
      run.dropWhile isBlank = run := by
    cases run with
    | nil => rfl
    | cons first rest => rw [List.dropWhile_cons, visible first List.mem_cons_self]; rfl
  rw [trimChars, trimStart, dropped visible, trimEnd,
    dropped fun character member => visible character (List.mem_reverse.mp member),
    List.reverse_reverse]

/-- A text is what is left of it when it is trimmed, with blanks in front and behind. -/
theorem exists_blanks_around (characters : List Char) :
    ∃ front back, characters = front ++ trimChars characters ++ back ∧
      (∀ character ∈ front, isBlank character = true) ∧
      ∀ character ∈ back, isBlank character = true := by
  refine ⟨characters.takeWhile isBlank, (trimStart characters).rtakeWhile isBlank, ?_,
    fun _ => List.mem_takeWhile_imp, fun _ => List.mem_rtakeWhile_imp⟩
  have behind : trimChars characters ++ (trimStart characters).rtakeWhile isBlank =
      trimStart characters := List.rdropWhile_append_rtakeWhile
  rw [List.append_assoc, behind]
  exact List.takeWhile_append_dropWhile.symm

/-- Blanks in front and behind are trimmed away, whatever stands between them. -/
theorem trimChars_between {front back : List Char} (middle : List Char)
    (before : ∀ character ∈ front, isBlank character = true)
    (behind : ∀ character ∈ back, isBlank character = true) :
    trimChars (front ++ middle ++ back) = trimChars middle := by
  have dropped {run : List Char} (rest : List Char)
      (blank : ∀ character ∈ run, isBlank character = true) :
      (run ++ rest).dropWhile isBlank = rest.dropWhile isBlank :=
    List.dropWhile_append_of_pos blank
  have reversed : ∀ character ∈ back.reverse, isBlank character = true :=
    fun character member => behind character (List.mem_reverse.mp member)
  unfold trimChars trimStart trimEnd
  rw [List.append_assoc, dropped _ before, List.dropWhile_append]
  split
  · rename_i nothing
    rw [List.isEmpty_iff.mp nothing, List.dropWhile_eq_nil_iff.mpr behind]
  · rw [List.reverse_append, dropped _ reversed]

/-! ## Removing all blanks -/

theorem removeBlanks_append (first second : String) :
    removeBlanks (first ++ second) = removeBlanks first ++ removeBlanks second := by
  simp [removeBlanks, String.toList_append, List.filter_append, String.ofList_append]

/-- A text of visible characters only is not changed. -/
theorem removeBlanks_ofList {characters : List Char}
    (visible : ∀ character ∈ characters, isBlank character = false) :
    removeBlanks (String.ofList characters) = String.ofList characters := by
  rw [removeBlanks, String.toList_ofList, List.filter_eq_self.mpr]
  intro character inside
  simp [visible character inside]

/-- **Of texts that are joined by blanks, exactly what was visible in them is left.** -/
theorem toList_removeBlanks_joined {separator : String} (blank : removeBlanks separator = "")
    (texts : List String) :
    (removeBlanks (joined separator texts)).toList =
      texts.flatMap fun text => (removeBlanks text).toList := by
  induction texts with
  | nil => rfl
  | cons text others ih =>
      cases others with
      | nil => simp [joined]
      | cons next more =>
          rw [joined, removeBlanks_append, removeBlanks_append, blank, String.append_empty,
            String.toList_append, ih]
          simp only [List.flatMap_cons]

end Provision.Text
