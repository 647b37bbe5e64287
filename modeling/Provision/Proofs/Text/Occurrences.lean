import Mathlib.Algebra.GroupWithZero.Nat
import Provision.Text.Pieces

/-!
# Occurrences of a marker in a text

The occurrences of a marker are counted by where they begin, so that those count too that share
characters with each other. Whether one begins in the first part of a text depends on what the text
goes on with (`startsIn`), and seen in this way the counts of two parts add up (`startsIn_append`).
Where none begins in the first part, each occurrence is one in the rest
(`exists_of_startsIn_eq_zero`). No occurrence reaches over a character that the marker does not have,
so those in the lines of a text are all that there are (`occurrences_joined`).
-/

set_option autoImplicit false

namespace Provision.Text

variable {marker rest first : List Char}

/-- How many occurrences of a marker begin in the first part of a text that goes on with `rest`. -/
def startsIn (marker rest : List Char) : List Char → Nat
  | [] => 0
  | character :: others =>
      (if marker <+: character :: (others ++ rest) then 1 else 0) + startsIn marker rest others

/-- How many occurrences of a marker there are in a text. -/
def occurrences (marker text : List Char) : Nat :=
  startsIn marker [] text

theorem startsIn_append (marker rest first second : List Char) :
    startsIn marker rest (first ++ second) =
      startsIn marker (second ++ rest) first + startsIn marker rest second := by
  induction first with
  | nil => simp [startsIn]
  | cons character others ih =>
      simp only [List.cons_append, startsIn, ih, List.append_assoc]
      omega

/-- The occurrences in a text are those that begin in its first part and those in the rest. -/
theorem occurrences_append (marker first rest : List Char) :
    occurrences marker (first ++ rest) = startsIn marker rest first + occurrences marker rest := by
  rw [occurrences, startsIn_append, List.append_nil, occurrences]

/-- A marker is in a text if there is an occurrence of it. -/
theorem occurrences_eq_zero_iff {text : List Char} (something : marker ≠ []) :
    occurrences marker text = 0 ↔ ¬ marker <:+: text := by
  induction text with
  | nil => simp [occurrences, startsIn, something]
  | cons character others ih =>
      have step : occurrences marker (character :: others) =
          (if marker <+: character :: others then 1 else 0) + occurrences marker others := by
        rw [occurrences, startsIn, List.append_nil, occurrences]
      rw [step, List.infix_cons_iff, not_or, ← ih]
      by_cases here : marker <+: character :: others <;> simp [here]

/-- No marker begins in a text without the first character of the marker. -/
theorem startsIn_of_not_mem {character : Char} (free : character ∉ first)
    (marker rest : List Char) : startsIn (character :: marker) rest first = 0 := by
  induction first with
  | nil => rfl
  | cons other others ih =>
      obtain ⟨differs, free⟩ := not_or.mp (mt List.mem_cons.mpr free)
      simp [startsIn, List.cons_prefix_cons, differs, ih free]

/-- **Behind a part in which none begins, the occurrences are those in the rest.** -/
theorem exists_of_startsIn_eq_zero {before behind : List Char}
    (unstarted : startsIn marker rest first = 0)
    (found : first ++ rest = before ++ (marker ++ behind)) :
    ∃ others, before = first ++ others ∧ rest = others ++ (marker ++ behind) := by
  induction first generalizing before with
  | nil => exact ⟨before, rfl, found⟩
  | cons character characters ih =>
      obtain ⟨here, later⟩ := Nat.add_eq_zero_iff.mp unstarted
      cases before with
      | nil =>
          have opens : marker <+: character :: (characters ++ rest) := ⟨behind, found.symm⟩
          simp [opens] at here
      | cons other others =>
          obtain ⟨rfl, behind⟩ := List.cons.inj found
          obtain ⟨remaining, rfl, shape⟩ := ih later behind
          exact ⟨remaining, rfl, shape⟩

/-! ## Lines -/

section Lines

variable {separator : Char} (free : separator ∉ marker)
include free

/-- A marker without a separator ends before the first one. -/
theorem prefix_append_separator_iff :
    marker <+: first ++ separator :: rest ↔ marker <+: first := by
  refine ⟨fun opens => ?_, fun opens => opens.trans (List.prefix_append first _)⟩
  rcases List.prefix_or_prefix_of_prefix opens (List.prefix_append first _) with short | long
  · exact short
  · obtain ⟨others, rfl⟩ := long
    cases others with
    | nil => simp
    | cons character others =>
        obtain ⟨rfl, -⟩ := List.cons_prefix_cons.mp ((List.prefix_append_right_inj first).mp opens)
        simp at free

theorem startsIn_separator : startsIn marker (separator :: rest) first = occurrences marker first := by
  induction first with
  | nil => rfl
  | cons character others ih =>
      simp only [occurrences, startsIn, ih, ← List.cons_append, prefix_append_separator_iff free,
        List.append_nil]

/-- The occurrences on both sides of a separator are all that there are. -/
theorem occurrences_append_separator (something : marker ≠ []) (first rest : List Char) :
    occurrences marker (first ++ separator :: rest) =
      occurrences marker first + occurrences marker rest := by
  have apart : ¬ marker <+: separator :: rest := fun opens => by
    have opens : marker <+: [] ++ separator :: rest := opens
    exact something (List.prefix_nil.mp ((prefix_append_separator_iff free).mp opens))
  have behind : occurrences marker (separator :: rest) = occurrences marker rest := by
    rw [occurrences, startsIn, List.append_nil, if_neg apart, Nat.zero_add, occurrences]
  rw [occurrences_append, startsIn_separator free, behind]

/-- **The occurrences in a text are those in its lines.** -/
theorem occurrences_joined (something : marker ≠ []) {line : String}
    (single : line.toList = [separator]) (texts : List String) :
    occurrences marker (joined line texts).toList =
      (texts.map fun text => occurrences marker text.toList).sum := by
  induction texts with
  | nil => rfl
  | cons text others ih =>
      cases others with
      | nil => simp [joined]
      | cons next more =>
          rw [joined, String.toList_append, String.toList_append, single, List.append_assoc,
            List.singleton_append, occurrences_append_separator free something, ih]
          simp only [List.map_cons, List.sum_cons]

end Lines

end Provision.Text
