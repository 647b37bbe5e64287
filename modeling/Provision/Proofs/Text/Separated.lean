import Provision.Text.Pieces

/-!
# Texts with a separator between them

Where a text has been put together from two with a separator between them, the parts can be told
from the whole by anyone who knows how many separators the first part has
(`append_separator_inj`). The pieces of the whole are the pieces of the one part and then those of
the other (`pieces_append_separator`). A text is cut at its first separator by the cut with none
before it (`cutFirst_eq_some_iff`), at its last by the one with none behind it, and everywhere into
the items between its separators (`mem_pieces_iff`).
-/

set_option autoImplicit false

namespace Provision.Text

variable {separator : Char} {first other rest remaining : List Char}

/-! ## Telling the parts apart -/

/-- **Parts with equally many separators in front of the cut are the same parts.** -/
theorem append_separator_inj (counts : first.count separator = other.count separator) :
    first ++ separator :: rest = other ++ separator :: remaining ↔
      first = other ∧ rest = remaining := by
  refine ⟨fun same => ?_, fun ⟨start, finish⟩ => by rw [start, finish]⟩
  induction first generalizing other with
  | nil =>
      cases other with
      | nil => simpa using same
      | cons character others =>
          obtain ⟨rfl, -⟩ := List.cons.inj same
          simp at counts
  | cons character characters ih =>
      cases other with
      | nil =>
          obtain ⟨rfl, -⟩ := List.cons.inj same
          simp at counts
      | cons _ others =>
          obtain ⟨rfl, behind⟩ := List.cons.inj same
          have fewer : characters.count separator = others.count separator := by
            simpa [List.count_cons] using counts
          obtain ⟨rfl, finish⟩ := ih fewer behind
          exact ⟨rfl, finish⟩

/-- A separator after which both texts have equally many of it is at the same place in them. -/
theorem append_separator_inj_of_after (counts : rest.count separator = remaining.count separator) :
    first ++ separator :: rest = other ++ separator :: remaining ↔
      first = other ∧ rest = remaining := by
  refine ⟨fun same => ?_, fun ⟨start, finish⟩ => by rw [start, finish]⟩
  have total := congrArg (List.count separator) same
  simp only [List.count_append, List.count_cons_self] at total
  exact (append_separator_inj (by omega)).mp same

/-! ## Cutting at every separator -/

/-- A text without a separator is one piece. -/
theorem pieces_of_not_mem {characters : List Char} (free : separator ∉ characters) :
    pieces separator characters = [characters] := by
  induction characters with
  | nil => rfl
  | cons character rest ih =>
      obtain ⟨differs, free⟩ := not_or.mp (mt List.mem_cons.mpr free)
      simp only [pieces, Ne.symm differs, if_false, ih free]

/-- **The pieces of two texts with a separator between them are the pieces of both.** -/
theorem pieces_append_separator (separator : Char) (first rest : List Char) :
    pieces separator (first ++ separator :: rest) =
      pieces separator first ++ pieces separator rest := by
  induction first with
  | nil => simp [pieces]
  | cons character characters ih =>
      simp only [List.cons_append, pieces]
      split
      · rw [ih, List.cons_append]
      · rw [ih]
        cases found : pieces separator characters with
        | nil => exact absurd found (pieces_ne_nil separator characters)
        | cons piece others => rfl

/-! ## Cutting once -/

theorem cutFirst_eq_none_iff {characters : List Char} :
    cutFirst separator characters = none ↔ separator ∉ characters := by
  induction characters with
  | nil => simp [cutFirst]
  | cons character rest ih =>
      by_cases same : character = separator
      · simp [cutFirst, same]
      · simp [cutFirst, same, ih, Ne.symm same]

/-- **The first separator is the one with none before it.** -/
theorem cutFirst_eq_some_iff {characters before after : List Char} :
    cutFirst separator characters = some (before, after) ↔
      separator ∉ before ∧ characters = before ++ separator :: after := by
  constructor
  · intro cut
    induction characters generalizing before with
    | nil => cases cut
    | cons character rest ih =>
        simp only [cutFirst] at cut
        split at cut
        · rename_i same
          cases cut
          simp [same]
        · rename_i differs
          obtain ⟨⟨start, finish⟩, later, same⟩ := Option.map_eq_some_iff.mp cut
          cases same
          obtain ⟨free, shape⟩ := ih later
          exact ⟨by simp [Ne.symm differs, free], by rw [shape, List.cons_append]⟩
  · rintro ⟨free, rfl⟩
    induction before with
    | nil => simp [cutFirst]
    | cons character others ih =>
        obtain ⟨differs, free⟩ := not_or.mp (mt List.mem_cons.mpr free)
        simp [cutFirst, Ne.symm differs, ih free]

theorem cutLast_eq_none_iff {characters : List Char} :
    cutLast separator characters = none ↔ separator ∉ characters := by
  induction characters with
  | nil => simp [cutLast]
  | cons character rest ih =>
      simp only [cutLast, List.mem_cons, not_or, ← ih]
      cases cutLast separator rest with
      | none => by_cases same : character = separator <;> simp [same, Ne.symm]
      | some parts => simp

/-- **The last separator is the one with none behind it.** -/
theorem cutLast_eq_some_iff {characters before after : List Char} :
    cutLast separator characters = some (before, after) ↔
      separator ∉ after ∧ characters = before ++ separator :: after := by
  constructor
  · intro cut
    induction characters generalizing before with
    | nil => cases cut
    | cons character rest ih =>
        simp only [cutLast] at cut
        split at cut
        · rename_i start finish later
          cases cut
          obtain ⟨free, shape⟩ := ih later
          exact ⟨free, by rw [shape, List.cons_append]⟩
        · rename_i nothing
          split at cut
          · rename_i same
            cases cut
            exact ⟨cutLast_eq_none_iff.mp nothing, by rw [same, List.nil_append]⟩
          · cases cut
  · rintro ⟨free, rfl⟩
    induction before with
    | nil => simp [cutLast, cutLast_eq_none_iff.mpr free]
    | cons character others ih => simp [cutLast, ih]

/-! ## Parts one behind the other -/

/-- A text at the end of which `last` stands, and before it the parts in front, each with a
separator behind it. -/
def separated (separator : Char) (front : List (List Char)) (last : List Char) : List Char :=
  front.foldr (fun part rest => part ++ separator :: rest) last

/-- **Cutting as often as there are parts in front finds just these parts and the rest.** -/
theorem piecesAtMost_eq_iff (front : List (List Char)) {last characters : List Char} :
    piecesAtMost separator (front.length + 1) characters = front ++ [last] ↔
      (∀ part ∈ front, separator ∉ part) ∧ characters = separated separator front last := by
  induction front generalizing characters with
  | nil => simp [piecesAtMost, separated]
  | cons part others ih =>
      rw [List.length_cons, piecesAtMost, List.forall_mem_cons]
      cases cut : cutFirst separator characters with
      | none =>
          have absent := cutFirst_eq_none_iff.mp cut
          constructor
          · intro same
            simp at same
          · rintro ⟨-, rfl⟩
            simp [separated] at absent
      | some parts =>
          obtain ⟨before, after⟩ := parts
          obtain ⟨free, rfl⟩ := cutFirst_eq_some_iff.mp cut
          have counts (free' : separator ∉ part) : before.count separator = part.count separator := by
            rw [List.count_eq_zero.mpr free, List.count_eq_zero.mpr free']
          have shape : separated separator (part :: others) last =
            part ++ separator :: separated separator others last := rfl
          rw [List.cons_append, List.cons.injEq, ih, shape]
          constructor
          · rintro ⟨rfl, frees, rfl⟩
            exact ⟨⟨free, frees⟩, rfl⟩
          · rintro ⟨⟨free', frees⟩, same⟩
            obtain ⟨rfl, rfl⟩ := (append_separator_inj (counts free')).mp same
            exact ⟨rfl, frees, rfl⟩

/-- Cutting everywhere is cutting at the first separator, and then everywhere behind it. -/
theorem pieces_eq_cutFirst (characters : List Char) :
    pieces separator characters =
      match cutFirst separator characters with
      | none => [characters]
      | some (before, after) => before :: pieces separator after := by
  cases cut : cutFirst separator characters with
  | none => exact pieces_of_not_mem (cutFirst_eq_none_iff.mp cut)
  | some parts =>
      obtain ⟨free, rfl⟩ := cutFirst_eq_some_iff.mp cut
      rw [pieces_append_separator, pieces_of_not_mem free, List.singleton_append]

/-- **Cutting everywhere finds just the parts, if none of them can be cut again.** -/
theorem pieces_eq_iff (front : List (List Char)) {last characters : List Char} :
    pieces separator characters = front ++ [last] ↔
      (∀ part ∈ front, separator ∉ part) ∧ separator ∉ last ∧
        characters = separated separator front last := by
  constructor
  · intro found
    induction front generalizing characters with
    | nil =>
        rw [pieces_eq_cutFirst] at found
        split at found
        · rename_i cut
          cases found
          exact ⟨by simp, cutFirst_eq_none_iff.mp cut, rfl⟩
        · exact absurd (List.cons.inj found).2 (pieces_ne_nil separator _)
    | cons part others ih =>
        rw [pieces_eq_cutFirst] at found
        split at found
        · simp at found
        · rename_i cut
          obtain ⟨rfl, later⟩ := List.cons.inj found
          obtain ⟨free, rfl⟩ := cutFirst_eq_some_iff.mp cut
          obtain ⟨frees, whole, rfl⟩ := ih later
          exact ⟨List.forall_mem_cons.mpr ⟨free, frees⟩, whole, rfl⟩
  · rintro ⟨frees, whole, rfl⟩
    induction front with
    | nil => exact pieces_of_not_mem whole
    | cons part others ih =>
        obtain ⟨free, frees⟩ := List.forall_mem_cons.mp frees
        show pieces separator (part ++ separator :: separated separator others last) = _
        rw [pieces_append_separator, pieces_of_not_mem free, ih frees]
        rfl

/-! ## Items between separators -/

/-- With a separator at both ends of the text, the item is what stands between two of them. -/
def Between (separator : Char) (item characters : List Char) : Prop :=
  separator ∉ item ∧ separator :: (item ++ [separator]) <:+: separator :: (characters ++ [separator])

/-- What begins with a separator does not begin in a text without one. -/
theorem infix_append_iff (free : separator ∉ first) :
    separator :: other <:+: first ++ rest ↔ separator :: other <:+: rest := by
  induction first with
  | nil => rfl
  | cons character characters ih =>
      obtain ⟨differs, free⟩ := not_or.mp (mt List.mem_cons.mpr free)
      rw [List.cons_append, List.infix_cons_iff, List.cons_prefix_cons, ih free]
      simp [differs]

/-- Up to the first separators, two texts are the same as soon as one begins with the other. -/
theorem append_prefix_iff (free : separator ∉ first) (free' : separator ∉ other) :
    first ++ [separator] <+: other ++ separator :: rest ↔ first = other := by
  have counts : first.count separator = other.count separator := by
    rw [List.count_eq_zero.mpr free, List.count_eq_zero.mpr free']
  constructor
  · rintro ⟨after, same⟩
    rw [List.append_assoc, List.singleton_append] at same
    exact ((append_separator_inj counts).mp same).1
  · rintro rfl
    exact ⟨rest, by simp⟩

theorem between_separated_iff {front : List (List Char)} {last item : List Char}
    (frees : ∀ part ∈ front, separator ∉ part) (free : separator ∉ last) :
    Between separator item (separated separator front last) ↔ item ∈ front ++ [last] := by
  by_cases itemFree : separator ∈ item
  · refine ⟨fun between => absurd itemFree between.1, fun present => ?_⟩
    rcases List.mem_append.mp present with inside | same
    · exact absurd itemFree (frees item inside)
    · exact absurd (List.mem_singleton.mp same ▸ itemFree) free
  · rw [Between, and_iff_right itemFree]
    induction front with
    | nil =>
        have short : ¬ separator :: (item ++ [separator]) <:+: [separator] := fun within => by
          simpa using within.length_le
        show _ :: _ <:+: _ :: (last ++ [separator]) ↔ _
        rw [List.infix_cons_iff, List.cons_prefix_cons, infix_append_iff free,
          append_prefix_iff itemFree free]
        simp [short]
    | cons part others ih =>
        obtain ⟨partFree, frees⟩ := List.forall_mem_cons.mp frees
        have shape : separated separator (part :: others) last ++ [separator] =
            part ++ separator :: (separated separator others last ++ [separator]) := by
          simp [separated]
        rw [shape, List.infix_cons_iff, List.cons_prefix_cons, infix_append_iff partFree, ih frees,
          append_prefix_iff itemFree partFree]
        simp

/-- **The pieces of a text are the items between its separators.** -/
theorem mem_pieces_iff {item characters : List Char} :
    item ∈ pieces separator characters ↔ Between separator item characters := by
  obtain ⟨front, last, found⟩ :=
    (List.eq_nil_or_concat (pieces separator characters)).resolve_left (pieces_ne_nil _ _)
  rw [List.concat_eq_append] at found
  obtain ⟨frees, free, rfl⟩ := (pieces_eq_iff front).mp found
  rw [found, between_separated_iff frees free]

end Provision.Text
