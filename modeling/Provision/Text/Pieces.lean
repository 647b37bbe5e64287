/-!
# Cutting text at a separator

Functions on character lists that cut at one separator character, everywhere or a bounded number
of times, and the joining of texts.  `intercalate_pieces` says that cutting everywhere loses
nothing: putting the separator back between the pieces gives the text back.
-/

set_option autoImplicit false

namespace Provision.Text

/-- The pieces between the separators; always at least one, and one more than there are
separators. -/
def pieces (separator : Char) : List Char → List (List Char)
  | [] => [[]]
  | character :: rest =>
      if character = separator then [] :: pieces separator rest
      else
        match pieces separator rest with
        | [] => [[character]]
        | piece :: others => (character :: piece) :: others

theorem pieces_ne_nil (separator : Char) (characters : List Char) :
    pieces separator characters ≠ [] := by
  cases characters with
  | nil => simp [pieces]
  | cons character rest =>
      unfold pieces
      split
      · simp
      · split <;> simp

theorem intercalate_pieces (separator : Char) (characters : List Char) :
    List.intercalate [separator] (pieces separator characters) = characters := by
  induction characters with
  | nil => rfl
  | cons character rest ih =>
      unfold pieces
      split
      · rename_i same
        subst same
        cases found : pieces character rest with
        | nil => exact absurd found (pieces_ne_nil character rest)
        | cons piece others =>
            rw [found] at ih
            simp only [List.intercalate, List.intersperse, List.flatten_cons, List.nil_append,
              List.singleton_append]
            simpa only [List.intercalate] using congrArg (character :: ·) ih
      · cases found : pieces separator rest with
        | nil => exact absurd found (pieces_ne_nil separator rest)
        | cons piece others =>
            rw [found] at ih
            cases others with
            | nil => simpa [List.intercalate, List.intersperse] using congrArg (character :: ·) ih
            | cons next more =>
                simpa [List.intercalate, List.intersperse] using congrArg (character :: ·) ih

/-- The text before the first separator and the text after it. -/
def cutFirst (separator : Char) : List Char → Option (List Char × List Char)
  | [] => none
  | character :: rest =>
      if character = separator then some ([], rest)
      else (cutFirst separator rest).map fun (before, after) => (character :: before, after)

/-- The text before the last separator and the text after it. -/
def cutLast (separator : Char) : List Char → Option (List Char × List Char)
  | [] => none
  | character :: rest =>
      match cutLast separator rest with
      | some (before, after) => some (character :: before, after)
      | none => if character = separator then some ([], rest) else none

/-- At most `count` pieces: the last one keeps its separators. -/
def piecesAtMost (separator : Char) : Nat → List Char → List (List Char)
  | 0, _ => []
  | 1, characters => [characters]
  | count + 2, characters =>
      match cutFirst separator characters with
      | none => [characters]
      | some (before, after) => before :: piecesAtMost separator (count + 1) after

/-- The texts one after the other with the separator between each two. -/
def joined (separator : String) : List String → String
  | [] => ""
  | [text] => text
  | text :: next :: others => text ++ separator ++ joined separator (next :: others)

/-- The characters after `opening`, if the text starts with it. -/
def afterOpening : List Char → List Char → Option (List Char)
  | [], characters => some characters
  | _ :: _, [] => none
  | expected :: opening, character :: rest =>
      if expected = character then afterOpening opening rest else none

end Provision.Text
