import Provision.Number.Whole
import Provision.Yaml.Source

/-!
# The text of scalars

A plain scalar ends where an indicator or the indentation ends it, a quoted one at its quote, a
block scalar where the indentation falls.  Breaks inside plain and quoted scalars are folded: one
break is a space, and of several all but the first are kept.
-/

set_option autoImplicit false

namespace Provision.Yaml

/-! ## Gaps -/

/-- Blanks and breaks between two pieces of text. -/
structure Gap where
  blanks : List Char
  breaks : Nat
  deriving DecidableEq, Repr

/-- Line feeds of the given number. -/
def lineFeeds (count : Nat) : List Char := List.replicate count '\n'

/-- What a gap stands for. -/
def Gap.folded (gap : Gap) : List Char :=
  match gap.breaks with
  | 0 => gap.blanks
  | 1 => [' ']
  | further + 2 => lineFeeds (further + 1)

/-- Reads a gap; `allowed` says whether a blank behind a break may stand in a column. -/
def scanGap (allowed : Char → Nat → Bool) : Nat → Gap → Source → Option (Gap × Source)
  | 0, gap, source => some (gap, source)
  | fuel + 1, gap, source =>
      match source.peek with
      | none => some (gap, source)
      | some character =>
          if isBreak character then
            scanGap allowed fuel ⟨[], gap.breaks + 1⟩ source.skipBreak
          else if isBlank character then
            if gap.breaks == 0 then
              scanGap allowed fuel ⟨gap.blanks ++ [character], 0⟩ source.next
            else if allowed character source.column then scanGap allowed fuel gap source.next
            else none
          else some (gap, source)

/-! ## Plain scalars -/

/-- The characters up to a gap or an indicator that ends a plain scalar. -/
def plainPiece (inFlow : Bool) : List Char → List Char
  | [] => []
  | character :: rest =>
      if isGap character then []
      else if character == ':'
          && (endsHere rest || (inFlow && (rest.head?.any isFlowMark))) then []
      else if inFlow && isFlowMark character then []
      else character :: plainPiece inFlow rest

/-- Reads a plain scalar of at least the given column; `true` says that a line break follows its
last piece. -/
def scanPlain (inFlow : Bool) (column : Int) :
    Nat → List Char → Gap → Source → Option (List Char × Bool × Source)
  | 0, text, gap, source => some (text, gap.breaks != 0, source)
  | fuel + 1, text, gap, source =>
      if source.atDocumentMarker || source.peek == some '#' then
        some (text, gap.breaks != 0, source)
      else
        let piece := plainPiece inFlow source.rest
        let (text, gap) : List Char × Gap :=
          if piece.isEmpty then (text, gap) else (text ++ gap.folded ++ piece, ⟨[], 0⟩)
        let behind := source.skip piece.length
        match behind.peek with
        | none => some (text, gap.breaks != 0, behind)
        | some character =>
            if !isGap character then some (text, gap.breaks != 0, behind)
            else
              match scanGap (fun blank found => blank != '\t' || column ≤ found)
                  (behind.rest.length + 1) gap behind with
              | none => none
              | some (gap, source) =>
                  if !inFlow && (source.column : Int) < column then
                    some (text, gap.breaks != 0, source)
                  else scanPlain inFlow column fuel text gap source

/-! ## Quoted scalars -/

/-- The character that stands for a code of the given number of hexadecimal digits. -/
def codedChar (digits : Nat) (characters : List Char) : Option Char :=
  let code := characters.take digits
  if code.length != digits then none
  else
    match Number.readDigits 16 0xFFFFFFFF .tooLarge 0 code with
    | .error _ => none
    | .ok value => if value.isValidChar then some (Char.ofNat value) else none

/-- The character behind a backslash and how many characters spell it. -/
def escaped : List Char → Option (Char × Nat)
  | [] => none
  | character :: rest =>
      match character with
      | '0' => some (Char.ofNat 0, 1)
      | 'a' => some (Char.ofNat 7, 1)
      | 'b' => some (Char.ofNat 8, 1)
      | 't' => some ('\t', 1)
      | '\t' => some ('\t', 1)
      | 'n' => some ('\n', 1)
      | 'v' => some (Char.ofNat 11, 1)
      | 'f' => some (Char.ofNat 12, 1)
      | 'r' => some ('\r', 1)
      | 'e' => some (Char.ofNat 27, 1)
      | ' ' => some (' ', 1)
      | '"' => some ('"', 1)
      | '\'' => some ('\'', 1)
      | '\\' => some ('\\', 1)
      | 'N' => some (Char.ofNat 0x85, 1)
      | '_' => some (Char.ofNat 0xA0, 1)
      | 'L' => some (Char.ofNat 0x2028, 1)
      | 'P' => some (Char.ofNat 0x2029, 1)
      | 'x' => (codedChar 2 rest).map fun coded => (coded, 3)
      | 'u' => (codedChar 4 rest).map fun coded => (coded, 5)
      | 'U' => (codedChar 8 rest).map fun coded => (coded, 9)
      | _ => none

/-- How a piece of a quoted scalar ends. -/
inductive PieceEnd where
  | quote
  | gap
  /-- A backslash at the end of the line, which joins the lines. -/
  | joined
  deriving DecidableEq, Repr

/-- Reads up to the quote or a gap. -/
def quotedPiece (isSingle : Bool) :
    Nat → List Char → Source → Option (List Char × PieceEnd × Source)
  | 0, text, source => some (text, .gap, source)
  | fuel + 1, text, source =>
      match source.rest with
      | [] => some (text, .gap, source)
      | '\'' :: rest =>
          if !isSingle then quotedPiece isSingle fuel (text ++ ['\'']) source.next
          else if rest.head? == some '\'' then
            quotedPiece isSingle fuel (text ++ ['\'']) (source.skip 2)
          else some (text, .quote, source)
      | '"' :: _ =>
          if isSingle then quotedPiece isSingle fuel (text ++ ['"']) source.next
          else some (text, .quote, source)
      | '\\' :: rest =>
          if isSingle then quotedPiece isSingle fuel (text ++ ['\\']) source.next
          else if rest.head?.any isBreak then some (text, .joined, source.next.skipBreak)
          else
            match escaped rest with
            | none => none
            | some (character, count) =>
                quotedPiece isSingle fuel (text ++ [character]) (source.skip (count + 1))
      | character :: _ =>
          if isGap character then some (text, .gap, source)
          else quotedPiece isSingle fuel (text ++ [character]) source.next

/-- Reads a quoted scalar from behind its first quote to behind its last one. -/
def scanQuoted (isSingle : Bool) : Nat → List Char → Source → Option (List Char × Source)
  | 0, _, _ => none
  | fuel + 1, text, source =>
      if source.atDocumentMarker || source.atEnd then none
      else do
        let (text, ending, source) ← quotedPiece isSingle (source.rest.length + 1) text source
        match ending with
        | .quote => some (text, source.next)
        | .gap =>
            let (gap, source) ← scanGap (fun _ _ => true) (source.rest.length + 1) ⟨[], 0⟩ source
            scanQuoted isSingle fuel (text ++ gap.folded) source
        | .joined =>
            let (gap, source) ← scanGap (fun _ _ => true) (source.rest.length + 1) ⟨[], 1⟩ source
            scanQuoted isSingle fuel (text ++ lineFeeds (gap.breaks - 1)) source

/-! ## Block scalars -/

/-- What is kept of the breaks at the end of a block scalar. -/
inductive Chomping where
  | strip
  | clip
  | keep
  deriving DecidableEq, Repr

/-- The header of a block scalar: its chomping and its indentation, 0 if it is not given. -/
def blockHeader (source : Source) : Option (Chomping × Nat × Source) :=
  let chomping? : Option Char → Option Chomping
    | some '+' => some .keep
    | some '-' => some .strip
    | _ => none
  let indentation? : Option Char → Option Nat := fun found =>
    match found with
    | some character => if character.isDigit then some (character.toNat - 48) else none
    | none => none
  let positive (chomping : Chomping) (indentation : Nat) (source : Source) :
      Option (Chomping × Nat × Source) :=
    if indentation == 0 then none else some (chomping, indentation, source)
  match chomping? source.peek with
  | some chomping =>
      match indentation? source.next.peek with
      | some indentation => positive chomping indentation (source.skip 2)
      | none => some (chomping, 0, source.next)
  | none =>
      match indentation? source.peek with
      | none => some (.clip, 0, source)
      | some indentation =>
          match chomping? source.next.peek with
          | some chomping => positive chomping indentation (source.skip 2)
          | none => positive .clip indentation source.next

/-- Reads the breaks in front of a line of a block scalar and the indentation of the line, up to
`indentation` unless that is 0; `deepest` is the greatest column met.  A tab may not indent. -/
def blockBreaks (indentation : Nat) :
    Nat → Nat → Nat → Source → Option (Nat × Nat × Source)
  | 0, breaks, deepest, source => some (breaks, deepest, source)
  | fuel + 1, breaks, deepest, source =>
      let spaces := (source.taken fun character => character == ' ').length
      let indented :=
        source.skip (if indentation == 0 then spaces else min spaces (indentation - source.column))
      let deepest := max deepest indented.column
      if (indentation == 0 || indented.column < indentation) && indented.peek == some '\t' then none
      else if indented.peek.any isBreak then
        blockBreaks indentation fuel (breaks + 1) deepest indented.skipBreak
      else some (breaks, deepest, indented)

/-- The lines of a block scalar read so far. -/
structure BlockText where
  text : List Char
  /-- Whether a break ends the last line. -/
  hasBreak : Bool
  /-- The number of empty lines behind it. -/
  emptyLines : Nat
  /-- Whether the last line starts with a blank. -/
  startsBlank : Bool

/-- What joins the lines so far to a further one. -/
def BlockText.joint (isLiteral : Bool) (block : BlockText) (startsBlank : Bool) : List Char :=
  let first :=
    if !isLiteral && block.hasBreak && !block.startsBlank && !startsBlank then
      if block.emptyLines == 0 then [' '] else []
    else if block.hasBreak then ['\n']
    else []
  first ++ lineFeeds block.emptyLines

/-- Reads the lines of a block scalar with the given indentation. -/
def blockLines (isLiteral : Bool) (indentation : Nat) :
    Nat → BlockText → Source → Option (BlockText × Source)
  | 0, block, source => some (block, source)
  | fuel + 1, block, source =>
      if source.column != indentation || source.atEnd then some (block, source)
      else
        let startsBlank := source.peek.any isBlank
        let line := source.taken fun character => !isBreak character
        let text := block.text ++ block.joint isLiteral startsBlank ++ line
        let behind := source.skip line.length
        if behind.atEnd then some (⟨text, false, 0, startsBlank⟩, behind)
        else
          match blockBreaks indentation (behind.rest.length + 1) 0 0 behind.skipBreak with
          | none => none
          | some (emptyLines, _, next) =>
              blockLines isLiteral indentation fuel ⟨text, true, emptyLines, startsBlank⟩ next

/-- Reads a block scalar from behind its indicator; `parent` is the indentation around it. -/
def scanBlock (isLiteral : Bool) (parent : Int) (source : Source) :
    Option (List Char × Source) := do
  let (chomping, given, source) ← blockHeader source
  let source ← source.leaveLine
  let wanted := if given == 0 then 0 else (max parent 0).toNat + given
  let (emptyLines, deepest, source) ← blockBreaks wanted (source.rest.length + 1) 0 0 source
  let indentation :=
    if wanted == 0 then max (max deepest (parent + 1).toNat) 1 else wanted
  let (block, source) ←
    blockLines isLiteral indentation (source.rest.length + 1) ⟨[], false, emptyLines, false⟩ source
  let ending :=
    match chomping with
    | .strip => []
    | .clip => if block.hasBreak then ['\n'] else []
    | .keep => (if block.hasBreak then ['\n'] else []) ++ lineFeeds block.emptyLines
  some (block.text ++ ending, source)

end Provision.Yaml
