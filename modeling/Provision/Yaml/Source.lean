/-!
# The source of a YAML document

The characters that are still to be read, with their place: the index of the next character, its
line and its column.  A text ends at its end or at its first NUL, whichever comes first.
-/

set_option autoImplicit false

namespace Provision.Yaml

/-- The rest of a text and its place in the text. -/
structure Source where
  rest : List Char
  index : Nat
  line : Nat
  column : Nat

/-! ## Classes of characters -/

/-- Line feed and carriage return. -/
def isBreak (character : Char) : Bool := character == '\n' || character == '\r'

/-- Space and tab. -/
def isBlank (character : Char) : Bool := character == ' ' || character == '\t'

/-- Blanks and breaks. -/
def isGap (character : Char) : Bool := isBlank character || isBreak character

/-- The characters of names: ASCII letters, digits, `_` and `-`. -/
def isNameChar (character : Char) : Bool :=
  character.isAlphanum || character == '_' || character == '-'

/-- The characters that structure flow collections. -/
def isFlowMark (character : Char) : Bool :=
  [',', '[', ']', '\x7b', '\x7d'].contains character

/-- Whether what follows is a gap or the end. -/
def endsHere : List Char → Bool
  | [] => true
  | character :: _ => isGap character

/-- Whether what follows is a break or the end. -/
def lineEndsHere : List Char → Bool
  | [] => true
  | character :: _ => isBreak character

namespace Source

/-- The start of a text. -/
def start (text : List Char) : Source :=
  { rest := text.takeWhile fun character => character.toNat != 0
    index := 0
    line := 0
    column := 0 }

/-- The next character. -/
def peek (source : Source) : Option Char := source.rest.head?

/-- Whether nothing is left. -/
def atEnd (source : Source) : Bool := source.rest.isEmpty

/-- Past the next character; only a line feed starts a line. -/
def next (source : Source) : Source :=
  match source.rest with
  | [] => source
  | character :: rest =>
      if character == '\n' then
        { rest, index := source.index + 1, line := source.line + 1, column := 0 }
      else { source with rest, index := source.index + 1, column := source.column + 1 }

/-- Past the given number of characters. -/
def skip (source : Source) : Nat → Source
  | 0 => source
  | count + 1 => source.next.skip count

/-- Past the leading characters of a class. -/
def skipWhile (holds : Char → Bool) (source : Source) : Source :=
  source.skip (source.rest.takeWhile holds).length

/-- The leading characters of a class. -/
def taken (holds : Char → Bool) (source : Source) : List Char := source.rest.takeWhile holds

/-- Past a line break, if there is one; a carriage return and a line feed are one break. -/
def skipBreak (source : Source) : Source :=
  match source.rest with
  | '\r' :: '\n' :: _ => source.skip 2
  | '\r' :: _ => source.next
  | '\n' :: _ => source.next
  | _ => source

/-- Past a comment, if there is one. -/
def skipComment (source : Source) : Source :=
  if source.peek == some '#' then source.skipWhile fun character => !isBreak character else source

/-- Past blanks, a comment and the line break behind them; nothing else may stand on the line. -/
def leaveLine (source : Source) : Option Source :=
  let behind := (source.skipWhile isBlank).skipComment
  if lineEndsHere behind.rest then some behind.skipBreak else none

/-- Whether a line starts with three of the given character and nothing directly behind them. -/
def atTriple (character : Char) (source : Source) : Bool :=
  source.column == 0
    && match source.rest with
      | first :: second :: third :: behind =>
          first == character && second == character && third == character && endsHere behind
      | _ => false

/-- Whether a line starts with a document marker. -/
def atDocumentMarker (source : Source) : Bool := source.atTriple '-' || source.atTriple '.'

end Source

end Provision.Yaml
