import Provision.Yaml.Scalar
import Provision.Yaml.Token

/-!
# From text to tokens

The lexer keeps the columns of the open block collections and, for every open flow collection and
the block around them, where a key may have begun.  A key is only known as one when the colon
behind it is reached; the tokens that start the key and its mapping are then put where it began.
-/

set_option autoImplicit false

namespace Provision.Yaml

/-- Where a key may have begun. -/
structure KeyStart where
  /-- The number of tokens in front of it. -/
  position : Nat
  index : Nat
  line : Nat
  column : Nat
  /-- Whether it must turn out to be a key. -/
  isRequired : Bool

/-- The state of the lexer. -/
structure Lexer where
  source : Source
  /-- The tokens so far, the newest first. -/
  tokens : List Token
  /-- Whether a key may begin here. -/
  keyAllowed : Bool
  /-- Where a key of the innermost open collection may have begun. -/
  keyStart : Option KeyStart
  /-- The same for the collections around it; one for every open flow collection. -/
  outerKeyStarts : List (Option KeyStart)
  /-- The column of the innermost open block collection, -1 without one. -/
  indentation : Int
  outerIndentations : List Int
  /-- The index behind a quoted scalar, where a colon needs no blank behind it. -/
  adjacentAt : Option Nat

namespace Lexer

/-- The lexer at the start of a text. -/
def start (text : List Char) : Lexer :=
  { source := Source.start text, tokens := [], keyAllowed := true, keyStart := none
    outerKeyStarts := [], indentation := -1, outerIndentations := [], adjacentAt := none }

/-- Whether a flow collection is open. -/
def inFlow (lexer : Lexer) : Bool := !lexer.outerKeyStarts.isEmpty

/-- Adds a token. -/
def push (lexer : Lexer) (token : Token) : Lexer :=
  { lexer with tokens := token :: lexer.tokens }

/-- Adds a token at a position. -/
def pushAt (lexer : Lexer) (position : Nat) (token : Token) : Lexer :=
  let behind := lexer.tokens.length - position
  { lexer with tokens := lexer.tokens.take behind ++ token :: lexer.tokens.drop behind }

/-- Past the given number of characters. -/
def skip (lexer : Lexer) (count : Nat) : Lexer :=
  { lexer with source := lexer.source.skip count }

/-- Says whether a key may begin next. -/
def allowKey (lexer : Lexer) (keyAllowed : Bool) : Lexer := { lexer with keyAllowed }

/-! ## Indentation -/

/-- Opens a block collection in a column if it is deeper than the ones around it. -/
def indentTo (lexer : Lexer) (column : Nat) (token : Token) (position : Option Nat) : Lexer :=
  if lexer.inFlow || (column : Int) ≤ lexer.indentation then lexer
  else
    let opened :=
      { lexer with
        indentation := column
        outerIndentations := lexer.indentation :: lexer.outerIndentations }
    match position with
    | none => opened.push token
    | some place => opened.pushAt place token

/-- Closes the block collections in the given columns, the innermost first, that are deeper than
a column. -/
def closeDeeper (column : Int) : List Int → Lexer → Lexer
  | [], lexer => lexer
  | outer :: others, lexer =>
      if lexer.indentation ≤ column then lexer
      else
        closeDeeper column others
          { lexer.push .blockEnd with indentation := outer, outerIndentations := others }

/-- Closes the block collections deeper than a column; flow collections keep them open. -/
def dedentTo (lexer : Lexer) (column : Int) : Lexer :=
  if lexer.inFlow then lexer else closeDeeper column lexer.outerIndentations lexer

/-! ## Starts of keys -/

/-- Gives up a start that cannot be one of a key. -/
def forgotten : Option KeyStart → Option (Option KeyStart)
  | none => some none
  | some begun => if begun.isRequired then none else some none

/-- Gives up the innermost start of a key. -/
def forgetKey (lexer : Lexer) : Option Lexer := do
  some { lexer with keyStart := ← forgotten lexer.keyStart }

/-- Notes that a key may begin here. -/
def noteKey (lexer : Lexer) : Option Lexer :=
  if lexer.keyAllowed then do
    let free ← lexer.forgetKey
    let source := free.source
    some { free with
      keyStart := some
        { position := free.tokens.length, index := source.index, line := source.line
          column := source.column
          isRequired := free.inFlow && free.indentation == (source.column : Int) } }
  else some lexer

/-- Whether a start is too far back: on an earlier line or more than 1024 characters away. -/
def isStale (source : Source) (begun : KeyStart) : Bool :=
  begun.line < source.line || begun.index + 1024 < source.index

/-- Gives up the starts of keys that are too far back. -/
def dropStaleKeys (lexer : Lexer) : Option Lexer := do
  let checked := fun (keyStart : Option KeyStart) =>
    match keyStart with
    | some begun =>
        if isStale lexer.source begun then forgotten (some begun) else some (some begun)
    | none => some none
  some { lexer with
    keyStart := ← checked lexer.keyStart
    outerKeyStarts := ← lexer.outerKeyStarts.mapM checked }

/-! ## Spacing -/

/-- Past spaces, line breaks and comments.  A tab counts as a space where no key may begin and
inside flow collections. -/
def skipSpacing : Nat → Lexer → Lexer
  | 0, lexer => lexer
  | fuel + 1, lexer =>
      match lexer.source.peek with
      | some ' ' => skipSpacing fuel (lexer.skip 1)
      | some '\t' =>
          if lexer.inFlow || !lexer.keyAllowed then skipSpacing fuel (lexer.skip 1) else lexer
      | some '#' => skipSpacing fuel { lexer with source := lexer.source.skipComment }
      | some character =>
          if isBreak character then
            skipSpacing fuel
              { lexer with
                source := lexer.source.skipBreak, keyAllowed := lexer.keyAllowed || !lexer.inFlow }
          else lexer
      | none => lexer

/-! ## Document marks -/

/-- Closes all block collections. -/
def closeAll (lexer : Lexer) : Option Lexer := do
  some ((← (lexer.dedentTo (-1)).forgetKey).allowKey false)

/-- A document marker. -/
def documentMarker (lexer : Lexer) (token : Token) : Option Lexer := do
  some (((← lexer.closeAll).skip 3).push token)

/-- A version number: one to nine digits. -/
def versionNumber (source : Source) : Option Source :=
  let digits := source.taken Char.isDigit
  if digits.isEmpty || 9 < digits.length then none else some (source.skip digits.length)

/-! ## Tags -/

/-- The characters of a tag behind its handle. -/
def isTagChar (character : Char) : Bool :=
  isNameChar character || ";/?:@&=+$,.!~*'()[]%".toList.contains character

/-- The value of two hexadecimal digits behind a percent sign. -/
def octet : List Char → Option Nat
  | '%' :: high :: low :: _ => do
      some (16 * (← Number.digitValue 16 high) + (← Number.digitValue 16 low))
  | _ => none

/-- The further octets of an escaped character, put behind what is there of its code. -/
def furtherOctets : Nat → Nat → Source → Option (Nat × Source)
  | 0, code, source => some (code, source)
  | count + 1, code, source => do
      let value ← octet source.rest
      if 0x80 ≤ value && value < 0xC0 then furtherOctets count (256 * code + value) (source.skip 3)
      else none

/-- An escaped character of a tag. -/
def escapedOctets (source : Source) : Option (Char × Source) := do
  let lead ← octet source.rest
  let further ←
    if lead < 0x80 then some 0
    else if 0xC0 ≤ lead && lead < 0xE0 then some 1
    else if 0xE0 ≤ lead && lead < 0xF0 then some 2
    else if 0xF0 ≤ lead && lead < 0xF8 then some 3
    else none
  let (code, source) ← furtherOctets further lead (source.skip 3)
  if code.isValidChar then some (Char.ofNat code, source) else none

/-- The text of a tag behind its handle. -/
def tagText : Nat → List Char → Source → Option (List Char × Source)
  | 0, text, source => some (text, source)
  | fuel + 1, text, source =>
      match source.peek with
      | some '%' => do
          let (character, source) ← escapedOctets source
          tagText fuel (text ++ [character]) source
      | some character =>
          if isTagChar character then tagText fuel (text ++ [character]) source.next
          else some (text, source)
      | none => some (text, source)

/-- Reads a tag's text that may not be empty. -/
def someTagText (source : Source) : Option (List Char × Source) := do
  let (text, behind) ← tagText (source.rest.length + 1) [] source
  if text.isEmpty then none else some (text, behind)

/-- Reads a handle: an exclamation mark, a name and perhaps another mark. -/
def tagHandle (source : Source) : Option (List Char × Source) :=
  if source.peek == some '!' then
    let name := source.next.taken isNameChar
    let behind := source.next.skip name.length
    if behind.peek == some '!' then some ('!' :: name ++ ['!'], behind.next)
    else some ('!' :: name, behind)
  else none

/-- Whether a handle ends with a second mark. -/
def isWholeHandle (handle : List Char) : Bool :=
  2 ≤ handle.length && handle.getLast? == some '!'

/-- Reads a tag: in angle brackets, with a handle of its own, or local. -/
def scanTag (source : Source) : Option (Token × Source) := do
  let (token, behind) ←
    if source.next.peek == some '<' then do
      let (text, behind) ← someTagText (source.skip 2)
      if behind.peek == some '>' then some (Token.tag "" (String.ofList text), behind.next)
      else none
    else do
      let (handle, behind) ← tagHandle source
      if isWholeHandle handle then
        let (text, behind) ← someTagText behind
        some (Token.tag (String.ofList handle) (String.ofList text), behind)
      else
        let (text, behind) ← tagText (behind.rest.length + 1) (handle.drop 1) behind
        if text.isEmpty then some (Token.tag "" "!", behind)
        else some (Token.tag "!" (String.ofList text), behind)
  if endsHere behind.rest then some (token, behind) else none

/-- A line of directions: a version, a handle for tags, or anything else under another name. -/
def scanDirective (source : Source) : Option Source := do
  let name := source.next.taken isNameChar
  let behind := source.next.skip name.length
  if name.isEmpty || !endsHere behind.rest then none
  else
    let behind ←
      if name == "YAML".toList then do
        let major ← versionNumber (behind.skipWhile isBlank)
        if major.peek == some '.' then versionNumber major.next else none
      else if name == "TAG".toList then do
        let (handle, behind) ← tagHandle (behind.skipWhile isBlank)
        if handle == ['!'] || isWholeHandle handle then
          let (_, behind) ← someTagText (behind.skipWhile isBlank)
          if endsHere behind.rest then some behind else none
        else none
      else some (behind.skipWhile fun character => !isBreak character)
    behind.leaveLine

/-! ## Tokens -/

/-- The start of a flow collection; at most 255 are open at once. -/
def openFlow (lexer : Lexer) (token : Token) : Option Lexer := do
  let noted ← lexer.noteKey
  if 255 ≤ noted.outerKeyStarts.length then none
  else
    let opened :=
      { noted with keyStart := none, outerKeyStarts := noted.keyStart :: noted.outerKeyStarts }
    some (((opened.allowKey true).skip 1).push token)

/-- The end of a flow collection. -/
def closeFlow (lexer : Lexer) (token : Token) : Option Lexer := do
  let free ← lexer.forgetKey
  let closed :=
    match free.outerKeyStarts with
    | [] => free
    | outer :: others => { free with keyStart := outer, outerKeyStarts := others }
  some (((closed.allowKey false).skip 1).push token)

/-- A comma. -/
def flowEntry (lexer : Lexer) : Option Lexer := do
  some ((((← lexer.forgetKey).allowKey true).skip 1).push .flowEntry)

/-- A dash in front of an item. -/
def blockEntry (lexer : Lexer) : Option Lexer := do
  if lexer.inFlow || !lexer.keyAllowed then none
  else
    let opened := lexer.indentTo lexer.source.column .blockSequence none
    some ((((← opened.forgetKey).allowKey true).skip 1).push .blockEntry)

/-- A question mark in front of a key. -/
def explicitKey (lexer : Lexer) : Option Lexer := do
  if !lexer.inFlow && !lexer.keyAllowed then none
  else
    let opened := lexer.indentTo lexer.source.column .blockMapping none
    some ((((← opened.forgetKey).allowKey (!lexer.inFlow)).skip 1).push .key)

/-- A colon: behind a key that began where one may have begun, or behind an explicit one. -/
def keyValue (lexer : Lexer) : Option Lexer :=
  match lexer.keyStart with
  | some begun =>
      let opened :=
        (lexer.pushAt begun.position .key).indentTo begun.column .blockMapping
          (some begun.position)
      some ((({ opened with keyStart := none }.allowKey false).skip 1).push .value)
  | none =>
      if !lexer.inFlow && !lexer.keyAllowed then none
      else
        let opened := lexer.indentTo lexer.source.column .blockMapping none
        some (((opened.allowKey (!lexer.inFlow)).skip 1).push .value)

/-- An anchor or a reference to one. -/
def named (lexer : Lexer) (token : String → Token) : Option Lexer := do
  let noted ← lexer.noteKey
  let name := noted.source.next.taken isNameChar
  let behind := noted.source.next.skip name.length
  let ends :=
    endsHere behind.rest
      || behind.rest.head?.any fun character => "?:,]\x7d%@\x60".toList.contains character
  if name.isEmpty || !ends then none
  else some (({ noted with source := behind }.allowKey false).push (token (String.ofList name)))

/-- A tag. -/
def tagged (lexer : Lexer) : Option Lexer := do
  let noted ← lexer.noteKey
  let (token, source) ← scanTag noted.source
  some (({ noted with source }.allowKey false).push token)

/-- A block scalar; a key may begin behind it. -/
def blockScalar (lexer : Lexer) (isLiteral : Bool) : Option Lexer := do
  let noted ← lexer.noteKey
  let (text, source) ← scanBlock isLiteral noted.indentation noted.source.next
  some (({ noted with source }.allowKey true).push (.scalar false (String.ofList text)))

/-- A quoted scalar. -/
def quotedScalar (lexer : Lexer) (isSingle : Bool) : Option Lexer := do
  let noted ← lexer.noteKey
  let (text, source) ← scanQuoted isSingle (noted.source.rest.length + 1) [] noted.source.next
  some (({ noted with source, adjacentAt := some source.index }.allowKey false).push
    (.scalar false (String.ofList text)))

/-- A plain scalar; a key may begin behind it if a line break follows it. -/
def plainScalar (lexer : Lexer) : Option Lexer := do
  let noted ← lexer.noteKey
  let (text, broken, source) ←
    scanPlain noted.inFlow (noted.indentation + 1) (noted.source.rest.length + 1) [] ⟨[], 0⟩
      noted.source
  some (({ noted with source }.allowKey broken).push (.scalar true (String.ofList text)))

/-- The token that starts with a character, `rest` being behind it. -/
def scanToken (lexer : Lexer) (character : Char) (rest : List Char) : Option Lexer :=
  match character with
  | '[' => lexer.openFlow .flowSequence
  | '\x7b' => lexer.openFlow .flowMapping
  | ']' => lexer.closeFlow .flowSequenceEnd
  | '\x7d' => lexer.closeFlow .flowMappingEnd
  | ',' => lexer.flowEntry
  | '*' => lexer.named .reference
  | '&' => lexer.named .anchor
  | '!' => lexer.tagged
  | '\'' => lexer.quotedScalar true
  | '"' => lexer.quotedScalar false
  | '%' => none
  | '@' => none
  | '\x60' => none
  | '|' => if lexer.inFlow then lexer.plainScalar else lexer.blockScalar true
  | '>' => if lexer.inFlow then lexer.plainScalar else lexer.blockScalar false
  | '-' => if endsHere rest then lexer.blockEntry else lexer.plainScalar
  | '?' => if endsHere rest then lexer.explicitKey else lexer.plainScalar
  | ':' =>
      if endsHere rest
          || (lexer.inFlow
            && (rest.head?.any isFlowMark || lexer.adjacentAt == some lexer.source.index)) then
        lexer.keyValue
      else lexer.plainScalar
  | _ => lexer.plainScalar

/-- Reads all tokens. -/
def run : Nat → Lexer → Option (List Token)
  | 0, _ => none
  | fuel + 1, lexer => do
      let spaced := skipSpacing (lexer.source.rest.length + 1) lexer
      let fresh ← spaced.dropStaleKeys
      let ready := fresh.dedentTo fresh.source.column
      match ready.source.rest with
      | [] =>
          let closed ← ready.closeAll
          some closed.tokens.reverse
      | character :: rest =>
          let next ←
            if ready.source.column == 0 && character == '%' then do
              let free ← ready.closeAll
              let source ← scanDirective free.source
              some ({ free with source }.push .directive)
            else if ready.source.atTriple '-' then ready.documentMarker .documentStart
            else if ready.source.atTriple '.' then ready.documentMarker .documentEnd
            else ready.scanToken character rest
          run fuel next

end Lexer

/-- The tokens of a text, if it has any that follow the rules of indentation and keys. -/
def Token.ofText? (text : List Char) : Option (List Token) :=
  Lexer.run (text.length + 2) (Lexer.start text)

end Provision.Yaml
