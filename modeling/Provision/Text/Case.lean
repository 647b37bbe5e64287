import Provision.Text.CaseTable

/-!
# Case mapping

The full upper and lower case mappings of Unicode.  Upper case maps character by character, and
one character may become several.  Lower case looks around a capital sigma: it becomes the final
form when a cased letter comes before it and none after it, where case-ignorable characters in
between are skipped.
-/

set_option autoImplicit false

namespace Provision.Text

/-! ## Single characters -/

/-- What a table of runs and expansions maps a code point to. -/
def mapCode (runs : List CaseRun) (expansions : List (Nat × List Nat)) (code : Nat) : List Nat :=
  match expansions.find? fun expansion => expansion.1 == code with
  | some expansion => expansion.2
  | none =>
      match runs.find? fun run => run.covers code with
      | some run => [((code : Int) + run.offset).toNat]
      | none => [code]

/-- The upper case of one character. -/
def upperChar (character : Char) : List Char :=
  if character.toNat < 0x80 then [character.toUpper]
  else (mapCode upperRuns upperExpansions character.toNat).map Char.ofNat

/-- The lower case of one character, without regard to what stands around it. -/
def lowerChar (character : Char) : List Char :=
  if character.toNat < 0x80 then [character.toLower]
  else (mapCode lowerRuns lowerExpansions character.toNat).map Char.ofNat

/-! ## Texts -/

/-- The text in upper case. -/
def upper (text : String) : String :=
  String.ofList (text.toList.flatMap upperChar)

/-- Characters that the sigma rule skips. -/
def isCaseIgnorable (character : Char) : Bool :=
  if character.toNat < 0x80 then
    character == '\'' || character == '.' || character == ':' || character == '^'
      || character.toNat == 0x60
  else CodeRange.anyHolds caseIgnorableRanges character.toNat

/-- Letters that have case and are not skipped by the sigma rule. -/
def isCased (character : Char) : Bool :=
  if character.toNat < 0x80 then character.isAlpha
  else CodeRange.anyHolds casedRanges character.toNat

/-- Whether the first character that is not case-ignorable is cased. -/
def reachesCased (characters : List Char) : Bool :=
  match characters.dropWhile isCaseIgnorable with
  | [] => false
  | character :: _ => isCased character

/-- Lower case of the characters, given the ones before them in reverse order. -/
def lowerFrom : List Char → List Char → List Char
  | _, [] => []
  | before, character :: rest =>
      (if character.toNat == 0x3A3 then
        if reachesCased before && !reachesCased rest then ['ς'] else ['σ']
      else lowerChar character) ++ lowerFrom (character :: before) rest

/-- The text in lower case. -/
def lower (text : String) : String :=
  String.ofList (lowerFrom [] text.toList)

/-- Whether two texts are equal up to the case of ASCII letters. -/
def equalAsciiCase (left right : String) : Bool :=
  left.toList.map Char.toLower == right.toList.map Char.toLower

end Provision.Text
