import Provision.Json.Lexeme

/-!
# JSON text

Reading a whole text as one value, and the parts of which reading in the manner of a type is made:
scalars, the steps through lists and objects, and skipping a value that nobody needs.
-/

set_option autoImplicit false

namespace Provision.Json

namespace Scanner

/-! ## Scalars -/

/-- The scalar that starts with the given character, which comes next. -/
def scalar (first : Char) : Scanner Json := do
  match first with
  | 'n' =>
      advance
      word ['u', 'l', 'l']
      pure .null
  | 't' =>
      advance
      word ['r', 'u', 'e']
      pure (.bool true)
  | 'f' =>
      advance
      word ['a', 'l', 's', 'e']
      pure (.bool false)
  | '"' =>
      advance
      Json.text <$> string
  | '-' =>
      advance
      number true
  | _ => if first.isDigit then number false else failAhead .expectedValue

/-- The first character of a value. -/
def valueStart : Scanner Char := do
  match ← peekPastSpacing with
  | none => failAhead .endInValue
  | some first => pure first

/-! ## Steps through lists and objects -/

/-- Whether another item follows in a list; `isFirst` tells that none has been read. -/
def anotherItem (isFirst : Bool) : Scanner Bool := do
  match ← peekPastSpacing with
  | none => failAhead .endInList
  | some ']' => pure false
  | some character =>
      if isFirst then pure true
      else if character == ',' then
        advance
        match ← peekPastSpacing with
        | none => failAhead .endInValue
        | some ']' => failAhead .trailingComma
        | some _ => pure true
      else failAhead .expectedCommaOrBracket

/-- Whether another member follows in an object; if so, its key comes next. -/
def anotherMember (isFirst : Bool) : Scanner Bool := do
  match ← peekPastSpacing with
  | none => failAhead .endInObject
  | some '\x7d' => pure false
  | some character =>
      if !isFirst && character != ',' then failAhead .expectedCommaOrBrace
      else
        if !isFirst then advance
        match ← peekPastSpacing with
        | none => failAhead .endInValue
        | some '"' => pure true
        | some '\x7d' => failAhead .trailingComma
        | some _ => failAhead .keyNotString

/-- The colon between a key and its value. -/
def colon : Scanner Unit := do
  match ← peekPastSpacing with
  | none => failAhead .endInObject
  | some ':' => advance
  | some _ => failAhead .expectedColon

/-- The end of a list. -/
def closeList : Scanner Unit := do
  match ← peekPastSpacing with
  | none => failAhead .endInList
  | some ']' => advance
  | some ',' =>
      advance
      match ← peekPastSpacing with
      | some ']' => failAhead .trailingComma
      | _ => failAhead .trailingCharacters
  | some _ => failAhead .trailingCharacters

/-- The end of an object. -/
def closeObject : Scanner Unit := do
  match ← peekPastSpacing with
  | none => failAhead .endInObject
  | some '\x7d' => advance
  | some ',' => failAhead .trailingComma
  | some _ => failAhead .trailingCharacters

/-- Where a list is left whose content is refused: behind its end, if that comes next. -/
def leaveList (cursor : Cursor) : Place :=
  let spaced := cursor.pastSpacing
  match spaced.rest with
  | ']' :: _ => spaced.next.place
  | ',' :: _ => spaced.next.pastSpacing.place
  | _ => spaced.place

/-- Where an object is left whose content is refused: behind its end, if that comes next. -/
def leaveObject (cursor : Cursor) : Place :=
  let spaced := cursor.pastSpacing
  match spaced.rest with
  | '\x7d' :: _ => spaced.next.place
  | _ => spaced.place

/-! ## Values of any kind -/

mutual
/-- One value. -/
def valueWithin : Nat → Scanner Json
  | 0 => failAhead .expectedValue
  | fuel + 1 => do
      match ← valueStart with
      | '[' => nested do
          advance
          let items ← itemsWithin fuel true
          closeList
          pure (.list items)
      | '\x7b' => nested do
          advance
          let members ← membersWithin fuel true
          closeObject
          pure (.object (Properties.ofMembers members))
      | first => scalar first

/-- The items of a list up to its end. -/
def itemsWithin : Nat → Bool → Scanner (List Json)
  | 0, _ => failAhead .expectedValue
  | fuel + 1, isFirst => do
      if ← anotherItem isFirst then
        let item ← valueWithin fuel
        let others ← itemsWithin fuel false
        pure (item :: others)
      else pure []

/-- The members of an object up to its end. -/
def membersWithin : Nat → Bool → Scanner (List (String × Json))
  | 0, _ => failAhead .expectedValue
  | fuel + 1, isFirst => do
      if ← anotherMember isFirst then
        advance
        let key ← string
        colon
        let value ← valueWithin fuel
        let others ← membersWithin fuel false
        pure ((key, value) :: others)
      else pure []
end

/-- Steps that suffice for what is left of the text. -/
def stepsLeft : Scanner Nat := do
  let cursor ← get
  pure (2 * cursor.rest.length + 2)

/-- One value of any kind. -/
def value : Scanner Json := do
  valueWithin (← stepsLeft)

/-! ## Values that nobody needs -/

mutual
/-- Skips one value. -/
def skipWithin : Nat → Scanner Unit
  | 0 => failAhead .expectedValue
  | fuel + 1 => do
      match ← valueStart with
      | '[' =>
          advance
          skipItemsWithin fuel true
      | '\x7b' =>
          advance
          skipMembersWithin fuel true
      | '"' =>
          advance
          skipString
      | '-' =>
          advance
          skipNumber
      | first =>
          if first.isDigit then skipNumber
          else
            let _ ← scalar first

/-- Skips the items of a list and its end. -/
def skipItemsWithin : Nat → Bool → Scanner Unit
  | 0, _ => failAhead .expectedValue
  | fuel + 1, isFirst => do
      match ← peekPastSpacing with
      | none => failAhead .endInList
      | some ']' => advance
      | some character =>
          if !isFirst && character != ',' then failAhead .expectedCommaOrBracket
          else
            if !isFirst then advance
            skipWithin fuel
            skipItemsWithin fuel false

/-- Skips the members of an object and its end. -/
def skipMembersWithin : Nat → Bool → Scanner Unit
  | 0, _ => failAhead .expectedValue
  | fuel + 1, isFirst => do
      match ← peekPastSpacing with
      | none => failAhead .endInObject
      | some '\x7d' => advance
      | some character =>
          if !isFirst && character != ',' then failAhead .expectedCommaOrBrace
          else
            if !isFirst then advance
            match ← peekPastSpacing with
            | none => failAhead .endInObject
            | some '"' =>
                advance
                skipString
                colon
                skipWithin fuel
                skipMembersWithin fuel false
            | some _ => failAhead .keyNotString
end

/-- Skips one value. -/
def skip : Scanner Unit := do
  skipWithin (← stepsLeft)

end Scanner

/-! ## Whole texts -/

/-- Runs a scanner over a whole text, behind which only spacing may follow. -/
def readWith {α : Type} (scanner : Scanner α) (text : String) : Except ReadFault α :=
  let whole : Scanner α := do
    let result ← scanner
    match ← Scanner.peekPastSpacing with
    | none => pure result
    | some _ => Scanner.failAhead .trailingCharacters
  (whole.run (Cursor.start text.toList)).map Prod.fst

/-- The value that a text holds. -/
def read (text : String) : Except ReadFault Json :=
  readWith Scanner.value text

end Provision.Json
