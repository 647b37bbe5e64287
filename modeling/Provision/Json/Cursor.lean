import Provision.Json.Fault

/-!
# Reading positions in a text

A cursor stands before the characters that are left and knows its place: the line and the bytes
read in it.  Scanners step forward through a cursor and stop at the first fault.  A fault is
placed either where the cursor stands or just behind the next byte, when that byte is the wrong
one.
-/

set_option autoImplicit false

namespace Provision.Json

/-- What is left of a text, the place reached, and how many levels of nesting may still be
opened. -/
structure Cursor where
  rest : List Char
  place : Place
  levels : Nat

namespace Cursor

/-- The start of a text, with room for 127 levels. -/
def start (characters : List Char) : Cursor :=
  { rest := characters, place := ⟨1, 0⟩, levels := 128 }

/-- The place behind a character. -/
def placeBehind (place : Place) (character : Char) : Place :=
  if character == '\n' then ⟨place.line + 1, 0⟩
  else ⟨place.line, place.column + character.utf8Size⟩

/-- The place behind the next byte; at the end, the end. -/
def placeAhead (cursor : Cursor) : Place :=
  match cursor.rest with
  | [] => cursor.place
  | character :: _ =>
      if character == '\n' then ⟨cursor.place.line + 1, 0⟩
      else ⟨cursor.place.line, cursor.place.column + 1⟩

/-- The cursor behind the next character. -/
def next (cursor : Cursor) : Cursor :=
  match cursor.rest with
  | [] => cursor
  | character :: rest =>
      { cursor with rest := rest, place := placeBehind cursor.place character }

/-- The cursor behind the given number of characters. -/
def skip (cursor : Cursor) : Nat → Cursor
  | 0 => cursor
  | count + 1 => cursor.next.skip count

/-- The place behind the given number of bytes, which may end inside a character. -/
def placeAfterBytes (place : Place) : List Char → Nat → Place
  | [], _ => place
  | character :: rest, bytes =>
      if character.utf8Size ≤ bytes then
        placeAfterBytes (placeBehind place character) rest (bytes - character.utf8Size)
      else ⟨place.line, place.column + bytes⟩

/-- Space, tab, line feed and carriage return. -/
def isSpacing (character : Char) : Bool :=
  character == ' ' || character == '\n' || character == '\t' || character == '\r'

/-- The place behind leading spacing. -/
def placeAfterSpacing (place : Place) : List Char → Place
  | [] => place
  | character :: rest =>
      if isSpacing character then placeAfterSpacing (placeBehind place character) rest else place

/-- The cursor behind leading spacing. -/
def pastSpacing (cursor : Cursor) : Cursor :=
  { cursor with
    rest := cursor.rest.dropWhile isSpacing
    place := placeAfterSpacing cursor.place cursor.rest }

end Cursor

/-- A step through a text. -/
abbrev Scanner (α : Type) := StateT Cursor (Except ReadFault) α

namespace Scanner

variable {α : Type}

/-- Stops with a fault where the cursor stands. -/
def failHere (cause : ReadCause) : Scanner α := fun cursor => .error ⟨cause, cursor.place⟩

/-- Stops with a fault of form behind the next byte. -/
def failAhead (fault : SyntaxFault) : Scanner α :=
  fun cursor => .error ⟨.form fault, cursor.placeAhead⟩

/-- The next character, which is not consumed. -/
def peek : Scanner (Option Char) := fun cursor => .ok (cursor.rest.head?, cursor)

/-- Consumes the next character. -/
def advance : Scanner Unit := fun cursor => .ok ((), cursor.next)

/-- Consumes spacing and shows the next character. -/
def peekPastSpacing : Scanner (Option Char) :=
  fun cursor => .ok (cursor.pastSpacing.rest.head?, cursor.pastSpacing)

/-- Consumes the given letters. -/
def word : List Char → Scanner Unit
  | [] => pure ()
  | letter :: letters => do
      match ← peek with
      | none => failHere (.form .endInValue)
      | some character =>
          if character == letter then
            advance
            word letters
          else failAhead .expectedIdent

/-- Runs a scanner one level deeper, unless no level is left. -/
def nested (inner : Scanner α) : Scanner α := do
  let outside ← get
  if outside.levels ≤ 1 then failAhead .tooDeep
  else
    set { outside with levels := outside.levels - 1 }
    let result ← inner
    modify fun inside => { inside with levels := outside.levels }
    pure result

end Scanner

end Provision.Json
