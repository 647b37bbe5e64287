import Provision.Number.Whole
import Provision.Number.Word
import Provision.Text.Blank
import Provision.Text.LetterTable
import Provision.Text.Pieces

/-!
# Log filters

A filter is a list of directives with commas between them.  A directive names a level, or a
target that may be narrowed to spans and given a level: `info`, `engine`, `engine=debug`,
`engine[poll{name}]=trace`.  `chosen?` says which of two filters is used.
-/

set_option autoImplicit false

namespace Provision.Logging

/-! ## Levels -/

/-- The names of levels. -/
def levelNames : List String := ["off", "error", "warn", "info", "debug", "trace"]

/-- Whether a text is empty, the name of a level in any case, or its number. -/
def isLevel (text : List Char) : Bool :=
  let numbered :=
    match Number.readUnsigned (Number.wordSize 64 - 1) text with
    | .ok number => number < levelNames.length
    | .error _ => false
  text.isEmpty || numbered || levelNames.contains (String.ofList (text.map Char.toLower))

/-! ## Directives -/

/-- What follows the spans of a target: nothing, or a level.  Blanks do not end a level, and one
cannot be given behind leading blanks. -/
def levelFollows (isLed : Bool) (rest : List Char) : Bool :=
  match rest with
  | '=' :: level => !isLed && isLevel level
  | _ => (Text.trimChars rest).isEmpty

/-- The spans of a target: a name, a field in braces, or both, and a closing bracket. -/
def spansFollow (isLed : Bool) (rest : List Char) : Bool :=
  match rest.dropWhile fun character => character != ']' && character != '\x7b' with
  | ']' :: behind => levelFollows isLed behind
  | '\x7b' :: behind =>
      let field := behind.takeWhile fun character => character != '\x7d'
      match behind.drop field.length with
      | '\x7d' :: ']' :: last => !field.isEmpty && levelFollows isLed last
      | _ => false
  | _ => false

/-- Whether a character may start the name of a level or a target. -/
def startsName (character : Char) : Bool :=
  character == '-' || character == ':' || character == '_' || Text.isLetterOrNumeral character

/-- Whether a text is a directive. -/
def isDirective (text : List Char) : Bool :=
  let directive := Text.trimStart text
  let isLed := directive.length < text.length
  match directive with
  | '[' :: rest => spansFollow isLed rest
  | character :: rest =>
      startsName character
        && match rest.dropWhile fun next => next != '=' && next != '[' with
          | '[' :: behind => spansFollow isLed behind
          | '=' :: level => levelFollows isLed ('=' :: level)
          | _ => true
  | [] => false

/-! ## Filters -/

/-- Whether a text is a filter; empty directives do not count. -/
def isFilter (text : String) : Bool :=
  (Text.pieces ',' text.toList).all fun piece => piece.isEmpty || isDirective piece

/-- The filter that is used: that of the environment if there is one and it is well-formed, else
the configured level. -/
def chosen? (level : String) (environment : Option String) : Option String :=
  match environment.filter isFilter with
  | some filter => some filter
  | none => if isFilter level then some level else none

/-- The complaint of a process in which logging is already set up. -/
def complaint (level : String) (environment : Option String) : String :=
  match chosen? level environment with
  | some _ => "初始化日志失败"
  | none => "无效的日志级别 " ++ level

end Provision.Logging
