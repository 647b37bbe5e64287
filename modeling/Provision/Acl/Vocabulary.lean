import Provision.Failure
import Provision.Json.Lenient
import Provision.Number.Whole

/-!
# The vocabulary of access control

Four closed sets of terms, each term with a name and the number that stands for it in the broker's
protocol.  A term is read from its name, without regard to case, underscores, hyphens and spaces,
or from its number, also written as text.
-/

set_option autoImplicit false

namespace Provision.Acl

open Json (Codec CodeOrName)

/-- A name without underscores, hyphens and spaces, in upper case. -/
def normalizeName (name : String) : String :=
  let kept := name.toList.filter fun character =>
    character != '_' && character != '-' && character != ' '
  String.ofList (kept.flatMap Text.upperChar)

/-- A closed set of terms. -/
structure Vocabulary (α : Type) where
  /-- What the terms are, as messages call it. -/
  subject : String
  terms : List α
  name : α → String
  code : α → Nat

namespace Vocabulary

variable {α : Type}

/-- The term with a code. -/
def ofCode (vocabulary : Vocabulary α) (code : Int) : Outcome α :=
  match vocabulary.terms.find? fun term => ((vocabulary.code term : Nat) : Int) == code with
  | some term => .ok term
  | none =>
      .error (.validation ("无效的" ++ vocabulary.subject ++ "代码: " ++ Number.decimal code))

/-- The term with a name, or with a code written as text. -/
def ofText (vocabulary : Vocabulary α) (given : String) : Outcome α :=
  match Number.readSigned 10 (Text.trimChars given.toList) with
  | .ok code => vocabulary.ofCode code
  | .error _ =>
      let wanted := normalizeName given
      match vocabulary.terms.find? fun term => normalizeName (vocabulary.name term) == wanted with
      | some term => .ok term
      | none => .error (.validation ("无效的" ++ vocabulary.subject ++ ": " ++ given))

/-- The term that a code or name stands for. -/
def resolve (vocabulary : Vocabulary α) : CodeOrName → Outcome α
  | .code value => vocabulary.ofCode value
  | .name value => vocabulary.ofText value

/-- Decodes a term from its code or name. -/
def decode (vocabulary : Vocabulary α) (value : Json) : Except Json.DecodeFault α := do
  match vocabulary.resolve (← CodeOrName.decode value) with
  | .ok term => pure term
  | .error failure => throw (.refused failure.display)

/-- Terms, written by name. -/
def codec (vocabulary : Vocabulary α) : Codec α :=
  { decode := vocabulary.decode
    encode := fun term => .text (vocabulary.name term)
    scan := Json.Scanner.value }

end Vocabulary

/-! ## The four sets -/

/-- What an entry is about. -/
inductive ResourceType where
  | topic
  | group
  | cluster
  deriving DecidableEq, Repr

/-- How the resource name of an entry selects resources. -/
inductive PatternType where
  | literal
  | prefixed
  deriving DecidableEq, Repr

/-- What an entry allows or denies. -/
inductive Operation where
  | all
  | read
  | write
  | create
  | delete
  | alter
  | describe
  | clusterAction
  | describeConfigs
  | alterConfigs
  | idempotentWrite
  deriving DecidableEq, Repr

/-- Whether an entry allows or denies. -/
inductive Permission where
  | deny
  | allow
  deriving DecidableEq, Repr

/-- The name of a resource type. -/
def ResourceType.name : ResourceType → String
  | .topic => "Topic"
  | .group => "Group"
  | .cluster => "Cluster"

/-- The code of a resource type. -/
def ResourceType.code : ResourceType → Nat
  | .topic => 2
  | .group => 3
  | .cluster => 4

/-- The name of a pattern type. -/
def PatternType.name : PatternType → String
  | .literal => "Literal"
  | .prefixed => "Prefixed"

/-- The code of a pattern type. -/
def PatternType.code : PatternType → Nat
  | .literal => 3
  | .prefixed => 4

/-- The name of an operation. -/
def Operation.name : Operation → String
  | .all => "All"
  | .read => "Read"
  | .write => "Write"
  | .create => "Create"
  | .delete => "Delete"
  | .alter => "Alter"
  | .describe => "Describe"
  | .clusterAction => "ClusterAction"
  | .describeConfigs => "DescribeConfigs"
  | .alterConfigs => "AlterConfigs"
  | .idempotentWrite => "IdempotentWrite"

/-- The code of an operation. -/
def Operation.code : Operation → Nat
  | .all => 2
  | .read => 3
  | .write => 4
  | .create => 5
  | .delete => 6
  | .alter => 7
  | .describe => 8
  | .clusterAction => 9
  | .describeConfigs => 10
  | .alterConfigs => 11
  | .idempotentWrite => 12

/-- The name of a permission. -/
def Permission.name : Permission → String
  | .deny => "Deny"
  | .allow => "Allow"

/-- The code of a permission. -/
def Permission.code : Permission → Nat
  | .deny => 2
  | .allow => 3

/-- Resource types. -/
def resourceTypes : Vocabulary ResourceType :=
  { subject := " ACL 资源类型"
    terms := [.topic, .group, .cluster]
    name := ResourceType.name
    code := ResourceType.code }

/-- Pattern types. -/
def patternTypes : Vocabulary PatternType :=
  { subject := "资源匹配模式"
    terms := [.literal, .prefixed]
    name := PatternType.name
    code := PatternType.code }

/-- Operations. -/
def operations : Vocabulary Operation :=
  { subject := " ACL 操作"
    terms :=
      [.all, .read, .write, .create, .delete, .alter, .describe, .clusterAction,
        .describeConfigs, .alterConfigs, .idempotentWrite]
    name := Operation.name
    code := Operation.code }

/-- Permissions. -/
def permissions : Vocabulary Permission :=
  { subject := " ACL 权限类型"
    terms := [.deny, .allow]
    name := Permission.name
    code := Permission.code }

end Provision.Acl
