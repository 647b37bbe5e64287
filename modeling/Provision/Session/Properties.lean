import Provision.Acl.Entry
import Provision.Cluster.Reference
import Provision.Topic.Spec

/-!
# Session properties

What a declaration says about the way to its cluster, alone and beside an entry or a topic.
-/

set_option autoImplicit false

namespace Provision.Session

open Json (Codec Record)

/-- The cluster to reach and the secret to reach it with. -/
structure Properties where
  clusterArn : String
  secretName : String
  logLevel : Option String
  deriving DecidableEq, Repr

namespace Properties

/-- The fields of session properties. -/
def record : Record Properties Properties :=
  Properties.mk
    <$> .required "clusterArn" Codec.text Properties.clusterArn ["mskClusterArn"]
    <*> .required "secretName" Codec.text Properties.secretName ["secretArn"]
    <*> .optional "logLevel" Codec.text Properties.logLevel

/-- Session properties as objects. -/
def codec : Codec Properties := record.codec "SessionProperties"

/-- The referred cluster, unless the reference is malformed or the secret's name is blank. -/
def validate (properties : Properties) : Outcome Cluster.Reference := do
  let cluster ← Cluster.Reference.parse properties.clusterArn
  if Text.isBlankText properties.secretName then throw (.validation "secretName 不能为空")
  pure cluster

/-- Whether the protocol is to be logged. -/
def debugEnabled (properties : Properties) : Bool :=
  match properties.logLevel with
  | none => false
  | some level => Text.equalAsciiCase level "DEBUG"

end Properties

/-- Decodes two records from the members of one object: the first one takes those whose keys it
knows, and the second one is decoded from the others. -/
def decodeBoth {α β : Type} (left : Record α α) (right : Record β β) (whole : String) :
    Json → Except Json.DecodeFault (α × β)
  | .object members => do
      let (taken, others) := members.partition fun member => left.knows member.1
      let first ← left.ofMembers taken
      let second ← right.ofMembers others
      pure (first, second)
  | other => .error (.invalidType other.found ("struct " ++ whole))

/-- A declared access control entry and the way to its cluster. -/
structure AclDeclaration where
  session : Properties
  entry : Acl.Entry
  deriving DecidableEq, Repr

namespace AclDeclaration

/-- Decodes a declaration. -/
def decode (value : Json) : Except Json.DecodeFault AclDeclaration := do
  let (session, entry) ← decodeBoth Properties.record Acl.Entry.record "AclProperties" value
  pure { session, entry }

/-- Refuses a bad entry, then bad session properties. -/
def validate (declaration : AclDeclaration) : Outcome Unit := do
  declaration.entry.validate
  let _ ← declaration.session.validate

end AclDeclaration

/-- A declared topic and the way to its cluster. -/
structure TopicDeclaration where
  session : Properties
  spec : Topic.Spec
  deriving DecidableEq, Repr

namespace TopicDeclaration

/-- Decodes a declaration. -/
def decode (value : Json) : Except Json.DecodeFault TopicDeclaration := do
  let (session, spec) ← decodeBoth Properties.record Topic.Spec.record "TopicProperties" value
  pure { session, spec }

end TopicDeclaration

end Provision.Session
