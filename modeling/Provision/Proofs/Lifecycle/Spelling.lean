import Provision.Acl.Lifecycle
import Provision.Connectivity.Lifecycle
import Provision.Proofs.Acl.Spelling
import Provision.Proofs.Session.Declarations
import Provision.Topic.Lifecycle

/-!
# Declarations in any spelling

Tools that write declarations differ in how they spell booleans, numbers and terms: some write
every value as a string. A declaration is respelled by replacing any of its scalars under a lenient
field, whatever the name of the field, by their text, and by writing the names of terms in other
letters and with other separators (`Respelled`). It then declares the same resource with the same
identifier, or is refused in both spellings (`respelling_declares_the_same`).

The records are taken field by field. Where a field is not lenient, it must be given the same.
-/

set_option autoImplicit false

namespace Provision

open Json (Codec Likeness MembersAlike Quoted Record)

/-! ## Spellings -/

/-- What may be respelled under a key. -/
inductive Spelling where
  /-- Nothing. -/
  | strict
  /-- Booleans and numbers, as their text. -/
  | scalar
  /-- The same, and the names of terms. -/
  | term
  deriving DecidableEq, Repr

namespace Spelling

/-- The names of the fields that hold terms. -/
def termKeys : List String :=
  ["resourceType", "resourcePatternType", "patternType", "operation", "permissionType"]

/-- The names of the fields that hold lenient booleans and numbers. -/
def scalarKeys : List String :=
  ["partitionCount", "numPartitions", "replicationFactor", "waitForLeaders",
    "leaderWaitTimeoutMs", "timeout", "publicAccess", "iamAuth", "Iam", "tlsAuth", "Tls"]

/-- What may be respelled under the key. -/
def ofKey (key : String) : Spelling :=
  if key ∈ termKeys then .term else if key ∈ scalarKeys then .scalar else .strict

end Spelling

/-- The second value is the first one, respelled as far as it is allowed. -/
inductive Respelled : Spelling → Json → Json → Prop where
  | kept (spelling : Spelling) (value : Json) : Respelled spelling value value
  | quoted {spelling : Spelling} {value other : Json} (lenient : spelling ≠ .strict)
      (quoted : Quoted value other) : Respelled spelling value other
  | retyped {given other : String} (retyped : Acl.Retyped given.toList other.toList)
      (lettered : ∃ letter ∈ given.toList, letter.isAlpha = true) :
      Respelled .term (.text given) (.text other)

/-- Values that may stand for each other under a key. -/
def respelling : Likeness := fun key => Respelled (Spelling.ofKey key)

/-! ## Fields -/

variable {α : Type} {codec : Codec α} {name : String}

/-- What is not lenient is given the same. -/
theorem tolerates_strict (strict : Spelling.ofKey name = .strict) :
    codec.Tolerates respelling name := by
  intro value other same
  unfold respelling at same
  rw [strict] at same
  cases same with
  | kept => exact .refl _
  | quoted lenient _ => exact absurd rfl lenient

/-- A codec that reads quoted scalars alike may stand under a lenient key. -/
theorem tolerates_scalar (scalar : Spelling.ofKey name = .scalar)
    (quotes : ∀ value other, Quoted value other → Agree (codec.decode value) (codec.decode other)) :
    codec.Tolerates respelling name := by
  intro value other same
  unfold respelling at same
  rw [scalar] at same
  cases same with
  | kept => exact .refl _
  | quoted _ quoted => exact quotes value other quoted

/-- Terms may stand under the key of a term. -/
theorem tolerates_term {vocabulary : Acl.Vocabulary α} (wordy : vocabulary.IsWordy)
    (term : Spelling.ofKey name = .term) : vocabulary.codec.Tolerates respelling name := by
  intro value other same
  unfold respelling at same
  rw [term] at same
  cases same with
  | kept => exact .refl _
  | quoted _ quoted => exact Acl.Vocabulary.decode_quoted wordy quoted
  | retyped retyped lettered => exact Acl.Vocabulary.decode_retyped retyped lettered

/-- All names of a field may be spelled alike. -/
theorem renames_of_spelling {aliases : List String}
    (same : ∀ key ∈ aliases, Spelling.ofKey key = Spelling.ofKey name) :
    ∀ key ∈ aliases, ∀ value other, respelling key value other → respelling name value other := by
  intro key member value other alike
  unfold respelling at alike ⊢
  rwa [← same key member]

/-! ## Records -/

theorem Session.Properties.tolerates : Session.Properties.record.Tolerates respelling :=
  ((Record.Tolerates.required (renames_of_spelling (by decide)) (tolerates_strict (by decide))).map
      Session.Properties.mk)
    |>.seq (.required (renames_of_spelling (by decide)) (tolerates_strict (by decide)))
    |>.seq (.optional (tolerates_strict (by decide)))

theorem Acl.Entry.tolerates : Acl.Entry.record.Tolerates respelling :=
  ((Record.Tolerates.required (renames_of_spelling (by decide))
      (tolerates_term Acl.Vocabulary.isWordy_resourceTypes (by decide))).map Acl.Entry.mk)
    |>.seq (.required (renames_of_spelling (by decide)) (tolerates_strict (by decide)))
    |>.seq (.required (renames_of_spelling (by decide))
        (tolerates_term Acl.Vocabulary.isWordy_patternTypes (by decide)))
    |>.seq (.required (renames_of_spelling (by decide)) (tolerates_strict (by decide)))
    |>.seq (.defaulted (renames_of_spelling (by decide)) (tolerates_strict (by decide)))
    |>.seq (.required (renames_of_spelling (by decide))
        (tolerates_term Acl.Vocabulary.isWordy_operations (by decide)))
    |>.seq (.required (renames_of_spelling (by decide))
        (tolerates_term Acl.Vocabulary.isWordy_permissions (by decide)))

theorem Topic.Spec.tolerates : Topic.Spec.record.Tolerates respelling :=
  ((Record.Tolerates.required (renames_of_spelling (by decide)) (tolerates_strict (by decide))).map
      Topic.Spec.mk)
    |>.seq (.required (renames_of_spelling (by decide))
        (tolerates_scalar (by decide) fun _ _ => Codec.decodeLenientNumber_quoted 32))
    |>.seq (.required (renames_of_spelling (by decide))
        (tolerates_scalar (by decide) fun _ _ => Codec.decodeLenientNumber_quoted 16))
    |>.seq (.defaulted (renames_of_spelling (by decide))
        (tolerates_scalar (by decide) fun _ _ => Codec.decodeLenientFlag_quoted))
    |>.seq (.defaulted (renames_of_spelling (by decide))
        (tolerates_scalar (by decide) fun _ _ => Codec.decodeLenientNumber_quoted 64))
    |>.seq (.defaulted (renames_of_spelling (by decide)) (tolerates_strict (by decide)))

theorem Connectivity.Target.tolerates : Connectivity.Target.record.Tolerates respelling :=
  ((Record.Tolerates.required (renames_of_spelling (by decide)) (tolerates_strict (by decide))).map
      Connectivity.Target.mk)
    |>.seq (.defaulted (renames_of_spelling (by decide))
        (tolerates_scalar (by decide) fun _ _ => Codec.decodeLenientFlag_quoted))
    |>.seq (.defaulted (renames_of_spelling (by decide))
        (tolerates_scalar (by decide) fun _ _ => Codec.decodeLenientFlag_quoted))
    |>.seq (.defaulted (renames_of_spelling (by decide))
        (tolerates_scalar (by decide) fun _ _ => Codec.decodeLenientFlag_quoted))
    |>.seq (.optional (tolerates_strict (by decide)))

/-! ## Declarations -/

variable {given other : Properties}

theorem decodeBoth_agree {β : Type} {left : Record α α} {right : Record β β}
    (apart : ∀ key ∈ Json.Field.keys right.fields, left.knows key = false)
    (first : left.Tolerates respelling) (second : right.Tolerates respelling) (whole : String)
    (respelt : MembersAlike respelling given other) :
    Agree (Session.decodeBoth left right whole (.object given))
      (Session.decodeBoth left right whole (.object other)) := by
  rw [Session.decodeBoth_object apart, Session.decodeBoth_object apart]
  exact (first.ofMembers respelt).bind fun session =>
    (second.ofMembers respelt).map fun declared => (session, declared)

theorem Lifecycle.Event.decodeProperties_agree {decode : Json → Except Json.DecodeFault α}
    (agree : Agree (decode (.object given)) (decode (.object other))) :
    Agree (Event.decodeProperties decode given) (Event.decodeProperties decode other) := by
  unfold Event.decodeProperties
  rcases agree_cases agree with ⟨value, first, second⟩ | ⟨fault, reason, first, second⟩
  · rw [first, second]
    exact .refl _
  · rw [first, second]
    exact agree_error _ _

/-- An event keeps the identifier that it carries, however its properties are spelled. -/
theorem Lifecycle.Event.idOr_agree (event : Event) {derived instead : Outcome String}
    (agree : Agree derived instead) :
    Agree (Event.idOr { event with properties := given } derived)
      (Event.idOr { event with properties := other } instead) := by
  unfold Event.idOr
  have same : Event.givenId? { event with properties := given } =
      Event.givenId? { event with properties := other } := rfl
  rw [same]
  split
  · exact .refl _
  · exact agree

open Lifecycle (Event)

/-- The properties declare the same resource with the same identifier, or neither is accepted, as
an entry, as a topic and as the connectivity of a cluster. -/
structure DeclareTheSame (given other : Properties) : Prop where
  entry : Agree (Session.AclDeclaration.decode (.object given))
    (Session.AclDeclaration.decode (.object other))
  entryId : ∀ event : Event, Agree (Acl.physicalId { event with properties := given })
    (Acl.physicalId { event with properties := other })
  topic : Agree (Session.TopicDeclaration.decode (.object given))
    (Session.TopicDeclaration.decode (.object other))
  topicId : ∀ (leaders : Settings.Leaders) (event : Event),
    Agree (Topic.physicalId leaders { event with properties := given })
      (Topic.physicalId leaders { event with properties := other })
  /-- What is made of a topic by the settings depends on whether it names a time to wait. -/
  topicDeclared : ∀ leaders : Settings.Leaders,
    Agree (Topic.declaration leaders given) (Topic.declaration leaders other)
  target : Agree (Connectivity.Target.codec.decode (.object given))
    (Connectivity.Target.codec.decode (.object other))
  targetId : ∀ event : Event, Agree (Connectivity.physicalId { event with properties := given })
    (Connectivity.physicalId { event with properties := other })

/-- **A declaration that is respelled declares the same resource with the same identifier, or
neither is accepted.** -/
theorem respelling_declares_the_same (respelt : MembersAlike respelling given other) :
    DeclareTheSame given other := by
  have entry : Agree (Session.AclDeclaration.decode (.object given))
      (Session.AclDeclaration.decode (.object other)) :=
    (decodeBoth_agree Session.acl_apart Session.Properties.tolerates Acl.Entry.tolerates
      "AclProperties" respelt).bind fun _ => .refl _
  have topic : Agree (Session.TopicDeclaration.decode (.object given))
      (Session.TopicDeclaration.decode (.object other)) :=
    (decodeBoth_agree Session.topic_apart Session.Properties.tolerates Topic.Spec.tolerates
      "TopicProperties" respelt).bind fun _ => .refl _
  have target : Agree (Connectivity.Target.codec.decode (.object given))
      (Connectivity.Target.codec.decode (.object other)) :=
    Connectivity.Target.tolerates.ofMembers respelt
  have declared (leaders : Settings.Leaders) :
      Agree (Topic.declaration leaders given) (Topic.declaration leaders other) := by
    unfold Topic.declaration
    rw [respelt.contains_eq, respelt.contains_eq]
    exact (Event.decodeProperties_agree topic).bind fun declared => .refl _
  exact
    { entry, topic, target
      topicDeclared := declared
      entryId := fun event => event.idOr_agree <|
        (Event.decodeProperties_agree entry).bind fun declared => .refl _
      topicId := fun leaders event => event.idOr_agree <|
        (declared leaders).bind fun declared => .refl _
      targetId := fun event => event.idOr_agree <|
        ((Event.decodeProperties_agree target).bind fun target => .refl _).bind
          fun target => .refl _ }

/-- An entry with its terms as codes and names. -/
def nativeEntry : Properties :=
  [("clusterArn", .text "arn:aws:kafka:eu-west-1:1:cluster/streaming/7"),
    ("secretName", .text "kafka-admin"), ("resourceType", .whole 2),
    ("resourceName", .text "orders"), ("patternType", .text "Literal"),
    ("principal", .text "User:CN=app"), ("operation", .text "IdempotentWrite"),
    ("permissionType", .whole 3)]

/-- The same entry with every value as text, and with its terms in other letters. -/
def spelledEntry : Properties :=
  [("clusterArn", .text "arn:aws:kafka:eu-west-1:1:cluster/streaming/7"),
    ("secretName", .text "kafka-admin"), ("resourceType", .text "2"),
    ("resourceName", .text "orders"), ("patternType", .text "LITERAL"),
    ("principal", .text "User:CN=app"), ("operation", .text "idempotent_Write"),
    ("permissionType", .text "3")]

/-- The two declare the same, and the first one declares something. -/
theorem respelling_declares_the_same_entry :
    MembersAlike respelling nativeEntry spelledEntry ∧
      DeclareTheSame nativeEntry spelledEntry ∧
      (Session.AclDeclaration.decode (.object nativeEntry)).toOption.isSome = true := by
  have quoted (key : String) (number : Int) (lenient : Spelling.ofKey key ≠ .strict) :
      respelling key (.whole number) (.text (Json.compact (.whole number))) :=
    .quoted lenient ⟨trivial, rfl⟩
  have respelt : MembersAlike respelling nativeEntry spelledEntry :=
    .cons ⟨rfl, .kept _ _⟩ <| .cons ⟨rfl, .kept _ _⟩ <|
      .cons ⟨rfl, quoted "resourceType" 2 (by decide)⟩ <| .cons ⟨rfl, .kept _ _⟩ <|
      .cons ⟨rfl, .retyped (.of_toLower_eq (by decide)) ⟨'l', by decide, rfl⟩⟩ <|
      .cons ⟨rfl, .kept _ _⟩ <|
      .cons ⟨rfl, .retyped (.of_toLower_eq (by decide)) ⟨'I', by decide, rfl⟩⟩ <|
      .cons ⟨rfl, quoted "permissionType" 3 (by decide)⟩ .nil
  exact ⟨respelt, respelling_declares_the_same respelt, by decide +kernel⟩

end Provision
