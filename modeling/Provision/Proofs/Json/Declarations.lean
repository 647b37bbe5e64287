import Provision.Cluster.Description
import Provision.Connectivity.Target
import Provision.Namespace.Spec
import Provision.Proofs.Cluster.Reference
import Provision.Proofs.Json.Canonical
import Provision.Session.Properties

/-!
# Declarations and descriptions are read back

What is declared may be written in many forms, with other names of the fields, with numbers and
booleans as text, with fields left out, and with terms by their codes. What is encoded has one form,
and that form is decoded as what it has been encoded for (`declarations_kept`). The only condition
is that numbers fit the words that they are kept in; a reference to a cluster is one that has been
parsed.

There is one law for each kind of field, so that the law of a record follows its definition.
-/

set_option autoImplicit false

namespace Provision

open Json (Codec Field Record)

/-! ## Access control -/

namespace Acl

theorem keeps_resourceType (term : ResourceType) : resourceTypes.codec.Keeps term := by
  cases term <;> rfl

theorem keeps_patternType (term : PatternType) : patternTypes.codec.Keeps term := by
  cases term <;> rfl

theorem keeps_operation (term : Operation) : operations.codec.Keeps term := by
  cases term <;> rfl

theorem keeps_permission (term : Permission) : permissions.codec.Keeps term := by
  cases term <;> rfl

theorem Entry.codec_keeps (entry : Entry) : Entry.codec.Keeps entry :=
  Record.codec_keeps "AclEntry" (by decide) <|
    (Record.keeps_required (keeps_resourceType _)).map Entry.mk
      |>.seq (Record.keeps_required (Codec.keeps_text _))
      |>.seq (Record.keeps_required (keeps_patternType _))
      |>.seq (Record.keeps_required (Codec.keeps_text _))
      |>.seq (Record.keeps_defaulted (Codec.keeps_text _))
      |>.seq (Record.keeps_required (keeps_operation _))
      |>.seq (Record.keeps_required (keeps_permission _))

/-- A term that is named is not null. -/
theorem keeps_term {α : Type} {vocabulary : Vocabulary α}
    (kept : ∀ term, vocabulary.codec.Keeps term) (term : Option α) :
    vocabulary.codec.nullable.Keeps term :=
  Codec.keeps_nullable fun present _ => ⟨kept present, nofun⟩

theorem Filter.codec_keeps (filter : Filter) : Filter.codec.Keeps filter :=
  Record.codec_keeps "AclFilter" (by decide) <|
    (Record.keeps_nullable (keeps_term keeps_resourceType _)).map Filter.mk
      |>.seq (Record.keeps_nullable (Codec.keeps_nullable_text _))
      |>.seq (Record.keeps_nullable (keeps_term keeps_patternType _))
      |>.seq (Record.keeps_nullable (Codec.keeps_nullable_text _))
      |>.seq (Record.keeps_nullable (Codec.keeps_nullable_text _))
      |>.seq (Record.keeps_nullable (keeps_term keeps_operation _))
      |>.seq (Record.keeps_nullable (keeps_term keeps_permission _))

end Acl

/-! ## Topics -/

namespace Topic

/-- The numbers of a declaration fit their words. -/
structure Spec.InRange (spec : Spec) : Prop where
  partitions : spec.partitionCount < Number.wordSize 32
  replicas : spec.replicationFactor < Number.wordSize 16
  wait : spec.leaderWaitMs < Number.wordSize 64

theorem ConfigEntry.codec_keeps (entry : ConfigEntry) :
    (ConfigEntry.record.codec "TopicConfigEntry").Keeps entry :=
  Record.codec_keeps "TopicConfigEntry" (by decide) <|
    (Record.keeps_required (Codec.keeps_text _)).map ConfigEntry.mk
      |>.seq (Record.keeps_required (Codec.keeps_text _))

theorem Spec.codec_keeps {spec : Spec} (inRange : spec.InRange) : Spec.codec.Keeps spec :=
  Record.codec_keeps "TopicSpec" (by decide) <|
    (Record.keeps_required (Codec.keeps_text _)).map Spec.mk
      |>.seq (Record.keeps_required (Codec.keeps_lenientNumber inRange.partitions))
      |>.seq (Record.keeps_required (Codec.keeps_lenientNumber inRange.replicas))
      |>.seq (Record.keeps_defaulted (Codec.keeps_lenientFlag _))
      |>.seq (Record.keeps_defaulted (Codec.keeps_lenientNumber inRange.wait))
      |>.seq (Record.keeps_defaulted
        (Codec.keeps_list fun entry _ => ConfigEntry.codec_keeps entry))

/-- A number with a sign fits 32 bits. -/
def IsWord (number : Int) : Prop :=
  -(Number.wordSize 31 : Int) ≤ number ∧ number < Number.wordSize 31

instance (number : Int) : Decidable (IsWord number) :=
  inferInstanceAs (Decidable (_ ∧ _))

/-- The numbers of a partition fit their words. -/
structure Partition.InRange (part : Partition) : Prop where
  partition : IsWord part.partition
  leader : ∀ leader, part.leader = some leader → IsWord leader
  replicas : ∀ replica ∈ part.replicas, IsWord replica

theorem Partition.codec_keeps {part : Partition} (inRange : part.InRange) :
    (Partition.record.codec "PartitionMetadata").Keeps part :=
  Record.codec_keeps "PartitionMetadata" (by decide) <|
    (Record.keeps_required (Codec.keeps_int32 inRange.partition)).map Partition.mk
      |>.seq (Record.keeps_nullable (Codec.keeps_nullable fun leader there =>
        ⟨Codec.keeps_int32 (inRange.leader leader there), nofun⟩))
      |>.seq (Record.keeps_required (Codec.keeps_list fun replica member =>
        Codec.keeps_int32 (inRange.replicas replica member)))

theorem Description.codec_keeps {description : Description}
    (inRange : ∀ part ∈ description.partitions, part.InRange) :
    Description.codec.Keeps description :=
  Record.codec_keeps "TopicDescription" (by decide) <|
    (Record.keeps_required (Codec.keeps_text _)).map Description.mk
      |>.seq (Record.keeps_required (Codec.keeps_list fun part member =>
        Partition.codec_keeps (inRange part member)))

end Topic

/-! ## Namespaces -/

namespace Namespace

theorem Status.codec_keeps (status : Status) : Status.codec.Keeps status := by
  cases status <;> rfl

/-- A text that may be left out. -/
theorem keeps_text_present {value : Option String} (present : String) (_ : value = some present) :
    Codec.text.nullable.Keeps (some present) :=
  Codec.keeps_nullable_text (some present)

theorem Spec.codec_keeps (spec : Spec) : Spec.codec.Keeps spec :=
  Record.codec_keeps "NamespaceSpec" (by decide) <|
    (Record.keeps_required (Codec.keeps_text _)).map Spec.mk
      |>.seq (Record.keeps_defaulted (Codec.keeps_text _))
      |>.seq (Record.keeps_optional keeps_text_present)
      |>.seq (Record.keeps_optional keeps_text_present)
      |>.seq (Record.keeps_defaulted (Codec.keeps_texts _))
      |>.seq (Record.keeps_optional keeps_text_present)
      |>.seq (Record.keeps_defaulted (Codec.keeps_texts _))

theorem Description.codec_keeps (description : Description) :
    Description.codec.Keeps description :=
  Record.codec_keeps "NamespaceDescription" (by decide) <|
    (Record.keeps_required (Codec.keeps_text _)).map Description.mk
      |>.seq (Record.keeps_required (Codec.keeps_text _))
      |>.seq (Record.keeps_required (Codec.keeps_text _))
      |>.seq (Record.keeps_required (Status.codec_keeps _))
      |>.seq (Record.keeps_required (Codec.keeps_text _))
      |>.seq (Record.keeps_defaulted (Codec.keeps_nullable_text _))
      |>.seq (Record.keeps_defaulted (Codec.keeps_nullable_text _))
      |>.seq (Record.keeps_defaulted (Codec.keeps_texts _))
      |>.seq (Record.keeps_defaulted (Codec.keeps_nullable_text _))
      |>.seq (Record.keeps_defaulted (Codec.keeps_texts _))

end Namespace

/-! ## Clusters -/

namespace Cluster

theorem State.codec_keeps (state : State) : State.codec.Keeps state := by
  cases state <;> rfl

theorem Settings.codec_keeps (settings : Settings) : Settings.codec.Keeps settings :=
  Record.codec_keeps "ConnectivitySettings" (by decide) <|
    (Record.keeps_required (Codec.keeps_flag _)).map Settings.mk
      |>.seq (Record.keeps_required (Codec.keeps_flag _))
      |>.seq (Record.keeps_required (Codec.keeps_flag _))

theorem Description.codec_keeps (description : Description) :
    Description.codec.Keeps description :=
  Record.codec_keeps "ClusterDescription" (by decide) <|
    (Record.keeps_required (State.codec_keeps _)).map Description.mk
      |>.seq (Record.keeps_required (Codec.keeps_text _))
      |>.seq (Record.keeps_defaulted (Codec.keeps_texts _))
      |>.seq (Record.keeps_defaulted (Codec.keeps_nullable fun settings _ =>
        ⟨Settings.codec_keeps settings, nofun⟩))

namespace Reference

theorem codec_keeps {given : String} {reference : Reference}
    (parsed : parse given = .ok reference) : codec.Keeps reference := by
  show decode (.text reference.arn) = _
  simp only [decode, Json.Codec.decodeText, bind, Except.bind, parse_arn parsed]
  rfl

end Reference

end Cluster

/-! ## The way to a cluster -/

namespace Connectivity

theorem Target.codec_keeps (target : Target) : Target.codec.Keeps target :=
  Record.codec_keeps "ConnectivityTarget" (by decide) <|
    (Record.keeps_required (Codec.keeps_text _)).map Target.mk
      |>.seq (Record.keeps_defaulted (Codec.keeps_lenientFlag _))
      |>.seq (Record.keeps_defaulted (Codec.keeps_lenientFlag _))
      |>.seq (Record.keeps_defaulted (Codec.keeps_lenientFlag _))
      |>.seq (Record.keeps_optional fun token _ => Codec.keeps_nullable_text (some token))

end Connectivity

namespace Session

theorem Properties.codec_keeps (properties : Properties) : Properties.codec.Keeps properties :=
  Record.codec_keeps "SessionProperties" (by decide) <|
    (Record.keeps_required (Codec.keeps_text _)).map Properties.mk
      |>.seq (Record.keeps_required (Codec.keeps_text _))
      |>.seq (Record.keeps_optional fun level _ => Codec.keeps_nullable_text (some level))

end Session

/-! ## All of them -/

/-- **Whatever is declared or described is decoded again from what it is encoded as.** -/
theorem declarations_kept :
    (∀ entry, Acl.Entry.codec.Keeps entry) ∧
      (∀ filter, Acl.Filter.codec.Keeps filter) ∧
      (∀ spec : Topic.Spec, spec.InRange → Topic.Spec.codec.Keeps spec) ∧
      (∀ description : Topic.Description, (∀ part ∈ description.partitions, part.InRange) →
        Topic.Description.codec.Keeps description) ∧
      (∀ spec, Namespace.Spec.codec.Keeps spec) ∧
      (∀ description, Namespace.Description.codec.Keeps description) ∧
      (∀ target, Connectivity.Target.codec.Keeps target) ∧
      (∀ description, Cluster.Description.codec.Keeps description) ∧
      (∀ properties, Session.Properties.codec.Keeps properties) ∧
      (∀ given reference, Cluster.Reference.parse given = .ok reference →
        Cluster.Reference.codec.Keeps reference) :=
  ⟨Acl.Entry.codec_keeps, Acl.Filter.codec_keeps, fun _ => Topic.Spec.codec_keeps,
    fun _ => Topic.Description.codec_keeps, Namespace.Spec.codec_keeps,
    Namespace.Description.codec_keeps, Connectivity.Target.codec_keeps,
    Cluster.Description.codec_keeps, Session.Properties.codec_keeps,
    fun _ _ => Cluster.Reference.codec_keeps⟩

/-- A topic is declared with the greatest numbers that fit. -/
def greatest : Topic.Spec :=
  { name := "orders"
    partitionCount := 4294967295
    replicationFactor := 65535
    waitForLeaders := true
    leaderWaitMs := 18446744073709551615
    configEntries := [{ name := "cleanup.policy", value := "compact" }] }

/-- A topic is described with the least and the greatest numbers that fit. -/
def farthest : Topic.Description :=
  { name := "orders"
    partitions :=
      [{ partition := 2147483647, leader := some (-2147483648), replicas := [-1, 2147483647] }] }

/-- Numbers at the bounds of their words are read back, and a reference from a text with blanks
around it. -/
theorem declarations_kept_extreme :
    (greatest.InRange ∧ Topic.Spec.codec.Keeps greatest) ∧
      ((∀ part ∈ farthest.partitions, part.InRange) ∧ Topic.Description.codec.Keeps farthest) ∧
      (Cluster.Reference.parse "\tarn:aws:kafka:eu-west-1:1:cluster/streaming/7 " =
          .ok ⟨"arn:aws:kafka:eu-west-1:1:cluster/streaming/7", "streaming"⟩ ∧
        Cluster.Reference.codec.Keeps
          ⟨"arn:aws:kafka:eu-west-1:1:cluster/streaming/7", "streaming"⟩) := by
  obtain ⟨-, -, specs, descriptions, -, -, -, -, -, references⟩ := declarations_kept
  have small : greatest.InRange := ⟨by decide, by decide, by decide⟩
  have parts : ∀ part ∈ farthest.partitions, part.InRange := by
    intro part member
    obtain rfl := List.mem_singleton.mp member
    exact ⟨by decide, by rintro leader ⟨⟩; decide, by decide⟩
  have parsed : Cluster.Reference.parse "\tarn:aws:kafka:eu-west-1:1:cluster/streaming/7 " =
      .ok ⟨"arn:aws:kafka:eu-west-1:1:cluster/streaming/7", "streaming"⟩ := rfl
  exact ⟨⟨small, specs _ small⟩, ⟨parts, descriptions _ parts⟩, ⟨parsed, references _ _ parsed⟩⟩

end Provision
