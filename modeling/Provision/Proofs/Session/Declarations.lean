import Provision.Connectivity.Target
import Provision.Namespace.Spec
import Provision.Proofs.Json.Rearrangement
import Provision.Session.Properties

/-!
# Declarations are read by their keys

The declaration of an entry or of a topic is one object for two records: the way to the cluster takes
the members that it knows, and what is declared is decoded from the others. No key is known to both,
so nothing is taken away from the second record, and the declaration is decoded just as the two
records are decoded each from the whole object (`AclDeclaration.decode_eq_ok_iff`,
`TopicDeclaration.decode_eq_ok_iff`).

What is decoded depends on the members under known keys alone. They may stand in any order and
anything may stand between them (`declarations_read_by_key`).
-/

set_option autoImplicit false

namespace Provision

open Json (DecodeFault Field Rearranged Record)

variable {α β : Type} {members others : List (String × Json)}

/-! ## Two records in one object -/

namespace Session

variable {left : Record α α} {right : Record β β}

/-- **Records without a common key are decoded each from all members.** -/
theorem decodeBoth_object (apart : ∀ key ∈ Field.keys right.fields, left.knows key = false)
    (whole : String) (members : List (String × Json)) :
    decodeBoth left right whole (.object members) = (do
      let first ← left.ofMembers members
      let second ← right.ofMembers members
      pure (first, second)) := by
  have first : left.ofMembers (members.filter fun member => left.knows member.1) =
      left.ofMembers members :=
    Record.ofMembers_filter left.knows fun key known => Record.knows_iff.mpr known
  have second : right.ofMembers (members.filter fun member => !left.knows member.1) =
      right.ofMembers members :=
    Record.ofMembers_filter (fun key => !left.knows key) fun key known => by
      rw [apart key known, Bool.not_false]
  rw [← first, ← second]
  simp only [decodeBoth, List.partition_eq_filter_filter]
  rfl

/-- **Both records are decoded from one object if each of them is.** -/
theorem decodeBoth_eq_ok_iff (apart : ∀ key ∈ Field.keys right.fields, left.knows key = false)
    (whole : String) {first : α} {second : β} :
    decodeBoth left right whole (.object members) = .ok (first, second) ↔
      left.ofMembers members = .ok first ∧ right.ofMembers members = .ok second := by
  rw [decodeBoth_object apart]
  cases left.ofMembers members with
  | error fault => simp [bind, Except.bind]
  | ok given =>
      cases right.ofMembers members with
      | error fault => simp [bind, Except.bind]
      | ok other => simp [bind, Except.bind, pure, Except.pure]

theorem acl_apart : ∀ key ∈ Field.keys Acl.Entry.record.fields,
    Properties.record.knows key = false := by
  decide

theorem topic_apart : ∀ key ∈ Field.keys Topic.Spec.record.fields,
    Properties.record.knows key = false := by
  decide

namespace AclDeclaration

/-- **An entry is declared by an object that holds both the way to a cluster and an entry.** -/
theorem decode_eq_ok_iff {session : Properties} {entry : Acl.Entry} :
    decode (.object members) = .ok ⟨session, entry⟩ ↔
      Properties.codec.decode (.object members) = .ok session ∧
        Acl.Entry.codec.decode (.object members) = .ok entry := by
  refine Iff.trans ?_ (decodeBoth_eq_ok_iff acl_apart "AclProperties")
  rw [decode]
  cases decodeBoth Properties.record Acl.Entry.record "AclProperties" (.object members) with
  | error fault => simp [bind, Except.bind]
  | ok both => simp [bind, Except.bind, pure, Except.pure, Prod.ext_iff]

end AclDeclaration

namespace TopicDeclaration

/-- **A topic is declared by an object that holds both the way to a cluster and a topic.** -/
theorem decode_eq_ok_iff {session : Properties} {spec : Topic.Spec} :
    decode (.object members) = .ok ⟨session, spec⟩ ↔
      Properties.codec.decode (.object members) = .ok session ∧
        Topic.Spec.codec.decode (.object members) = .ok spec := by
  refine Iff.trans ?_ (decodeBoth_eq_ok_iff topic_apart "TopicProperties")
  rw [decode]
  cases decodeBoth Properties.record Topic.Spec.record "TopicProperties" (.object members) with
  | error fault => simp [bind, Except.bind]
  | ok both => simp [bind, Except.bind, pure, Except.pure, Prod.ext_iff]

end TopicDeclaration

end Session

/-! ## Members in any order -/

/-- What is decoded depends on the members under the keys alone, and not on their order. -/
def ReadByKey (keys : List String) (decode : Json → Except DecodeFault α) : Prop :=
  ∀ members others, Rearranged keys members others →
    Agree (decode (.object members)) (decode (.object others))

namespace ReadByKey

theorem codec (name : String) (record : Record α α) :
    ReadByKey (Field.keys record.fields) (record.codec name).decode :=
  fun _ _ => Record.ofMembers_rearranged

theorem decodeBoth {left : Record α α} {right : Record β β}
    (apart : ∀ key ∈ Field.keys right.fields, left.knows key = false) (whole : String) :
    ReadByKey (Field.keys left.fields ++ Field.keys right.fields)
      (Session.decodeBoth left right whole) := by
  intro members others rearranged
  rw [Session.decodeBoth_object apart, Session.decodeBoth_object apart]
  exact (Record.ofMembers_rearranged (rearranged.mono (List.subset_append_left _ _))).bind
    fun first => (Record.ofMembers_rearranged
      (rearranged.mono (List.subset_append_right _ _))).map fun second => (first, second)

theorem bind {keys : List String} {decode : Json → Except DecodeFault α}
    (reads : ReadByKey keys decode) (follow : α → Except DecodeFault β) :
    ReadByKey keys fun value => decode value >>= follow :=
  fun members others rearranged => (reads members others rearranged).bind fun _ => .refl _

end ReadByKey

/-- **Declarations are read by their keys.** The members of a declaration may be put into any order,
and members under keys that are no name of a field may be added anywhere: it is decoded as the same
value as before, or refused as before. And where a declaration is of two parts, it is decoded just
as the two parts are decoded from the same members. -/
theorem declarations_read_by_key :
    ReadByKey (Field.keys Session.Properties.record.fields) Session.Properties.codec.decode ∧
      ReadByKey (Field.keys Acl.Entry.record.fields) Acl.Entry.codec.decode ∧
      ReadByKey (Field.keys Topic.Spec.record.fields) Topic.Spec.codec.decode ∧
      ReadByKey (Field.keys Namespace.Spec.record.fields) Namespace.Spec.codec.decode ∧
      ReadByKey (Field.keys Connectivity.Target.record.fields)
        Connectivity.Target.codec.decode ∧
      ReadByKey (Field.keys Session.Properties.record.fields ++
        Field.keys Acl.Entry.record.fields) Session.AclDeclaration.decode ∧
      ReadByKey (Field.keys Session.Properties.record.fields ++
        Field.keys Topic.Spec.record.fields) Session.TopicDeclaration.decode ∧
      (∀ members session entry,
        Session.AclDeclaration.decode (.object members) = .ok ⟨session, entry⟩ ↔
          Session.Properties.codec.decode (.object members) = .ok session ∧
            Acl.Entry.codec.decode (.object members) = .ok entry) ∧
      ∀ members session spec,
        Session.TopicDeclaration.decode (.object members) = .ok ⟨session, spec⟩ ↔
          Session.Properties.codec.decode (.object members) = .ok session ∧
            Topic.Spec.codec.decode (.object members) = .ok spec :=
  ⟨.codec _ _, .codec _ _, .codec _ _, .codec _ _, .codec _ _,
    (ReadByKey.decodeBoth Session.acl_apart _).bind _,
    (ReadByKey.decodeBoth Session.topic_apart _).bind _,
    fun _ _ _ => Session.AclDeclaration.decode_eq_ok_iff,
    fun _ _ _ => Session.TopicDeclaration.decode_eq_ok_iff⟩

/-- The declaration of a topic. -/
def plainTopic : List (String × Json) :=
  [("clusterArn", .text "arn:aws:kafka:eu-west-1:1:cluster/streaming/7"),
    ("secretName", .text "client"), ("name", .text "orders"), ("partitionCount", .whole 3),
    ("replicationFactor", .text "2")]

/-- The same members the other way round, with one among them that means nothing here. -/
def strewnTopic : List (String × Json) :=
  [("replicationFactor", .text "2"), ("partitionCount", .whole 3),
    ("ServiceToken", .list [.null]), ("name", .text "orders"), ("secretName", .text "client"),
    ("clusterArn", .text "arn:aws:kafka:eu-west-1:1:cluster/streaming/7")]

/-- The declaration of the topic is read in either order, as the two parts that are read from
it. -/
theorem declarations_read_by_key_strewn :
    Rearranged (Field.keys Session.Properties.record.fields ++
        Field.keys Topic.Spec.record.fields) plainTopic strewnTopic ∧
      Session.TopicDeclaration.decode (.object strewnTopic) =
        .ok ⟨⟨"arn:aws:kafka:eu-west-1:1:cluster/streaming/7", "client", none⟩,
          Topic.Spec.plain "orders" 3 2⟩ := by
  obtain ⟨-, -, -, -, -, -, reads, -, parts⟩ := declarations_read_by_key
  have rearranged : Rearranged (Field.keys Session.Properties.record.fields ++
      Field.keys Topic.Spec.record.fields) plainTopic strewnTopic := by
    refine ⟨[("ServiceToken", .list [.null])], by decide, ?_⟩
    have middle : strewnTopic.Perm (("ServiceToken", .list [.null]) :: plainTopic.reverse) :=
      @List.perm_middle _ _ [_, _] [_, _, _]
    exact middle.trans (((List.reverse_perm plainTopic).cons _).trans
      (List.perm_append_singleton _ _).symm)
  refine ⟨rearranged, (agree_iff.mp (reads _ _ rearranged) _).mp ?_⟩
  exact (parts _ _ _).mpr ⟨rfl, rfl⟩

end Provision
