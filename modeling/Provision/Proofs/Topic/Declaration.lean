import Provision.Proofs.Json.Decoding
import Provision.Topic.Lifecycle

/-!
# The counts of a declared topic

The counts of a declared topic fit their words, and it has at least one partition
(`declaration_fits`). A topic created from a declaration is therefore described with exactly the
declared counts.
-/

set_option autoImplicit false

namespace Provision

namespace Topic

/-- The counts are positive and fit their words. -/
structure Spec.Fits (spec : Spec) : Prop where
  partitions_pos : 0 < spec.partitionCount
  partitions_lt : spec.partitionCount < Number.wordSize 32
  replicas_lt : spec.replicationFactor < Number.wordSize 16

theorem Spec.lt_of_build {given : String → Option Json} {spec : Spec}
    (built : Spec.record.build given = .ok spec) :
    spec.partitionCount < Number.wordSize 32 ∧ spec.replicationFactor < Number.wordSize 16 := by
  obtain ⟨_, configEntries, fifth, -, rfl⟩ := Json.Record.build_apply built
  obtain ⟨_, leaderWaitMs, fourth, -, rfl⟩ := Json.Record.build_apply fifth
  obtain ⟨_, waitForLeaders, third, -, rfl⟩ := Json.Record.build_apply fourth
  obtain ⟨_, replicationFactor, second, replicas, rfl⟩ := Json.Record.build_apply third
  obtain ⟨_, partitionCount, first, partitions, rfl⟩ := Json.Record.build_apply second
  obtain ⟨_, name, none, -, rfl⟩ := Json.Record.build_apply first
  cases none
  obtain ⟨count, counted⟩ := Json.Record.build_required partitions
  obtain ⟨factor, replicated⟩ := Json.Record.build_required replicas
  exact ⟨Json.Codec.lenientNumber_lt counted, Json.Codec.lenientNumber_lt replicated⟩

theorem Spec.partitionCount_pos {spec : Spec} (valid : spec.validate = .ok ()) :
    0 < spec.partitionCount := by
  refine Nat.pos_of_ne_zero fun none => ?_
  unfold Spec.validate at valid
  rw [none] at valid
  split at valid
  · cases valid
  · split at valid
    · cases valid
    · split at valid
      · cases valid
      · cases valid

/-- A declared topic has the name that is decoded. -/
theorem exists_decoded {leaders : Settings.Leaders} {properties : Properties}
    {declared : Session.TopicDeclaration}
    (decoded : declaration leaders properties = .ok declared) :
    ∃ given, Lifecycle.Event.decodeProperties Session.TopicDeclaration.decode properties =
        .ok given ∧ declared.spec.name = given.spec.name := by
  unfold declaration at decoded
  obtain ⟨given, parsed, checks⟩ := exists_of_bind_eq_ok decoded
  obtain ⟨_, -, later⟩ := exists_of_bind_eq_ok checks
  obtain ⟨_, -, same⟩ := exists_of_bind_eq_ok later
  cases same
  refine ⟨given, parsed, ?_⟩
  split <;> rfl

/-- **The counts of a declared topic fit their words, and there is a partition.** -/
theorem declaration_fits {leaders : Settings.Leaders} {properties : Properties}
    {declared : Session.TopicDeclaration}
    (decoded : declaration leaders properties = .ok declared) : declared.spec.Fits := by
  unfold declaration at decoded
  obtain ⟨given, parsed, checks⟩ := exists_of_bind_eq_ok decoded
  obtain ⟨⟨⟩, valid, later⟩ := exists_of_bind_eq_ok checks
  obtain ⟨cluster, -, same⟩ := exists_of_bind_eq_ok later
  cases same
  have small : given.spec.partitionCount < Number.wordSize 32 ∧
      given.spec.replicationFactor < Number.wordSize 16 := by
    unfold Lifecycle.Event.decodeProperties at parsed
    split at parsed
    · rename_i found read
      cases parsed
      obtain ⟨⟨session, spec⟩, both, same⟩ := exists_of_bind_eq_ok read
      cases same
      obtain ⟨_, -, second⟩ := exists_of_bind_eq_ok both
      obtain ⟨_, third, last⟩ := exists_of_bind_eq_ok second
      cases last
      obtain ⟨members, -, built⟩ := exists_of_bind_eq_ok third
      exact Spec.lt_of_build built
    · cases parsed
  refine ⟨Spec.partitionCount_pos valid, ?_, ?_⟩
  · split
    · exact small.1
    · exact small.1
  · split
    · exact small.2
    · exact small.2

end Topic

end Provision
