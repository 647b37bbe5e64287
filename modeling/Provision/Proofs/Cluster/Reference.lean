import Provision.Cluster.Reference
import Provision.Proofs.Text.Blanks
import Provision.Proofs.Text.Separated

/-!
# The grammar of references to clusters

A reference to a cluster is a text of parts with fixed words and separators between them. The parts
say by which characters they end: the partition, the region and the account have no colon in them,
the name of the cluster and what makes it unique have no slash, so that these two may well have
colons. A text is accepted just if it is written from such parts (`parse_eq_ok_iff`), and it is
written from one choice of parts only (`Parts.written_inj`).

Blanks around the text do not count. The reference keeps the text without them, so that it is found
again by that text (`parse_arn`).
-/

set_option autoImplicit false

namespace Provision.Cluster.Reference

open Text (pieces piecesAtMost separated trim trimChars)

/-- What a reference is made of. -/
structure Parts where
  partition : String
  region : String
  account : String
  name : String
  unique : String
  partition_colonless : ':' ∉ partition.toList
  region_colonless : ':' ∉ region.toList
  region_filled : region ≠ ""
  account_colonless : ':' ∉ account.toList
  account_filled : account ≠ ""
  name_slashless : '/' ∉ name.toList
  name_filled : name ≠ ""
  unique_slashless : '/' ∉ unique.toList
  unique_filled : unique ≠ ""

namespace Parts

/-- The reference as a text. -/
def written (parts : Parts) : String :=
  "arn:" ++ parts.partition ++ ":kafka:" ++ parts.region ++ ":" ++ parts.account ++ ":cluster/"
    ++ parts.name ++ "/" ++ parts.unique

/-- The last part. -/
def resource (parts : Parts) : List Char :=
  separated '/' ["cluster".toList, parts.name.toList] parts.unique.toList

theorem toList_written (parts : Parts) :
    parts.written.toList =
      separated ':' ["arn".toList, parts.partition.toList, "kafka".toList, parts.region.toList,
        parts.account.toList] parts.resource := by
  simp [written, resource, separated]

theorem pieces_resource (parts : Parts) :
    pieces '/' parts.resource =
      ["cluster".toList, parts.name.toList, parts.unique.toList] :=
  (Text.pieces_eq_iff ["cluster".toList, parts.name.toList]).mpr
    ⟨by simp [parts.name_slashless], parts.unique_slashless, rfl⟩

theorem piecesAtMost_written (parts : Parts) :
    piecesAtMost ':' 6 parts.written.toList =
      ["arn".toList, parts.partition.toList, "kafka".toList, parts.region.toList,
        parts.account.toList, parts.resource] :=
  (Text.piecesAtMost_eq_iff ["arn".toList, parts.partition.toList, "kafka".toList,
      parts.region.toList, parts.account.toList]).mpr
    ⟨by simp [parts.partition_colonless, parts.region_colonless, parts.account_colonless],
      parts.toList_written⟩

/-- **A text is made of parts in one way only.** -/
theorem written_inj {parts other : Parts} (same : parts.written = other.written) :
    parts = other := by
  have cut := parts.piecesAtMost_written
  rw [same, other.piecesAtMost_written] at cut
  simp only [List.cons.injEq, String.toList_inj, true_and, and_true] at cut
  obtain ⟨partition, region, account, resource⟩ := cut
  have last := parts.pieces_resource
  rw [← resource, other.pieces_resource] at last
  simp only [List.cons.injEq, String.toList_inj, true_and, and_true] at last
  obtain ⟨name, unique⟩ := last
  cases parts
  cases other
  simp_all

end Parts

theorem resourceName?_resource (parts : Parts) :
    resourceName? parts.resource = some parts.name.toList := by
  simp [resourceName?, parts.pieces_resource, parts.name_filled, parts.unique_filled]

/-- A last part with a name in it has the form of one. -/
theorem exists_of_resourceName? {resource name : List Char}
    (found : resourceName? resource = some name) :
    ∃ unique, name ≠ [] ∧ unique ≠ [] ∧ '/' ∉ name ∧ '/' ∉ unique ∧
      resource = separated '/' ["cluster".toList, name] unique := by
  simp only [resourceName?] at found
  split at found
  · rename_i kind middle unique cut
    split at found
    · rename_i filled
      cases found
      obtain ⟨free, slashless, shape⟩ :=
        (Text.pieces_eq_iff [kind, name]).mp cut
      simp only [Bool.and_eq_true, beq_iff_eq, Bool.not_eq_true', List.isEmpty_eq_false_iff]
        at filled
      obtain ⟨⟨rfl, named⟩, something⟩ := filled
      exact ⟨unique, named, something, free name (by simp), slashless, shape⟩
    · cases found
  · cases found

/-- **A text is a reference just if it is made of the parts of one,** but for blanks around it. -/
theorem parse_eq_ok_iff {given : String} {reference : Reference} :
    parse given = .ok reference ↔
      ∃ parts : Parts, trim given = parts.written ∧ reference = ⟨trim given, parts.name⟩ := by
  constructor
  · intro parsed
    simp only [parse] at parsed
    split at parsed
    · rename_i scheme partition service region account resource cut
      split at parsed
      · cases parsed
      · rename_i words
        split at parsed
        · cases parsed
        · rename_i filled
          split at parsed
          · rename_i name found
            cases parsed
            obtain ⟨frees, shape⟩ :=
              (Text.piecesAtMost_eq_iff [scheme, partition, service, region, account]).mp cut
            obtain ⟨unique, named, something, nameFree, uniqueFree, rfl⟩ :=
              exists_of_resourceName? found
            simp only [Bool.or_eq_true, bne_iff_ne, ne_eq, not_or, not_not,
              List.isEmpty_iff] at words filled
            obtain ⟨rfl, rfl⟩ := words
            simp only [List.forall_mem_cons] at frees
            obtain ⟨-, partitionFree, -, regionFree, accountFree, -⟩ := frees
            let parts : Parts :=
              { partition := .ofList partition
                region := .ofList region
                account := .ofList account
                name := .ofList name
                unique := .ofList unique
                partition_colonless := by simpa using partitionFree
                region_colonless := by simpa using regionFree
                region_filled := by simpa using filled.1
                account_colonless := by simpa using accountFree
                account_filled := by simpa using filled.2
                name_slashless := by simpa using nameFree
                name_filled := by simpa using named
                unique_slashless := by simpa using uniqueFree
                unique_filled := by simpa using something }
            refine ⟨parts, String.toList_inj.mp ?_, rfl⟩
            rw [parts.toList_written, trim, String.toList_ofList, shape]
            simp [parts, Parts.resource]
          · cases parsed
    · cases parsed
  · rintro ⟨parts, shape, rfl⟩
    have characters : trimChars given.toList = parts.written.toList := by
      rw [← shape, trim, String.toList_ofList]
    simp [parse, characters, parts.piecesAtMost_written, resourceName?_resource, shape,
      parts.region_filled, parts.account_filled]

/-- A reference is found again by its text. -/
theorem parse_arn {given : String} {reference : Reference} (parsed : parse given = .ok reference) :
    parse reference.arn = .ok reference := by
  obtain ⟨parts, shape, rfl⟩ := parse_eq_ok_iff.mp parsed
  exact parse_eq_ok_iff.mpr ⟨parts, by rw [Text.trim_trim, shape], by rw [Text.trim_trim]⟩

/-- Whatever is wrong with a text, it is found out by looking at it. -/
theorem kind_of_parse {given : String} {failure : Failure}
    (refused : parse given = .error failure) : failure.kind = .validation := by
  simp only [parse] at refused
  split at refused
  · split at refused
    · cases refused
      rfl
    · split at refused
      · cases refused
        rfl
      · split at refused
        · cases refused
        · cases refused
          rfl
  · cases refused
    rfl

/-- **A reference is a text that is made of parts, and it tells what it is made of.** Its text is
the given one without the blanks around it, its name is the part of that name, and it is found again
by its text. Every other text is refused as invalid. -/
theorem references_made_of_parts (given : String) :
    (∀ reference, parse given = .ok reference ↔
        ∃ parts : Parts, trim given = parts.written ∧ reference = ⟨trim given, parts.name⟩) ∧
      (∀ parts other : Parts, trim given = parts.written → trim given = other.written →
        parts = other) ∧
      (∀ reference, parse given = .ok reference → parse reference.arn = .ok reference) ∧
      ∀ failure, parse given = .error failure → failure.kind = .validation :=
  ⟨fun _ => parse_eq_ok_iff,
    fun _ _ shape other => Parts.written_inj (shape.symm.trans other),
    fun _ => parse_arn, fun _ => kind_of_parse⟩

/-- No partition is named, there is a slash in the account, and there are colons in the last two
parts. -/
def unusual : Parts where
  partition := ""
  region := "eu-west-1"
  account := "1/2"
  name := "a:b"
  unique := "c:d:"
  partition_colonless := by decide
  region_colonless := by decide
  region_filled := by decide
  account_colonless := by decide
  account_filled := by decide
  name_slashless := by decide
  name_filled := by decide
  unique_slashless := by decide
  unique_filled := by decide

/-- The unusual reference is accepted with blanks around it, and one without its last part is
not. -/
theorem references_made_of_parts_unusual :
    trim "\tarn::kafka:eu-west-1:1/2:cluster/a:b/c:d: " = unusual.written ∧
      parse "\tarn::kafka:eu-west-1:1/2:cluster/a:b/c:d: " = .ok ⟨unusual.written, "a:b"⟩ ∧
      parse unusual.written = .ok ⟨unusual.written, "a:b"⟩ ∧
      ∃ failure, parse "arn::kafka:eu-west-1:1/2:cluster/a:b" = .error failure ∧
        failure.kind = .validation := by
  have shape : trim "\tarn::kafka:eu-west-1:1/2:cluster/a:b/c:d: " = unusual.written := by decide
  obtain ⟨accepts, -, again, -⟩ :=
    references_made_of_parts "\tarn::kafka:eu-west-1:1/2:cluster/a:b/c:d: "
  obtain ⟨-, -, -, refuses⟩ := references_made_of_parts "arn::kafka:eu-west-1:1/2:cluster/a:b"
  have parsed := (accepts ⟨unusual.written, "a:b"⟩).mpr ⟨unusual, shape, by rw [shape]; rfl⟩
  exact ⟨shape, parsed, again _ parsed, _, rfl, refuses _ rfl⟩

end Provision.Cluster.Reference
