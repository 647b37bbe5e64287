import Provision.Acl.Vocabulary
import Provision.Proofs.Json.Spelling

/-!
# Terms in any spelling

A term of access control may be given by its number, by its number as text, or by its name. The
number and its text are the same term (`Vocabulary.decode_quoted`), and a name is the same term in
letters of any case and with underscores, hyphens and spaces in any place
(`Vocabulary.decode_retyped`), provided that it has a letter at all: without one it may be a number.
-/

set_option autoImplicit false

namespace Provision.Acl

open Json (CodeOrName HasDigit Quoted)
open Text (trimChars upperChar)

/-! ## Names -/

/-- The second name is the first one with letters in another case, or with underscores, hyphens and
spaces put in. -/
inductive Retyped : List Char → List Char → Prop where
  | nil : Retyped [] []
  | recased {first second : Char} {name other : List Char}
      (same : first.toLower = second.toLower) (rest : Retyped name other) :
      Retyped (first :: name) (second :: other)
  | separated {separator : Char} {name other : List Char} (known : separator ∈ ['_', '-', ' '])
      (rest : Retyped name other) : Retyped name (separator :: other)

/-- Whether a character counts in a name. -/
def counts (character : Char) : Bool :=
  character != '_' && character != '-' && character != ' '

theorem mem_of_counts_eq_false {separator : Char} (silent : counts separator = false) :
    separator ∈ ['_', '-', ' '] := by
  simp only [counts, Bool.and_eq_false_iff, bne_eq_false_iff_eq] at silent
  simp only [List.mem_cons, List.not_mem_nil, or_false]
  tauto

theorem counts_of_isAlpha {letter : Char} (isAlpha : letter.isAlpha = true) :
    counts letter = true := by
  simp only [counts, Bool.and_eq_true, bne_iff_ne, ne_eq]
  refine ⟨⟨?_, ?_⟩, ?_⟩ <;> rintro rfl <;> cases isAlpha

theorem upperChar_of_isAlpha {letter : Char} (isAlpha : letter.isAlpha = true) :
    upperChar letter = [letter.toUpper] := by
  have code := (Text.isAlpha_iff letter).mp isAlpha
  exact if_pos (by omega)

namespace Retyped

variable {name other : List Char}

/-- A text whose characters without the separators are those of the name, in any case. -/
theorem of_toLower_eq
    (same : name.map Char.toLower = (other.filter counts).map Char.toLower) :
    Retyped name other := by
  induction other generalizing name with
  | nil =>
      cases List.map_eq_nil_iff.mp same
      exact .nil
  | cons first rest ih =>
      by_cases counted : counts first = true
      · rw [List.filter_cons, if_pos counted, List.map_cons] at same
        obtain ⟨character, characters, rfl, here, there⟩ := List.map_eq_cons_iff.mp same
        exact .recased here (ih there)
      · rw [List.filter_cons, if_neg counted] at same
        exact .separated (mem_of_counts_eq_false (Bool.eq_false_iff.mpr counted)) (ih same)

/-- What counts in a name stays the same. -/
theorem counting_eq (retyped : Retyped name other) :
    (name.filter counts).flatMap upperChar = (other.filter counts).flatMap upperChar := by
  induction retyped with
  | nil => rfl
  | recased same _ ih =>
      rcases Text.eq_or_of_toLower_eq same with rfl | ⟨first, second, upper⟩
      · simp only [List.filter_cons]
        split
        · simp only [List.flatMap_cons, ih]
        · exact ih
      · simp only [List.filter_cons, counts_of_isAlpha first, counts_of_isAlpha second, if_true,
          List.flatMap_cons, upperChar_of_isAlpha first, upperChar_of_isAlpha second, upper, ih]
  | @separated separator _ _ known _ ih =>
      have silent : counts separator = false := by
        simp only [List.mem_cons, List.not_mem_nil, or_false] at known
        rcases known with rfl | rfl | rfl <;> rfl
      rw [List.filter_cons, silent]
      exact ih

/-- A name with a letter keeps it, in one case or the other. -/
theorem exists_letter (retyped : Retyped name other)
    (lettered : ∃ letter ∈ name, letter.isAlpha = true) :
    ∃ letter ∈ other, letter.isAlpha = true := by
  induction retyped with
  | nil => exact lettered
  | @recased first second _ _ same _ ih =>
      obtain ⟨letter, member, isAlpha⟩ := lettered
      rcases List.mem_cons.mp member with rfl | there
      · rcases Text.eq_or_of_toLower_eq same with rfl | ⟨-, again, -⟩
        · exact ⟨_, List.mem_cons_self, isAlpha⟩
        · exact ⟨second, List.mem_cons_self, again⟩
      · obtain ⟨found, inside, again⟩ := ih ⟨letter, there, isAlpha⟩
        exact ⟨found, List.mem_cons_of_mem _ inside, again⟩
  | separated known _ ih =>
      obtain ⟨found, inside, isAlpha⟩ := ih lettered
      exact ⟨found, List.mem_cons_of_mem _ inside, isAlpha⟩

end Retyped

theorem normalizeName_eq (name : String) :
    normalizeName name = String.ofList ((name.toList.filter counts).flatMap upperChar) := rfl

/-- A digit stays in a normal name. -/
theorem hasDigit_normalizeName {name : String} (shown : HasDigit name) :
    HasDigit (normalizeName name) := by
  obtain ⟨digit, member, isDigit⟩ := shown
  have code := (Text.isDigit_iff digit).mp isDigit
  have counted : counts digit = true := by
    simp only [counts, Bool.and_eq_true, bne_iff_ne, ne_eq]
    refine ⟨⟨?_, ?_⟩, ?_⟩ <;> rintro rfl <;> cases isDigit
  have upper : upperChar digit = [digit] := by
    rw [upperChar, if_pos (by omega), Text.toUpper_of_isDigit isDigit]
  refine ⟨digit, ?_, isDigit⟩
  rw [normalizeName_eq, String.toList_ofList]
  exact List.mem_flatMap.mpr ⟨digit, List.mem_filter.mpr ⟨member, counted⟩, by simp [upper]⟩

/-! ## Terms -/

namespace Vocabulary

variable {α : Type} {vocabulary : Vocabulary α}

/-- No term has a digit in its name, and none is called like a word of JSON. -/
def IsWordy (vocabulary : Vocabulary α) : Prop :=
  ∀ term ∈ vocabulary.terms,
    ((normalizeName (vocabulary.name term)).toList.all fun character => !character.isDigit) = true ∧
      normalizeName (vocabulary.name term) ∉ ["TRUE", "FALSE", "NULL"]

instance (vocabulary : Vocabulary α) : Decidable vocabulary.IsWordy :=
  inferInstanceAs (Decidable (∀ term ∈ vocabulary.terms, _ ∧ _))

theorem isWordy_resourceTypes : resourceTypes.IsWordy := by decide +kernel

theorem isWordy_patternTypes : patternTypes.IsWordy := by decide +kernel

theorem isWordy_operations : operations.IsWordy := by decide +kernel

theorem isWordy_permissions : permissions.IsWordy := by decide +kernel

/-- A text with a visible character that is neither a digit nor a sign is not read as a number. -/
theorem exists_error_readSigned {given : String} {character : Char}
    (member : character ∈ given.toList)
    (foreign : Text.isBlank character = false ∧ character.isDigit = false ∧ character ≠ '+' ∧
      character ≠ '-') :
    ∃ fault, Number.readSigned 10 (trimChars given.toList) = .error fault := by
  obtain ⟨visible, noDigit, noPlus, noMinus⟩ := foreign
  cases read : Number.readSigned 10 (trimChars given.toList) with
  | error fault => exact ⟨fault, rfl⟩
  | ok found =>
      rcases Number.plain_of_readSigned read character (Text.mem_trimChars visible member) with
        digit | sign | sign
      · rw [noDigit] at digit
        cases digit
      · exact absurd sign noPlus
      · exact absurd sign noMinus

/-- What is not read as a number is looked up by its name. -/
theorem ofText_of_error {given : String} {fault : Number.WholeFault}
    (unread : Number.readSigned 10 (trimChars given.toList) = .error fault) :
    vocabulary.ofText given =
      match vocabulary.terms.find? fun term =>
          normalizeName (vocabulary.name term) == normalizeName given with
      | some term => .ok term
      | none => .error (.validation ("无效的" ++ vocabulary.subject ++ ": " ++ given)) := by
  unfold ofText
  cases read : Number.readSigned 10 (trimChars given.toList) with
  | ok code =>
      rw [unread] at read
      cases read
  | error other => rfl

/-- A text that no term is called by is no term. -/
theorem exists_error_ofText {given : String} {fault : Number.WholeFault}
    (unread : Number.readSigned 10 (trimChars given.toList) = .error fault)
    (unknown : ∀ term ∈ vocabulary.terms,
      normalizeName (vocabulary.name term) ≠ normalizeName given) :
    ∃ failure, vocabulary.ofText given = .error failure := by
  have absent : (vocabulary.terms.find? fun term =>
      normalizeName (vocabulary.name term) == normalizeName given) = none :=
    List.find?_eq_none.mpr fun term member same => unknown term member (beq_iff_eq.mp same)
  rw [ofText_of_error unread, absent]
  exact ⟨_, rfl⟩

/-- No term is called by a text with a digit. -/
theorem IsWordy.ne_of_hasDigit (wordy : vocabulary.IsWordy) {given : String}
    (shown : HasDigit given) :
    ∀ term ∈ vocabulary.terms, normalizeName (vocabulary.name term) ≠ normalizeName given := by
  intro term member same
  obtain ⟨digit, inside, isDigit⟩ := hasDigit_normalizeName shown
  rw [← same] at inside
  have letter := List.all_eq_true.mp (wordy term member).1 digit inside
  rw [isDigit] at letter
  cases letter

/-- No term has a number below zero. -/
theorem exists_error_ofCode {code : Int} (negative : code < 0) :
    ∃ failure, vocabulary.ofCode code = .error failure := by
  have absent : (vocabulary.terms.find? fun term =>
      ((vocabulary.code term : Nat) : Int) == code) = none := by
    refine List.find?_eq_none.mpr fun term _ same => ?_
    have equal := beq_iff_eq.mp same
    omega
  simp only [ofCode, absent]
  exact ⟨_, rfl⟩

/-! ### Decoding -/

theorem decode_text_eq (given : String) :
    vocabulary.decode (.text given) =
      match vocabulary.ofText given with
      | .ok term => .ok term
      | .error failure => .error (.refused failure.display) := rfl

theorem decode_whole_eq (number : Int) :
    vocabulary.decode (.whole number) =
      if number < Number.wordSize 63 then
        match vocabulary.ofCode number with
        | .ok term => .ok term
        | .error failure => .error (.refused failure.display)
      else .error (.noAlternative "CodeOrName") := by
  have read : CodeOrName.decode (.whole number) =
      if number < Number.wordSize 63 then .ok (.code number)
      else .error (.noAlternative "CodeOrName") := rfl
  rw [decode, read]
  by_cases small : number < Number.wordSize 63
  · rw [if_pos small, if_pos small]
    rfl
  · rw [if_neg small, if_neg small]
    rfl

theorem decode_text_agree {given other : String}
    (agree : Agree (vocabulary.ofText given) (vocabulary.ofText other)) :
    Agree (vocabulary.decode (.text given)) (vocabulary.decode (.text other)) := by
  rw [decode_text_eq, decode_text_eq]
  rcases agree_cases agree with ⟨term, first, second⟩ | ⟨failure, reason, first, second⟩
  · rw [first, second]
    exact .refl _
  · rw [first, second]
    exact agree_error _ _

theorem exists_error_decode_text {given : String}
    (unknown : ∃ failure, vocabulary.ofText given = .error failure) :
    ∃ fault, vocabulary.decode (.text given) = .error fault := by
  obtain ⟨failure, refused⟩ := unknown
  rw [decode_text_eq, refused]
  exact ⟨_, rfl⟩

/-- A word of JSON stands for no term. -/
theorem IsWordy.exists_error_decode_word (wordy : vocabulary.IsWordy) {word : String}
    (known : word ∈ ["true", "false", "null"]) :
    ∃ fault, vocabulary.decode (.text word) = .error fault := by
  have read : Number.readSigned 10 (trimChars word.toList) = .error .invalidDigit ∧
      normalizeName word ∈ ["TRUE", "FALSE", "NULL"] := by
    rcases List.mem_cons.mp known with rfl | known
    · exact ⟨rfl, by decide⟩
    · rcases List.mem_pair.mp known with rfl | rfl <;> exact ⟨rfl, by decide⟩
  exact exists_error_decode_text <| exists_error_ofText read.1 fun term member same =>
    (wordy term member).2 (same ▸ read.2)

/-- **A scalar and its text are read as the same term, or neither as one.** -/
theorem decode_quoted (wordy : vocabulary.IsWordy) {value other : Json}
    (quoted : Quoted value other) :
    Agree (vocabulary.decode value) (vocabulary.decode other) := by
  obtain ⟨scalar, rfl⟩ := quoted
  cases value with
  | bool flag =>
      obtain ⟨fault, refused⟩ : ∃ fault,
          vocabulary.decode (.text (Json.compact (.bool flag))) = .error fault := by
        refine wordy.exists_error_decode_word ?_
        cases flag <;> decide
      rw [refused]
      exact agree_error _ _
  | whole number =>
      rw [Json.compact_whole, decode_whole_eq]
      have text : trimChars (Number.decimal number).toList = (Number.decimal number).toList :=
        Json.trimChars_decimal number
      by_cases inside : -(Number.wordSize 63 : Int) ≤ number ∧ number < Number.wordSize 63
      · have same : vocabulary.ofText (Number.decimal number) = vocabulary.ofCode number := by
          rw [ofText, text, Number.readSigned_decimal inside.1 inside.2]
        rw [if_pos inside.2, decode_text_eq, same]
        exact .refl _
      · obtain ⟨fault, unread⟩ := Number.exists_error_readSigned_decimal inside
        obtain ⟨reason, refused⟩ := exists_error_decode_text <|
          exists_error_ofText (text ▸ unread) (wordy.ne_of_hasDigit (Json.hasDigit_decimal number))
        rw [refused]
        split
        · obtain ⟨failure, unknown⟩ := vocabulary.exists_error_ofCode
            (show number < 0 by omega)
          rw [unknown]
          exact agree_error _ _
        · exact agree_error _ _
  | float number =>
      obtain ⟨reason, refused⟩ : ∃ fault,
          vocabulary.decode (.text number.jsonText) = .error fault := by
        rcases number.jsonText_cases with word | ⟨shown, mark, inside, known⟩
        · rw [word]
          exact wordy.exists_error_decode_word (by decide)
        · obtain ⟨fault, unread⟩ := exists_error_readSigned inside (by
            rcases known with rfl | rfl <;> decide)
          exact exists_error_decode_text
            (exists_error_ofText unread (wordy.ne_of_hasDigit shown))
      rw [Json.compact_float, refused]
      exact agree_error _ _
  | _ => cases scalar

/-- **A name with a letter is read as the same term in every spelling.** -/
theorem decode_retyped {given other : String} (retyped : Retyped given.toList other.toList)
    (lettered : ∃ letter ∈ given.toList, letter.isAlpha = true) :
    Agree (vocabulary.decode (.text given)) (vocabulary.decode (.text other)) := by
  have unread {name : String} (lettered : ∃ letter ∈ name.toList, letter.isAlpha = true) :
      ∃ fault, Number.readSigned 10 (trimChars name.toList) = .error fault := by
    obtain ⟨letter, member, isAlpha⟩ := lettered
    refine exists_error_readSigned member ⟨Text.isBlank_of_isAlpha isAlpha, ?_, ?_, ?_⟩
    · refine Bool.eq_false_iff.mpr fun digit => ?_
      have first := (Text.isAlpha_iff letter).mp isAlpha
      have second := (Text.isDigit_iff letter).mp digit
      omega
    · rintro rfl
      cases isAlpha
    · rintro rfl
      cases isAlpha
  obtain ⟨fault, first⟩ := unread lettered
  obtain ⟨reason, second⟩ := unread (retyped.exists_letter lettered)
  have normal : normalizeName given = normalizeName other := by
    rw [normalizeName_eq, normalizeName_eq, retyped.counting_eq]
  refine decode_text_agree ?_
  rw [ofText_of_error first, ofText_of_error second, normal]
  split
  · exact .refl _
  · exact agree_error _ _

end Vocabulary

end Provision.Acl
