import Provision.Encoding.Pem
import Provision.Proofs.Encoding.Base64
import Provision.Proofs.Text.Ascii
import Provision.Proofs.Text.Blanks
import Provision.Proofs.Text.Separated

/-!
# Blocks that have been written are read again

The payloads that are taken from a text are base64, and nothing in base64 can be taken for a part
of a marker, even where it spells the words of one. So the payloads of blocks are found in order,
whatever stands between the blocks, as long as no marker can start in it (`payloadsOf_spread`). The
payloads that have been taken from a text can be taken again, all of them and in order, from the
blocks that are written for them (`extract_regularForm`), and a text in regular form is its own
regular form (`materialize_of_materialize`).

Nor is there a block of another kind of key in it (`payloadsOf_other`). That is closer: a payload
may spell the words of any marker that are base64, but the words of no begin marker of a key have a
length that base64 can have.

Whatever is wrong with a text, it is its form (`forms_materialize`).
-/

set_option autoImplicit false

namespace Provision

/-! ## Failures of form -/

/-- Whatever is wrong with the outcome is a failure of form. -/
def Forms {α : Type} (outcome : Outcome α) : Prop :=
  ∀ failure, outcome = .error failure → failure.kind = .format

namespace Forms

variable {α β : Type} {outcome : Outcome α}

theorem ok (value : α) : Forms (.ok value) := nofun

theorem malformed (message : String) : Forms (.error (Failure.format message) : Outcome α) := by
  intro failure same
  cases same
  rfl

theorem bind {follow : α → Outcome β} (first : Forms outcome)
    (second : ∀ value, Forms (follow value)) : Forms (outcome >>= follow) := by
  cases outcome with
  | ok value => exact second value
  | error failure =>
      intro found same
      cases same
      exact first failure rfl

theorem forM {check : α → Outcome Unit} (checks : ∀ item, Forms (check item)) (items : List α) :
    Forms (items.forM check) := by
  induction items with
  | nil => exact ok ()
  | cons item others ih => exact (checks item).bind fun _ => ih

end Forms

namespace Encoding.Pem

open Text (ofByte pieces removeBlanks utf8)
open Base64 (Regular)

/-! ## Cutting at a marker -/

theorem afterOpening_append (marker rest : List Char) :
    Text.afterOpening marker (marker ++ rest) = some rest := by
  induction marker with
  | nil => simp [Text.afterOpening]
  | cons character marker ih => simp [Text.afterOpening, ih]

theorem eq_append_of_afterOpening {marker text rest : List Char}
    (found : Text.afterOpening marker text = some rest) : text = marker ++ rest := by
  induction marker generalizing text with
  | nil => simpa [Text.afterOpening] using found
  | cons expected marker ih =>
      cases text with
      | nil => simp [Text.afterOpening] at found
      | cons character others =>
          simp only [Text.afterOpening] at found
          split at found
          · rename_i same
            rw [same, ih found, List.cons_append]
          · cases found

/-- A marker at the start is found there. -/
theorem cutAtMarker_append (marker rest : List Char) :
    cutAtMarker marker (marker ++ rest) = some ([], rest) := by
  have opening := afterOpening_append marker rest
  cases whole : marker ++ rest with
  | nil =>
      rw [whole] at opening
      simp [cutAtMarker, opening]
  | cons character others =>
      rw [whole] at opening
      simp [cutAtMarker, opening]

/-- A text in which no marker starts is before the first one. -/
theorem cutAtMarker_append_of_none {marker before rest : List Char}
    (none : ∀ tail, tail ≠ [] → tail <:+ before →
      Text.afterOpening marker (tail ++ rest) = none) :
    cutAtMarker marker (before ++ rest) =
      (cutAtMarker marker rest).map fun (front, behind) => (before ++ front, behind) := by
  induction before with
  | nil => simp
  | cons character others ih =>
      have here := none (character :: others) (List.cons_ne_nil _ _) (List.suffix_refl _)
      have later := ih fun tail something inside =>
        none tail something (inside.trans (List.suffix_cons _ _))
      rw [List.cons_append] at here ⊢
      simp only [cutAtMarker, here, later, Option.map_map]
      rfl

/-- A marker that starts with a dash does not start in a text without dashes. -/
theorem cutAtMarker_append_of_not_mem {payload : List Char} (free : '-' ∉ payload)
    (marker rest : List Char) :
    cutAtMarker ('-' :: marker) (payload ++ rest) =
      (cutAtMarker ('-' :: marker) rest).map
        fun (before, behind) => (payload ++ before, behind) := by
  refine cutAtMarker_append_of_none fun tail something inside => ?_
  cases tail with
  | nil => exact absurd rfl something
  | cons character others =>
      have differs : '-' ≠ character := fun same =>
        free (same ▸ inside.subset List.mem_cons_self)
      simp only [List.cons_append, Text.afterOpening, differs, if_false]

/-- Where a marker is found, it stands between the two parts. -/
theorem eq_append_of_cutAtMarker {marker text before behind : List Char}
    (found : cutAtMarker marker text = some (before, behind)) :
    text = before ++ (marker ++ behind) := by
  induction text generalizing before with
  | nil =>
      obtain ⟨rest, opening, same⟩ := Option.map_eq_some_iff.mp found
      cases same
      rw [List.nil_append]
      exact eq_append_of_afterOpening opening
  | cons character others ih =>
      simp only [cutAtMarker] at found
      split at found
      · rename_i opening
        cases found
        rw [List.nil_append]
        exact eq_append_of_afterOpening opening
      · obtain ⟨⟨start, rest⟩, later, same⟩ := Option.map_eq_some_iff.mp found
        cases same
        rw [ih later, List.cons_append]

/-! ## Words between dashes -/

/-- The dashes on each side of the words of a marker. -/
def rule : List Char :=
  ['-', '-', '-', '-', '-']

namespace Label

/-- The words of a label without blanks. -/
def name (label : Label) : List Char :=
  (removeBlanks label.words).toList

/-- The words of a begin marker without blanks. -/
def beginWord (label : Label) : List Char :=
  ['B', 'E', 'G', 'I', 'N'] ++ label.name

/-- The words of an end marker without blanks. -/
def endWord (label : Label) : List Char :=
  ['E', 'N', 'D'] ++ label.name

theorem compactBegin_eq (label : Label) :
    label.compactBegin = rule ++ (label.beginWord ++ rule) := by
  have opening : (removeBlanks "-----BEGIN ").toList = rule ++ ['B', 'E', 'G', 'I', 'N'] := by
    decide
  have closing : (removeBlanks "-----").toList = rule := by decide
  simp only [compactBegin, beginMarker, beginWord, name, Text.removeBlanks_append,
    String.toList_append, opening, closing, List.append_assoc]

theorem compactEnd_eq (label : Label) :
    label.compactEnd = rule ++ (label.endWord ++ rule) := by
  have opening : (removeBlanks "-----END ").toList = rule ++ ['E', 'N', 'D'] := by decide
  have closing : (removeBlanks "-----").toList = rule := by decide
  simp only [compactEnd, endMarker, endWord, name, Text.removeBlanks_append,
    String.toList_append, opening, closing, List.append_assoc]

/-- The names are told apart by their lengths alone. -/
theorem length_name (label : Label) :
    label.name.length =
      match label with
      | .certificate => 11
      | .rsaPrivateKey => 13
      | .privateKey => 10
      | .ecPrivateKey => 12 := by
  cases label <;> decide

theorem dash_not_mem_name (label : Label) : '-' ∉ label.name := by
  cases label <;> decide

theorem dash_not_mem_beginWord (label : Label) : '-' ∉ label.beginWord := by
  simp [beginWord, dash_not_mem_name label]

theorem dash_not_mem_endWord (label : Label) : '-' ∉ label.endWord := by
  simp [endWord, dash_not_mem_name label]

theorem beginWord_inj {label other : Label} (same : label.beginWord = other.beginWord) :
    label = other := by
  have lengths := congrArg List.length (List.append_cancel_left same)
  rw [length_name, length_name] at lengths
  cases label <;> cases other <;> simp at lengths ⊢

/-- The words before a key are not as long as base64 can be. -/
theorem length_beginWord_of_key {label : Label} (key : label ≠ .certificate) :
    label.beginWord.length % 4 ≠ 0 := by
  rw [beginWord, List.length_append, length_name]
  cases label <;> simp at key ⊢

end Label

/-- The pieces of a text with dashes in it are those before the dashes and those behind them. -/
theorem mem_pieces_append_rule {first rest piece : List Char} :
    piece ∈ pieces '-' (first ++ (rule ++ rest)) ↔
      piece ∈ pieces '-' first ∨ piece = [] ∨ piece ∈ pieces '-' rest := by
  have cut : pieces '-' (first ++ (rule ++ rest)) =
      pieces '-' first ++ pieces '-' ('-' :: '-' :: '-' :: '-' :: rest) :=
    Text.pieces_append_separator '-' first _
  rw [cut, List.mem_append]
  simp [pieces]

/-- Where a text has a block of a kind, the words of the begin marker are a piece of it. -/
theorem beginWord_mem_pieces {label : Label} {text : List Char}
    (found : payloadsOf label text ≠ []) : label.beginWord ∈ pieces '-' text := by
  cases text with
  | nil => simp [payloadsOf, payloadsWithin] at found
  | cons character others =>
      simp only [payloadsOf, List.length_cons, payloadsWithin] at found
      split at found
      · exact absurd rfl found
      · rename_i before behind opening
        rw [eq_append_of_cutAtMarker opening, Label.compactBegin_eq, List.append_assoc,
          List.append_assoc, mem_pieces_append_rule, mem_pieces_append_rule,
          Text.pieces_of_not_mem label.dash_not_mem_beginWord]
        simp

/-! ## Payloads -/

/-- What is accepted as a payload is base64. -/
theorem regular_of_checkPayload {label : Label} {payload : List Char}
    (accepted : checkPayload label payload = .ok ()) : Regular (utf8 payload) := by
  simp only [checkPayload] at accepted
  split at accepted
  · cases accepted
  · split at accepted
    · rename_i decoded
      exact Base64.regular_of_decode decoded
    · cases accepted

theorem cutEvery_flatten {α : Type} (length : Nat) (items : List α) :
    (cutEvery length items).flatten = items := by
  fun_induction cutEvery length items with
  | case1 => rfl
  | case2 item rest ih =>
      rw [List.flatten_cons, ih, List.cons_append, List.take_append_drop]

theorem cutEvery_map {α β : Type} (change : α → β) (length : Nat) (items : List α) :
    cutEvery length (items.map change) = (cutEvery length items).map (List.map change) := by
  fun_induction cutEvery length items with
  | case1 => rw [List.map_nil, cutEvery, List.map_nil]
  | case2 item rest ih =>
      rw [List.map_cons, cutEvery, ← List.map_take, ← List.map_drop, ih, List.map_cons,
        List.map_cons]

section Payload

variable {payload : List Char} (regular : Regular (utf8 payload))
include regular

theorem map_utf8_payload : (utf8 payload).map ofByte = payload :=
  Text.map_utf8 regular.ascii

theorem length_payload : payload.length % 4 = 0 := by
  rw [← map_utf8_payload regular, List.length_map]
  exact regular.whole

theorem dash_not_mem_payload : '-' ∉ payload := by
  intro dashed
  rw [← map_utf8_payload regular] at dashed
  obtain ⟨byte, inside, same⟩ := List.mem_map.mp dashed
  have other := (regular.legible byte inside).code.2.2
  rw [← Text.toNat_ofByte, same] at other
  exact other rfl

/-- Base64 has no blanks in it. -/
theorem isBlank_of_mem_payload {character : Char} (inside : character ∈ payload) :
    Text.isBlank character = false := by
  rw [← map_utf8_payload regular] at inside
  obtain ⟨byte, held, rfl⟩ := List.mem_map.mp inside
  have code := (regular.legible byte held).code
  simp only [Text.isBlank, Text.toNat_ofByte, Bool.or_eq_false_iff, Bool.and_eq_false_iff,
    decide_eq_false_iff_not, beq_eq_false_iff_ne]
  omega

/-- A payload that is cut by its bytes is cut by its characters. -/
theorem map_decodeLossy_lines :
    (cutEvery lineWidth (utf8 payload)).map Text.decodeLossy = cutEvery lineWidth payload := by
  have line : ∀ bytes ∈ cutEvery lineWidth (utf8 payload),
      Text.decodeLossy bytes = bytes.map ofByte := fun bytes piece =>
    Text.decodeLossy_eq_map fun byte held => regular.ascii byte (by
      rw [← cutEvery_flatten lineWidth (utf8 payload)]
      exact List.mem_flatten_of_mem piece held)
  rw [List.map_congr_left line, ← cutEvery_map, map_utf8_payload regular]

/-- **The lines of a payload, without what separates them, are the payload.** -/
theorem flatMap_lines :
    ((cutEvery lineWidth payload).map String.ofList).flatMap
      (fun line => (removeBlanks line).toList) = payload := by
  have line : ∀ line ∈ cutEvery lineWidth payload,
      (removeBlanks (String.ofList line)).toList = line := fun line piece => by
    rw [Text.removeBlanks_ofList, String.toList_ofList]
    intro character held
    refine isBlank_of_mem_payload regular ?_
    rw [← cutEvery_flatten lineWidth payload]
    exact List.mem_flatten_of_mem piece held
  rw [List.flatMap_map, List.flatMap_congr line, List.flatMap_id', cutEvery_flatten]

end Payload

/-! ## Blocks without blanks -/

/-- A block without its blanks. -/
def compactBlock (label : Label) (payload : List Char) : List Char :=
  label.compactBegin ++ (payload ++ label.compactEnd)

/-- **Without blanks, a block is its payload between the markers.** -/
theorem toList_removeBlanks_format (label : Label) {payload : List Char}
    (regular : Regular (utf8 payload)) :
    (removeBlanks (format label payload)).toList = compactBlock label payload := by
  rw [format, map_decodeLossy_lines regular, Text.toList_removeBlanks_joined (by decide),
    List.cons_append, List.flatMap_cons, List.flatMap_append, flatMap_lines regular,
    List.flatMap_singleton]
  rfl

/-- The end marker behind a payload is the first one. -/
theorem cutAtMarker_compactEnd (label : Label) {payload : List Char} (free : '-' ∉ payload)
    (rest : List Char) :
    cutAtMarker label.compactEnd (payload ++ (label.compactEnd ++ rest)) =
      some (payload, rest) := by
  have dashed : label.compactEnd = '-' :: label.compactEnd.tail := by
    rw [Label.compactEnd_eq]
    rfl
  have here := cutAtMarker_append label.compactEnd rest
  rw [dashed] at here ⊢
  rw [cutAtMarker_append_of_not_mem free, here]
  simp

/-! ## Blocks and what stands between them -/

/-- What may stand between blocks: there are no five dashes one behind the other in it, and none at
its end, where they would run into those of a marker. -/
structure Gap where
  text : List Char
  unruled : ¬ rule <:+: text
  undashed : text.getLast? ≠ some '-'

namespace Gap

/-- Nothing between two blocks. -/
def empty : Gap where
  text := []
  unruled := by decide
  undashed := by decide

/-- No marker starts in a gap. -/
theorem afterOpening_eq_none (gap : Gap) {tail : List Char} (something : tail ≠ [])
    (inside : tail <:+ gap.text) (words rest : List Char) :
    Text.afterOpening (rule ++ words) (tail ++ rest) = none := by
  cases found : Text.afterOpening (rule ++ words) (tail ++ rest) with
  | none => rfl
  | some behind =>
      have ruled : rule <+: tail ++ rest := by
        rw [eq_append_of_afterOpening found, List.append_assoc]
        exact List.prefix_append rule _
      rcases List.prefix_or_prefix_of_prefix ruled (List.prefix_append tail rest) with
        whole | part
      · exact absurd (whole.isInfix.trans inside.isInfix) gap.unruled
      · -- The dashes of the marker would have begun at the end of the gap.
        have dash : tail.getLast something = '-' := by
          simpa [rule] using part.subset (List.getLast_mem something)
        obtain ⟨front, same⟩ := inside
        have last : gap.text.getLast? = some '-' := by
          rw [← same, List.getLast?_append_of_ne_nil _ something,
            List.getLast?_eq_some_getLast something, dash]
        exact absurd last gap.undashed

/-- A marker is looked for behind a gap. -/
theorem cutAtMarker_text (gap : Gap) (label : Label) (rest : List Char) :
    cutAtMarker label.compactBegin (gap.text ++ rest) =
      (cutAtMarker label.compactBegin rest).map
        fun (before, behind) => (gap.text ++ before, behind) := by
  rw [Label.compactBegin_eq]
  exact cutAtMarker_append_of_none fun _ something inside =>
    gap.afterOpening_eq_none something inside _ rest

/-- The begin marker behind a gap is the first one. -/
theorem cutAtMarker_compactBegin (gap : Gap) (label : Label) (rest : List Char) :
    cutAtMarker label.compactBegin (gap.text ++ (label.compactBegin ++ rest)) =
      some (gap.text, rest) := by
  rw [gap.cutAtMarker_text, cutAtMarker_append, Option.map_some]
  simp only [List.append_nil]

/-- There is no begin marker in a gap. -/
theorem cutAtMarker_eq_none (gap : Gap) (label : Label) :
    cutAtMarker label.compactBegin gap.text = none := by
  have nothing : cutAtMarker label.compactBegin [] = none := by
    simp [cutAtMarker, Text.afterOpening, Label.compactBegin_eq, rule]
  have alone := gap.cutAtMarker_text label []
  rwa [nothing, List.append_nil] at alone

end Gap

/-- Blocks with a gap behind each of them. -/
def spread (label : Label) (blocks : List (List Char × Gap)) : List Char :=
  blocks.flatMap fun (payload, gap) => compactBlock label payload ++ gap.text

theorem spread_cons (label : Label) (payload : List Char) (gap : Gap)
    (others : List (List Char × Gap)) :
    spread label ((payload, gap) :: others) =
      label.compactBegin ++
        (payload ++ (label.compactEnd ++ (gap.text ++ spread label others))) := by
  simp [spread, compactBlock]

/-- **The payloads of blocks are found in order, whatever the gaps between them.** -/
theorem payloadsWithin_spread (label : Label) (first : Gap) {blocks : List (List Char × Gap)}
    {fuel : Nat} (regular : ∀ block ∈ blocks, Regular (utf8 block.1))
    (enough : blocks.length ≤ fuel) :
    payloadsWithin label.compactBegin label.compactEnd fuel (first.text ++ spread label blocks) =
      blocks.map Prod.fst := by
  induction blocks generalizing first fuel with
  | nil =>
      cases fuel with
      | zero => rfl
      | succ fuel =>
          rw [spread, List.flatMap_nil, List.append_nil]
          simp only [payloadsWithin, first.cutAtMarker_eq_none, List.map_nil]
  | cons block others ih =>
      cases fuel with
      | zero => simp at enough
      | succ fuel =>
          obtain ⟨payload, gap⟩ := block
          obtain ⟨here, later⟩ := List.forall_mem_cons.mp regular
          have behind := ih gap later (by simpa using enough)
          rw [spread_cons]
          simp only [payloadsWithin, first.cutAtMarker_compactBegin,
            cutAtMarker_compactEnd label (dash_not_mem_payload here), behind, List.map_cons]

theorem length_le_spread (label : Label) (blocks : List (List Char × Gap)) :
    blocks.length ≤ (spread label blocks).length := by
  induction blocks with
  | nil => simp
  | cons block others ih =>
      have something : 0 < label.compactBegin.length := by simp [Label.compactBegin_eq, rule]
      rw [spread_cons]
      simp only [List.length_append, List.length_cons]
      omega

/-- **The blocks of one kind hold the payloads that they were written for**, whatever the gaps
between them. -/
theorem payloadsOf_spread (label : Label) (first : Gap) {blocks : List (List Char × Gap)}
    (regular : ∀ block ∈ blocks, Regular (utf8 block.1)) :
    payloadsOf label (first.text ++ spread label blocks) = blocks.map Prod.fst := by
  refine payloadsWithin_spread label first regular ?_
  have enough := length_le_spread label blocks
  rw [List.length_append]
  omega

theorem payloadsOf_compactBlocks (label : Label) {payloads : List (List Char)}
    (regular : ∀ payload ∈ payloads, Regular (utf8 payload)) :
    payloadsOf label (payloads.flatMap (compactBlock label)) = payloads := by
  have close := payloadsOf_spread label Gap.empty
    (List.forall_mem_map.mpr regular : ∀ block ∈ payloads.map (·, Gap.empty), _)
  have blocks : spread label (payloads.map (·, Gap.empty)) =
      payloads.flatMap (compactBlock label) := by
    simp [spread, Gap.empty, List.flatMap_map]
  rwa [blocks, List.map_map, List.map_id''] at close
  exact fun _ => rfl

/-! ## No block of another kind -/

/-- The pieces of a block are the words of its markers and the payload. -/
theorem mem_pieces_compactBlock {label : Label} {payload rest piece : List Char}
    (regular : Regular (utf8 payload)) :
    piece ∈ pieces '-' (compactBlock label payload ++ rest) ↔
      piece = [] ∨ piece = label.beginWord ∨ piece = payload ∨ piece = label.endWord ∨
        piece ∈ pieces '-' rest := by
  have whole : compactBlock label payload ++ rest = [] ++ (rule ++ (label.beginWord ++ (rule ++
      (payload ++ (rule ++ (label.endWord ++ (rule ++ rest))))))) := by
    simp only [compactBlock, Label.compactBegin_eq, Label.compactEnd_eq, List.append_assoc,
      List.nil_append]
  simp only [whole, mem_pieces_append_rule, Text.pieces_of_not_mem label.dash_not_mem_beginWord,
    Text.pieces_of_not_mem label.dash_not_mem_endWord,
    Text.pieces_of_not_mem (dash_not_mem_payload regular), pieces, List.mem_singleton]
  by_cases empty : piece = []
  · simp [empty]
  · simp only [empty, false_or]

theorem mem_pieces_compactBlocks {label : Label} {payloads : List (List Char)} {piece : List Char}
    (regular : ∀ payload ∈ payloads, Regular (utf8 payload))
    (found : piece ∈ pieces '-' (payloads.flatMap (compactBlock label))) :
    piece = [] ∨ piece = label.beginWord ∨ piece = label.endWord ∨ piece ∈ payloads := by
  induction payloads with
  | nil => exact Or.inl (List.mem_singleton.mp found)
  | cons payload others ih =>
      rw [List.flatMap_cons, mem_pieces_compactBlock (regular payload List.mem_cons_self)] at found
      rcases found with empty | opening | same | closing | later
      · exact Or.inl empty
      · exact Or.inr (Or.inl opening)
      · exact Or.inr (Or.inr (Or.inr (same ▸ List.mem_cons_self)))
      · exact Or.inr (Or.inr (Or.inl closing))
      · have known := ih (fun other inside => regular other (.tail payload inside)) later
        exact known.imp_right (Or.imp_right (Or.imp_right (List.mem_cons_of_mem payload)))

/-- **Among the blocks of one kind there is none of another kind of key.** The begin marker of the
other kind would have to be a payload, and base64 is never that long. -/
theorem payloadsOf_other {label other : Label} {payloads : List (List Char)}
    (key : other ≠ .certificate) (differs : other ≠ label)
    (regular : ∀ payload ∈ payloads, Regular (utf8 payload)) :
    payloadsOf other (payloads.flatMap (compactBlock label)) = [] := by
  by_contra found
  rcases mem_pieces_compactBlocks regular (beginWord_mem_pieces found) with
    empty | opening | closing | payload
  · simp [Label.beginWord] at empty
  · exact differs (Label.beginWord_inj opening)
  · simp [Label.beginWord, Label.endWord] at closing
  · exact Label.length_beginWord_of_key key (length_payload (regular _ payload))

/-! ## Texts in regular form -/

/-- What a raw text has to be for payloads to be taken from it. -/
theorem extract_eq_ok {label : Label} {raw : String} {payloads : List (List Char)} :
    extract label raw = .ok payloads ↔
      payloadsOf label (removeBlanks raw).toList = payloads ∧ payloads ≠ [] ∧
        ∀ payload ∈ payloads, checkPayload label payload = .ok () := by
  simp only [extract, List.isEmpty_iff]
  constructor
  · intro taken
    split at taken
    · cases taken
    case isFalse something =>
      obtain ⟨⟨⟩, accepted, same⟩ := exists_of_bind_eq_ok taken
      cases same
      exact ⟨rfl, something, forM_eq_ok.mp accepted⟩
  · rintro ⟨rfl, something, accepted⟩
    rw [if_neg something, forM_eq_ok.mpr accepted]
    rfl

/-- The blocks of some payloads in regular form. -/
def regularForm (label : Label) (payloads : List (List Char)) : String :=
  Text.joined "\n" (payloads.map (format label))

theorem toList_removeBlanks_regularForm (label : Label) {payloads : List (List Char)}
    (regular : ∀ payload ∈ payloads, Regular (utf8 payload)) :
    (removeBlanks (regularForm label payloads)).toList = payloads.flatMap (compactBlock label) := by
  rw [regularForm, Text.toList_removeBlanks_joined (by decide), List.flatMap_map]
  exact List.flatMap_congr fun payload inside =>
    toList_removeBlanks_format label (regular payload inside)

/-- The regular form of a text is that of the payloads in it. -/
theorem materialize_eq_ok {label : Label} {raw text : String} :
    materialize label raw = .ok text ↔
      ∃ payloads, extract label raw = .ok payloads ∧ text = regularForm label payloads := by
  constructor
  · intro formed
    obtain ⟨payloads, taken, written⟩ := exists_of_bind_eq_ok formed
    exact ⟨payloads, taken, (Except.ok.inj written).symm⟩
  · rintro ⟨payloads, taken, rfl⟩
    rw [materialize, taken]
    rfl

/-- **What has been taken from a text is taken again from its regular form.** -/
theorem extract_regularForm {label : Label} {raw : String} {payloads : List (List Char)}
    (taken : extract label raw = .ok payloads) :
    extract label (regularForm label payloads) = .ok payloads := by
  obtain ⟨-, something, accepted⟩ := extract_eq_ok.mp taken
  have regular : ∀ payload ∈ payloads, Regular (utf8 payload) := fun payload inside =>
    regular_of_checkPayload (accepted payload inside)
  refine extract_eq_ok.mpr ⟨?_, something, accepted⟩
  rw [toList_removeBlanks_regularForm label regular, payloadsOf_compactBlocks label regular]

/-- **A text in regular form is its own regular form.** -/
theorem materialize_of_materialize {label : Label} {raw text : String}
    (formed : materialize label raw = .ok text) : materialize label text = .ok text := by
  obtain ⟨payloads, taken, rfl⟩ := materialize_eq_ok.mp formed
  exact materialize_eq_ok.mpr ⟨payloads, extract_regularForm taken, rfl⟩

/-! ## What can be wrong with a text -/

theorem forms_checkPayload (label : Label) (payload : List Char) :
    Forms (checkPayload label payload) := by
  unfold checkPayload
  split
  · exact .malformed _
  · split
    · exact .ok ()
    · exact .malformed _

theorem forms_materialize (label : Label) (raw : String) : Forms (materialize label raw) := by
  have extracts : Forms (extract label raw) := by
    unfold extract
    dsimp only
    split
    · exact .malformed _
    · exact (Forms.forM (forms_checkPayload label) _).bind fun _ => .ok _
  exact extracts.bind fun payloads => .ok _

end Encoding.Pem

end Provision
