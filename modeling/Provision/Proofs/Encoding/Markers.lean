import Provision.Proofs.Encoding.Pem
import Provision.Proofs.Text.Occurrences

/-!
# Begin markers and the blocks they open

A begin marker need not come to a block in the regular form of its text. If no end marker stands
behind it, it is passed over with everything that follows, and so is one that has to share dashes
with the marker before it. A text has been read as a whole if each of its begin markers opens a
block of its own (`Complete`): then there are as many blocks as there are begin markers, and
otherwise there are fewer (`Reads.counted`).

Any other begin marker with an end marker somewhere behind it is the start of a block
(`Reads.mem_of_closed`), so a block that has been cut off in front of a whole one is not passed
over. The text is refused for what would have to be its payload.
-/

set_option autoImplicit false

namespace Provision.Encoding.Pem

open Text (occurrences removeBlanks startsIn utf8)
open Base64 (Regular)

/-! ## Looking for a marker -/

section Looking

variable {marker text : List Char}

theorem afterOpening_eq_none_iff :
    Text.afterOpening marker text = none ↔ ¬ marker <+: text := by
  refine ⟨?_, fun closed => ?_⟩
  · rintro absent ⟨rest, rfl⟩
    rw [afterOpening_append] at absent
    cases absent
  · cases found : Text.afterOpening marker text with
    | none => rfl
    | some behind => exact absurd ⟨behind, (eq_append_of_afterOpening found).symm⟩ closed

/-- A marker is not found just where it is not in the text. -/
theorem cutAtMarker_eq_none_iff : cutAtMarker marker text = none ↔ ¬ marker <:+: text := by
  induction text with
  | nil => simp [cutAtMarker, afterOpening_eq_none_iff]
  | cons character others ih =>
      rw [List.infix_cons_iff, not_or, ← ih, ← afterOpening_eq_none_iff, cutAtMarker]
      cases Text.afterOpening marker (character :: others) with
      | none => simp
      | some behind => simp

/-- The marker that is found is the first one. -/
theorem cutAtMarker_eq_some_iff {before behind : List Char} :
    cutAtMarker marker text = some (before, behind) ↔
      text = before ++ (marker ++ behind) ∧ startsIn marker (marker ++ behind) before = 0 := by
  constructor
  · intro found
    refine ⟨eq_append_of_cutAtMarker found, ?_⟩
    induction text generalizing before with
    | nil =>
        obtain ⟨rest, -, same⟩ := Option.map_eq_some_iff.mp found
        cases same
        rfl
    | cons character others ih =>
        simp only [cutAtMarker] at found
        split at found
        · cases found
          rfl
        · rename_i unopened
          obtain ⟨⟨start, rest⟩, later, same⟩ := Option.map_eq_some_iff.mp found
          cases same
          rw [afterOpening_eq_none_iff, eq_append_of_cutAtMarker later] at unopened
          simp only [startsIn, unopened, if_false, ih later]
  · rintro ⟨rfl, unstarted⟩
    induction before with
    | nil => exact cutAtMarker_append marker behind
    | cons character others ih =>
        obtain ⟨here, later⟩ := Nat.add_eq_zero_iff.mp unstarted
        have unopened : Text.afterOpening marker
            (character :: (others ++ (marker ++ behind))) = none := by
          rw [afterOpening_eq_none_iff]
          intro opens
          simp [opens] at here
        rw [List.cons_append, cutAtMarker, unopened, ih later]
        rfl

end Looking

/-! ## Where a begin marker begins -/

namespace Label

variable (label : Label)

/-- The dashes in front of a text are not the first ones of a begin marker as well. -/
def Apart (rest : List Char) : Prop :=
  startsIn label.compactBegin rest rule = 0

/-- A text ends with the front of a marker: with its words and fewer dashes than stand behind
them. -/
def Runs (text : List Char) : Prop :=
  ∃ word ∈ [label.beginWord, label.endWord], ∃ count < rule.length,
    rule ++ (word ++ List.replicate count '-') <:+ text

instance (text : List Char) : Decidable (label.Runs text) :=
  inferInstanceAs (Decidable (∃ word ∈ [label.beginWord, label.endWord],
    ∃ count < rule.length, rule ++ (word ++ List.replicate count '-') <:+ text))

theorem compactBegin_ne_nil : label.compactBegin ≠ [] := by
  simp [compactBegin_eq, rule]

theorem startsIn_of_dash_not_mem {first : List Char} (free : '-' ∉ first) (rest : List Char) :
    startsIn label.compactBegin rest first = 0 := by
  rw [compactBegin_eq]
  exact Text.startsIn_of_not_mem free _ rest

/-- In the first dashes of a begin marker, only that marker begins. -/
theorem startsIn_tail_rule (rest : List Char) :
    startsIn label.compactBegin (label.beginWord ++ (rule ++ rest)) rule.tail = 0 := by
  simp [startsIn, compactBegin_eq, beginWord, rule]

theorem startsIn_opening (rest : List Char) :
    startsIn label.compactBegin (label.beginWord ++ (rule ++ rest)) rule = 1 := by
  have opens : label.compactBegin <+: rule ++ (label.beginWord ++ (rule ++ rest)) :=
    ⟨rest, by simp [compactBegin_eq]⟩
  have step : ∀ marker text, startsIn marker text rule =
      (if marker <+: rule ++ text then 1 else 0) + startsIn marker text rule.tail :=
    fun _ _ => rfl
  rw [step, if_pos opens, startsIn_tail_rule]

theorem startsIn_closing (rest : List Char) :
    startsIn label.compactBegin (label.endWord ++ (rule ++ rest)) rule = 0 := by
  simp [startsIn, compactBegin_eq, beginWord, endWord, rule]

theorem startsIn_compactBegin (rest : List Char) :
    startsIn label.compactBegin rest label.compactBegin =
      1 + startsIn label.compactBegin rest rule := by
  calc startsIn label.compactBegin rest label.compactBegin
      = startsIn label.compactBegin rest (rule ++ (label.beginWord ++ rule)) :=
        congrArg (startsIn label.compactBegin rest) label.compactBegin_eq
    _ = 1 + startsIn label.compactBegin rest rule := by
        rw [Text.startsIn_append, Text.startsIn_append, List.append_assoc, startsIn_opening,
          label.startsIn_of_dash_not_mem label.dash_not_mem_beginWord, Nat.zero_add]

theorem startsIn_compactEnd (rest : List Char) :
    startsIn label.compactBegin rest label.compactEnd =
      startsIn label.compactBegin rest rule := by
  rw [compactEnd_eq, Text.startsIn_append, Text.startsIn_append, List.append_assoc,
    startsIn_closing, label.startsIn_of_dash_not_mem label.dash_not_mem_endWord, Nat.zero_add,
    Nat.zero_add]

/-- The begin markers in a block are its own and those that begin in the last dashes of its
markers. -/
theorem occurrences_block {payload : List Char} (free : '-' ∉ payload) (rest : List Char) :
    occurrences label.compactBegin
        (label.compactBegin ++ (payload ++ (label.compactEnd ++ rest))) =
      1 + startsIn label.compactBegin (payload ++ (label.compactEnd ++ rest)) rule +
        startsIn label.compactBegin rest rule + occurrences label.compactBegin rest := by
  rw [Text.occurrences_append, Text.occurrences_append, Text.occurrences_append,
    startsIn_compactBegin, startsIn_compactEnd, label.startsIn_of_dash_not_mem free]
  omega

/-- Another begin marker behind the start of one begins in its last dashes or later. -/
theorem exists_of_compactBegin {rest before behind : List Char}
    (found : label.compactBegin ++ rest = before ++ (label.compactBegin ++ behind)) :
    before = [] ∨ ∃ others, before = rule ++ (label.beginWord ++ others) ∧
      rule ++ rest = others ++ (label.compactBegin ++ behind) := by
  cases before with
  | nil => exact .inl rfl
  | cons character others =>
      have shape : label.compactBegin ++ rest =
          '-' :: ((rule.tail ++ label.beginWord) ++ (rule ++ rest)) := by
        simp [compactBegin_eq, rule]
      rw [shape] at found
      obtain ⟨rfl, later⟩ := List.cons.inj found
      have unstarted : startsIn label.compactBegin (rule ++ rest)
          (rule.tail ++ label.beginWord) = 0 := by
        rw [Text.startsIn_append, startsIn_tail_rule,
          label.startsIn_of_dash_not_mem label.dash_not_mem_beginWord]
      obtain ⟨others, rfl, behind⟩ := Text.exists_of_startsIn_eq_zero unstarted later
      exact .inr ⟨others, by simp [rule], behind⟩

/-- A begin marker behind a payload begins in the last dashes of the end marker or later. -/
theorem exists_of_compactEnd {payload rest before behind : List Char} (free : '-' ∉ payload)
    (found : payload ++ (label.compactEnd ++ rest) = before ++ (label.compactBegin ++ behind)) :
    ∃ others, before = payload ++ (rule ++ (label.endWord ++ others)) ∧
      rule ++ rest = others ++ (label.compactBegin ++ behind) := by
  have unstarted : startsIn label.compactBegin (rule ++ rest)
      (payload ++ (rule ++ label.endWord)) = 0 := by
    rw [Text.startsIn_append, Text.startsIn_append, startsIn_closing,
      label.startsIn_of_dash_not_mem free,
      label.startsIn_of_dash_not_mem label.dash_not_mem_endWord]
  have shape : payload ++ (label.compactEnd ++ rest) =
      (payload ++ (rule ++ label.endWord)) ++ (rule ++ rest) := by
    simp [compactEnd_eq]
  rw [shape] at found
  obtain ⟨others, rfl, behind⟩ := Text.exists_of_startsIn_eq_zero unstarted found
  exact ⟨others, by simp, behind⟩

variable {label}

theorem Runs.append {text : List Char} (runs : label.Runs text) (front : List Char) :
    label.Runs (front ++ text) := by
  obtain ⟨word, known, count, fewer, ending⟩ := runs
  exact ⟨word, known, count, fewer, ending.trans (List.suffix_append front text)⟩

/-- Behind the words of a marker, what follows runs into the dashes or stands behind them. -/
theorem runs_or_exists {word : List Char} (known : word ∈ [label.beginWord, label.endWord])
    {rest before after : List Char} (found : rule ++ rest = before ++ after) :
    label.Runs (rule ++ (word ++ before)) ∨
      ∃ others, before = rule ++ others ∧ rest = others ++ after := by
  rcases List.append_eq_append_iff.mp found with ⟨others, same, behind⟩ | ⟨others, same, behind⟩
  · exact .inr ⟨others, same, behind⟩
  · cases others with
    | nil => exact .inr ⟨[], by simpa using same.symm, by simpa using behind.symm⟩
    | cons character others =>
        -- The dashes are not over yet: fewer than all of them are in front.
        have dashes : before = List.replicate before.length '-' :=
          List.eq_replicate_iff.mpr ⟨rfl, fun dash inside => by
            have held : dash ∈ rule := same ▸ List.mem_append_left _ inside
            simpa [rule] using held⟩
        have fewer : before.length < rule.length := by
          rw [same, List.length_append, List.length_cons]
          omega
        exact .inl ⟨word, known, before.length, fewer, [], by rw [List.nil_append, ← dashes]⟩

/-- **A begin marker in a block opens the block, or runs into a marker of it, or stands behind
it.** -/
theorem cases_of_block {payload rest before behind : List Char} (free : '-' ∉ payload)
    (found : label.compactBegin ++ (payload ++ (label.compactEnd ++ rest)) =
      before ++ (label.compactBegin ++ behind)) :
    before = [] ∨ label.Runs before ∨
      ∃ others, before = label.compactBegin ++ (payload ++ (label.compactEnd ++ others)) ∧
        rest = others ++ (label.compactBegin ++ behind) := by
  rcases label.exists_of_compactBegin found with empty | ⟨others, rfl, opening⟩
  · exact .inl empty
  · rcases runs_or_exists (.head _) opening with runs | ⟨others, rfl, held⟩
    · exact .inr (.inl runs)
    · obtain ⟨others, rfl, closing⟩ := label.exists_of_compactEnd free held
      rcases runs_or_exists (.tail _ (.head _)) closing with runs | ⟨others, rfl, remains⟩
      · exact .inr (.inl ((((runs.append payload).append rule).append label.beginWord).append rule))
      · exact .inr (.inr ⟨others, by simp [compactBegin_eq, compactEnd_eq], remains⟩)

end Label

/-! ## Reading block by block -/

/-- What is taken from a text: nothing where there is no begin marker, or no end marker behind the
first one, and otherwise what stands between the two and what is taken from the rest. -/
inductive Reads (label : Label) : List Char → List (List Char) → Prop
  | unopened {text : List Char} (absent : ¬ label.compactBegin <:+: text) : Reads label text []
  | unclosed {gap opened : List Char}
      (first : startsIn label.compactBegin (label.compactBegin ++ opened) gap = 0)
      (absent : ¬ label.compactEnd <:+: opened) :
      Reads label (gap ++ (label.compactBegin ++ opened)) []
  | block {gap payload rest : List Char} {payloads : List (List Char)}
      (first : startsIn label.compactBegin
        (label.compactBegin ++ (payload ++ (label.compactEnd ++ rest))) gap = 0)
      (free : '-' ∉ payload) (later : Reads label rest payloads) :
      Reads label (gap ++ (label.compactBegin ++ (payload ++ (label.compactEnd ++ rest))))
        (payload :: payloads)

/-- Each begin marker opens a block of its own: behind it stand a payload and the end marker, and
no other begin marker shares dashes with the two. -/
def Complete (label : Label) (text : List Char) : Prop :=
  ∀ before behind, text = before ++ (label.compactBegin ++ behind) →
    label.Apart behind ∧ ∃ payload rest, '-' ∉ payload ∧
      behind = payload ++ (label.compactEnd ++ rest) ∧ label.Apart rest

section Reads

variable {label : Label} {text : List Char} {payloads : List (List Char)}

theorem reads_payloadsWithin {fuel : Nat} (enough : text.length ≤ fuel)
    (free : ∀ payload ∈ payloadsWithin label.compactBegin label.compactEnd fuel text,
      '-' ∉ payload) :
    Reads label text (payloadsWithin label.compactBegin label.compactEnd fuel text) := by
  induction fuel generalizing text with
  | zero =>
      obtain rfl := List.length_eq_zero_iff.mp (Nat.le_zero.mp enough)
      exact .unopened (by simp [label.compactBegin_ne_nil])
  | succ fuel ih =>
      simp only [payloadsWithin] at free ⊢
      cases opening : cutAtMarker label.compactBegin text with
      | none => exact .unopened (cutAtMarker_eq_none_iff.mp opening)
      | some parts =>
          obtain ⟨gap, opened⟩ := parts
          obtain ⟨rfl, first⟩ := cutAtMarker_eq_some_iff.mp opening
          cases closing : cutAtMarker label.compactEnd opened with
          | none =>
              simp only [closing]
              exact .unclosed first (cutAtMarker_eq_none_iff.mp closing)
          | some parts =>
              obtain ⟨payload, rest⟩ := parts
              obtain rfl := eq_append_of_cutAtMarker closing
              simp only [opening, closing, List.forall_mem_cons] at free ⊢
              have shorter : rest.length ≤ fuel := by
                have something := List.length_pos_iff.mpr label.compactBegin_ne_nil
                simp only [List.length_append] at enough
                omega
              exact .block first free.1 (ih shorter free.2)

/-- A text is read in one way only. -/
theorem Reads.payloadsWithin_eq (reads : Reads label text payloads) {fuel : Nat}
    (enough : text.length ≤ fuel) :
    payloadsWithin label.compactBegin label.compactEnd fuel text = payloads := by
  induction reads generalizing fuel with
  | unopened absent =>
      cases fuel with
      | zero => rfl
      | succ fuel => simp only [payloadsWithin, cutAtMarker_eq_none_iff.mpr absent]
  | unclosed first absent =>
      cases fuel with
      | zero => rfl
      | succ fuel =>
          simp only [payloadsWithin, cutAtMarker_eq_some_iff.mpr ⟨rfl, first⟩,
            cutAtMarker_eq_none_iff.mpr absent]
  | block first free later ih =>
      have something := List.length_pos_iff.mpr label.compactBegin_ne_nil
      simp only [List.length_append] at enough
      cases fuel with
      | zero => omega
      | succ fuel =>
          have behind := @ih fuel (by omega)
          simp only [payloadsWithin, cutAtMarker_eq_some_iff.mpr ⟨rfl, first⟩,
            cutAtMarker_compactEnd label free, behind]

/-- Payloads are taken from a text if it is read as them and each of them is accepted. -/
theorem extract_eq_ok_iff_reads {raw : String} :
    extract label raw = .ok payloads ↔
      Reads label (removeBlanks raw).toList payloads ∧ payloads ≠ [] ∧
        ∀ payload ∈ payloads, checkPayload label payload = .ok () := by
  rw [extract_eq_ok]
  refine and_congr_left fun ⟨_, accepted⟩ => ⟨?_, fun reads => reads.payloadsWithin_eq le_rfl⟩
  rintro rfl
  refine reads_payloadsWithin le_rfl fun payload inside => ?_
  exact dash_not_mem_payload (regular_of_checkPayload (accepted payload inside))

theorem complete_block_iff {gap payload rest : List Char}
    (first : startsIn label.compactBegin
      (label.compactBegin ++ (payload ++ (label.compactEnd ++ rest))) gap = 0)
    (free : '-' ∉ payload) :
    Complete label (gap ++ (label.compactBegin ++ (payload ++ (label.compactEnd ++ rest)))) ↔
      (label.Apart (payload ++ (label.compactEnd ++ rest)) ∧ label.Apart rest) ∧
        Complete label rest := by
  constructor
  · intro complete
    obtain ⟨opening, other, remaining, free', same, closing⟩ := complete gap _ rfl
    have cut := congrArg (cutAtMarker label.compactEnd) same
    rw [cutAtMarker_compactEnd label free, cutAtMarker_compactEnd label free'] at cut
    cases cut
    refine ⟨⟨opening, closing⟩, fun before behind shape => ?_⟩
    refine complete (gap ++ (label.compactBegin ++
      (payload ++ (label.compactEnd ++ before)))) behind ?_
    simp only [shape, List.append_assoc]
  · rintro ⟨⟨opening, closing⟩, later⟩ before behind found
    obtain ⟨others, rfl, inside⟩ := Text.exists_of_startsIn_eq_zero first found
    rcases label.exists_of_compactBegin inside with rfl | ⟨others, rfl, openings⟩
    · rw [List.nil_append] at inside
      obtain rfl := List.append_cancel_left inside
      exact ⟨opening, payload, rest, free, rfl, closing⟩
    · obtain ⟨others, rfl, held⟩ := Text.exists_of_startsIn_eq_zero opening openings
      obtain ⟨others, rfl, closings⟩ := label.exists_of_compactEnd free held
      obtain ⟨others, rfl, remains⟩ := Text.exists_of_startsIn_eq_zero closing closings
      exact later others behind remains

namespace Reads

/-- **There are at most as many blocks as begin markers, and as many just if each begin marker
opens a block of its own.** -/
theorem counted (reads : Reads label text payloads) :
    payloads.length ≤ occurrences label.compactBegin text ∧
      (payloads.length = occurrences label.compactBegin text ↔ Complete label text) := by
  induction reads with
  | unopened absent =>
      have nothing := (Text.occurrences_eq_zero_iff label.compactBegin_ne_nil).mpr absent
      refine ⟨Nat.zero_le _, fun _ before behind found => ?_, fun _ => nothing.symm⟩
      exact absurd ⟨before, behind, by rw [found, List.append_assoc]⟩ absent
  | @unclosed gap opened first absent =>
      refine ⟨Nat.zero_le _, fun same => ?_, fun complete => ?_⟩
      · rw [Text.occurrences_append, Text.occurrences_append, label.startsIn_compactBegin] at same
        simp only [List.length_nil] at same
        omega
      · obtain ⟨-, payload, rest, -, rfl, -⟩ := complete gap opened rfl
        exact absurd ⟨payload, rest, by rw [List.append_assoc]⟩ absent
  | @block gap payload rest payloads first free later ih =>
      -- One begin marker is that of the block; those that share its dashes are not counted again.
      obtain ⟨fewer, whole⟩ := ih
      rw [complete_block_iff first free, ← whole, Text.occurrences_append, first,
        label.occurrences_block free, List.length_cons, Label.Apart, Label.Apart]
      omega

/-- **A begin marker with dashes of its own starts a block if there is an end marker behind it.** -/
theorem mem_of_closed (reads : Reads label text payloads) {before behind : List Char}
    (found : text = before ++ (label.compactBegin ++ behind)) (apart : ¬ label.Runs before)
    (closed : label.compactEnd <:+: behind) :
    ∃ payload ∈ payloads, ∃ rest, behind = payload ++ (label.compactEnd ++ rest) := by
  induction reads generalizing before with
  | unopened absent =>
      exact absurd ⟨before, behind, by rw [found, List.append_assoc]⟩ absent
  | @unclosed gap opened first absent =>
      -- What is behind the marker is a part of what has no end marker in it.
      obtain ⟨others, rfl, shape⟩ := Text.exists_of_startsIn_eq_zero first found
      have shorter : behind.length ≤ opened.length := by
        have lengths := congrArg List.length shape
        simp only [List.length_append] at lengths
        omega
      have inside : behind <:+ opened := by
        refine List.suffix_of_suffix_length_le ?_ (List.suffix_append label.compactBegin opened)
          shorter
        exact ⟨others ++ label.compactBegin, by rw [shape, List.append_assoc]⟩
      exact absurd (closed.trans inside.isInfix) absent
  | @block gap payload rest payloads first free later ih =>
      obtain ⟨others, rfl, inside⟩ := Text.exists_of_startsIn_eq_zero first found
      rcases Label.cases_of_block free inside with rfl | runs | ⟨front, shape, remains⟩
      · rw [List.nil_append] at inside
        obtain rfl := List.append_cancel_left inside
        exact ⟨payload, List.mem_cons_self, rest, rfl⟩
      · exact absurd (runs.append gap) apart
      · have later := ih remains fun runs => apart (by
          rw [shape]
          exact (((runs.append _).append payload).append _).append gap)
        obtain ⟨other, taken, starts⟩ := later
        exact ⟨other, List.mem_cons_of_mem payload taken, starts⟩

end Reads

end Reads

/-! ## Counting blocks -/

section Written

variable (label : Label)

theorem beginMarker_lineless : '\n' ∉ label.beginMarker.toList := by
  cases label <;> decide

theorem beginMarker_dashed :
    label.beginMarker.toList = '-' :: label.beginMarker.toList.tail := by
  cases label <;> decide

theorem beginMarker_ne_nil : label.beginMarker.toList ≠ [] := by
  rw [beginMarker_dashed]
  exact List.cons_ne_nil _ _

/-- There is one begin marker in a block that has been written. -/
theorem occurrences_format {payload : List Char} (regular : Regular (utf8 payload)) :
    occurrences label.beginMarker.toList (format label payload).toList = 1 := by
  have opening : occurrences label.beginMarker.toList label.beginMarker.toList = 1 := by
    cases label <;> decide
  have closing : occurrences label.beginMarker.toList label.endMarker.toList = 0 := by
    cases label <;> decide
  have between : ∀ line ∈ cutEvery lineWidth payload,
      occurrences label.beginMarker.toList line = 0 := by
    intro line piece
    have free : '-' ∉ line := fun dash => dash_not_mem_payload regular (by
      rw [← cutEvery_flatten lineWidth payload]
      exact List.mem_flatten_of_mem piece dash)
    rw [beginMarker_dashed]
    exact Text.startsIn_of_not_mem free _ []
  have lines : (((cutEvery lineWidth payload).map String.ofList).map
      fun line => occurrences label.beginMarker.toList line.toList).sum = 0 := by
    rw [List.sum_eq_zero_iff_forall_eq_nat, List.map_map, List.forall_mem_map]
    intro line piece
    rw [Function.comp_apply, String.toList_ofList, between line piece]
  rw [format, map_decodeLossy_lines regular, Text.occurrences_joined (beginMarker_lineless label)
    (beginMarker_ne_nil label) (by decide), List.cons_append, List.map_cons, List.sum_cons,
    List.map_append, List.sum_append, lines, opening]
  simp [closing]

/-- There are as many begin markers in a regular form as there are blocks. -/
theorem occurrences_regularForm {payloads : List (List Char)}
    (regular : ∀ payload ∈ payloads, Regular (utf8 payload)) :
    occurrences label.beginMarker.toList (regularForm label payloads).toList =
      payloads.length := by
  have each : (payloads.map (format label)).map
      (fun block => occurrences label.beginMarker.toList block.toList) = payloads.map fun _ => 1 := by
    rw [List.map_map]
    exact List.map_congr_left fun payload inside =>
      occurrences_format label (regular payload inside)
  rw [regularForm, Text.occurrences_joined (beginMarker_lineless label) (beginMarker_ne_nil label)
    (by decide), each]
  simp

end Written

/-- **No block is dropped exactly if each begin marker opens a block of its own.** A text that
cannot be read block by block, or not with payloads that are accepted, is malformed. From any other,
a block is taken for each begin marker that has dashes of its own and an end marker somewhere behind
it; there are never more blocks than begin markers, and as many just if each begin marker opens its
own. -/
theorem blocks_counted (label : Label) (raw : String) :
    Forms (materialize label raw) ∧
      ((∃ text, materialize label raw = .ok text) ↔
        ∃ payloads, Reads label (removeBlanks raw).toList payloads ∧ payloads ≠ [] ∧
          ∀ payload ∈ payloads, checkPayload label payload = .ok ()) ∧
      ∀ text, materialize label raw = .ok text →
        ∃ payloads, extract label raw = .ok payloads ∧ text = regularForm label payloads ∧
          occurrences label.beginMarker.toList text.toList = payloads.length ∧
          payloads.length ≤ occurrences label.compactBegin (removeBlanks raw).toList ∧
          (payloads.length = occurrences label.compactBegin (removeBlanks raw).toList ↔
            Complete label (removeBlanks raw).toList) ∧
          ∀ before behind,
            (removeBlanks raw).toList = before ++ (label.compactBegin ++ behind) →
              ¬ label.Runs before → label.compactEnd <:+: behind →
                ∃ payload ∈ payloads, ∃ rest, behind = payload ++ (label.compactEnd ++ rest) := by
  refine ⟨forms_materialize label raw, ?_, fun text formed => ?_⟩
  · simp only [materialize_eq_ok, ← extract_eq_ok_iff_reads]
    exact ⟨fun ⟨_, payloads, taken, _⟩ => ⟨payloads, taken⟩,
      fun ⟨payloads, taken⟩ => ⟨_, payloads, taken, rfl⟩⟩
  · obtain ⟨payloads, taken, rfl⟩ := materialize_eq_ok.mp formed
    obtain ⟨reads, -, accepted⟩ := extract_eq_ok_iff_reads.mp taken
    have regular : ∀ payload ∈ payloads, Regular (utf8 payload) := fun payload inside =>
      regular_of_checkPayload (accepted payload inside)
    obtain ⟨fewer, whole⟩ := reads.counted
    exact ⟨payloads, taken, rfl, occurrences_regularForm label regular, fewer, whole,
      fun _ _ found apart closed => reads.mem_of_closed found apart closed⟩

/-- A certificate without line breaks. -/
def firstCertificate : String :=
  "-----BEGIN CERTIFICATE-----QUJD-----END CERTIFICATE-----"

/-- Another one. -/
def secondCertificate : String :=
  "-----BEGIN CERTIFICATE-----REVG-----END CERTIFICATE-----"

/-- Both certificates of a chain are kept, and the second one is found for its begin marker. -/
theorem blocks_counted_whole :
    materialize .certificate (firstCertificate ++ secondCertificate) =
        .ok ("-----BEGIN CERTIFICATE-----\nQUJD\n-----END CERTIFICATE-----\n" ++
          "-----BEGIN CERTIFICATE-----\nREVG\n-----END CERTIFICATE-----") ∧
      Complete .certificate (removeBlanks (firstCertificate ++ secondCertificate)).toList ∧
      ∃ payload rest, "REVG-----ENDCERTIFICATE-----".toList =
        payload ++ (Label.certificate.compactEnd ++ rest) := by
  have formed : materialize .certificate (firstCertificate ++ secondCertificate) =
      .ok ("-----BEGIN CERTIFICATE-----\nQUJD\n-----END CERTIFICATE-----\n" ++
        "-----BEGIN CERTIFICATE-----\nREVG\n-----END CERTIFICATE-----") := by
    decide +kernel
  have second : (removeBlanks secondCertificate).toList =
      Label.certificate.compactBegin ++ "REVG-----ENDCERTIFICATE-----".toList := by
    decide +kernel
  obtain ⟨-, -, counted⟩ := blocks_counted .certificate (firstCertificate ++ secondCertificate)
  obtain ⟨payloads, -, -, count, -, whole, closed⟩ := counted _ formed
  rw [Text.removeBlanks_append, String.toList_append, second] at whole closed ⊢
  refine ⟨formed, whole.mp ?_, ?_⟩
  · rw [← count]
    decide +kernel
  · obtain ⟨payload, -, rest, shape⟩ := closed (removeBlanks firstCertificate).toList
      "REVG-----ENDCERTIFICATE-----".toList rfl (by decide +kernel) (by decide +kernel)
    exact ⟨payload, rest, shape⟩

/-- **The last certificate of a chain is dropped where its end has been cut off.** -/
theorem truncated_block_dropped :
    materialize .certificate (firstCertificate ++ "-----BEGIN CERTIFICATE-----REVG") =
        .ok "-----BEGIN CERTIFICATE-----\nQUJD\n-----END CERTIFICATE-----" ∧
      occurrences Label.certificate.beginMarker.toList
        "-----BEGIN CERTIFICATE-----\nQUJD\n-----END CERTIFICATE-----".toList = 1 ∧
      occurrences Label.certificate.compactBegin
        (removeBlanks (firstCertificate ++ "-----BEGIN CERTIFICATE-----REVG")).toList = 2 := by
  decide +kernel

end Provision.Encoding.Pem
