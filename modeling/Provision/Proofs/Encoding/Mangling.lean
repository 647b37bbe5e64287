import Mathlib.Data.List.Forall2
import Provision.Proofs.Encoding.Pem

/-!
# Blocks are recovered from mangled texts

What is left of a text without its blanks does not depend on where they were, in markers and
payloads no more than anywhere else. So whatever blanks have been put into a text or taken out of
it, the payloads of its blocks are found, and the blocks are written anew in lines of 64
characters, of which only the last may be shorter (`blocks_recovered`). Other text may stand around
the blocks if it cannot run into the dashes of a marker.
-/

set_option autoImplicit false

namespace Provision.Encoding.Pem

open Text (ofByte removeBlanks utf8)
open Base64 (Regular)

/-! ## Blocks of encoded bytes -/

/-- Some bytes, and what stands behind the block that holds them. -/
structure Block where
  bytes : List UInt8
  filled : bytes ≠ []
  gap : Gap

namespace Block

variable (block : Block)

/-- The bytes as base64. -/
def payload : List Char :=
  (Base64.encode block.bytes).map ofByte

theorem utf8_payload : utf8 block.payload = Base64.encode block.bytes :=
  Text.utf8_map_ofByte (Base64.regular_of_decode (Base64.decode_encode block.bytes)).ascii

theorem regular_payload : Regular (utf8 block.payload) := by
  rw [utf8_payload]
  exact Base64.regular_of_decode (Base64.decode_encode block.bytes)

theorem payload_ne_nil : block.payload ≠ [] := by
  obtain ⟨bytes, filled, -⟩ := block
  show (Base64.encode bytes).map ofByte ≠ []
  fun_cases Base64.encode bytes <;> simp at filled ⊢

/-- Encoded bytes are accepted. -/
theorem checkPayload_payload (label : Label) : checkPayload label block.payload = .ok () := by
  have decoded : Base64.decodeText block.payload = .ok block.bytes := by
    rw [Base64.decodeText, utf8_payload, Base64.decode_encode]
  rw [checkPayload, if_neg (by simpa using block.payload_ne_nil), decoded]

end Block

/-! ## Lines -/

/-- The lines hold the payload, and have 64 characters each but for the last, which may be shorter
but is not empty. -/
structure Lined (payload : List Char) (lines : List (List Char)) : Prop where
  whole : lines.flatten = payload
  widths : ∃ full last, lines = full ++ [last] ∧ (∀ line ∈ full, line.length = 64) ∧
    0 < last.length ∧ last.length ≤ 64

/-- Pieces of a positive length are as long as they can be. -/
theorem cutEvery_widths {α : Type} {length : Nat} {items : List α} (positive : 0 < length)
    (something : items ≠ []) :
    ∃ full last, cutEvery length items = full ++ [last] ∧
      (∀ line ∈ full, line.length = length) ∧ 0 < last.length ∧ last.length ≤ length := by
  fun_induction cutEvery length items with
  | case1 => exact absurd rfl something
  | case2 item rest ih =>
      by_cases more : rest.drop (length - 1) = []
      · refine ⟨[], item :: rest.take (length - 1), ?_, by simp, by simp, ?_⟩
        · rw [more, cutEvery, List.nil_append]
        · simp only [List.length_cons, List.length_take]
          omega
      · obtain ⟨full, last, same, widths, filled, short⟩ := ih more
        have long : length - 1 < rest.length := by simpa using more
        refine ⟨(item :: rest.take (length - 1)) :: full, last, ?_, ?_, filled, short⟩
        · rw [same, List.cons_append]
        · refine List.forall_mem_cons.mpr ⟨?_, widths⟩
          simp only [List.length_cons, List.length_take]
          omega

theorem lined_cutEvery {payload : List Char} (something : payload ≠ []) :
    Lined payload (cutEvery lineWidth payload) where
  whole := cutEvery_flatten lineWidth payload
  widths := cutEvery_widths (by decide) something

/-- Lines between the markers of a block. -/
def written (label : Label) (lines : List (List Char)) : String :=
  Text.joined "\n" (label.beginMarker :: lines.map String.ofList ++ [label.endMarker])

/-- Base64 is written in lines of its characters. -/
theorem format_eq_written (label : Label) {payload : List Char} (regular : Regular (utf8 payload)) :
    format label payload = written label (cutEvery lineWidth payload) := by
  rw [format, map_decodeLossy_lines regular, written]

/-! ## Mangled texts -/

/-- **Blocks are recovered from a text whatever blanks have been put into it or taken out of it.**
Their payloads are taken from it, all of them and in order, and they are written anew in lines that
are as long as they may be. -/
theorem blocks_recovered {label : Label} {raw : String} (first : Gap) {blocks : List Block}
    (something : blocks ≠ [])
    (mangled : (removeBlanks raw).toList =
      first.text ++ spread label (blocks.map fun block => (block.payload, block.gap))) :
    extract label raw = .ok (blocks.map Block.payload) ∧
      ∃ lines, List.Forall₂ Lined (blocks.map Block.payload) lines ∧
        materialize label raw = .ok (Text.joined "\n" (lines.map (written label))) := by
  have found := payloadsOf_spread label first
    (List.forall_mem_map.mpr fun block _ => block.regular_payload :
      ∀ pair ∈ blocks.map fun block => (block.payload, block.gap), Regular (utf8 pair.1))
  have taken : extract label raw = .ok (blocks.map Block.payload) := by
    refine extract_eq_ok.mpr ⟨?_, by simpa using something, ?_⟩
    · rw [mangled, found, List.map_map]
      rfl
    · exact List.forall_mem_map.mpr fun block _ => block.checkPayload_payload label
  refine ⟨taken, (blocks.map Block.payload).map (cutEvery lineWidth), ?_, ?_⟩
  · rw [List.forall₂_map_right_iff, List.forall₂_same]
    exact List.forall_mem_map.mpr fun block _ => lined_cutEvery block.payload_ne_nil
  · refine materialize_eq_ok.mpr ⟨_, taken, ?_⟩
    rw [regularForm, List.map_map]
    refine congrArg (Text.joined "\n") (List.map_congr_left ?_)
    exact List.forall_mem_map.mpr fun block _ =>
      (format_eq_written label block.regular_payload).symm

/-- Two certificates and some other text, with blanks and line breaks where they do not belong. -/
def mangledChain : String :=
  "root-CA:-----BEGIN CERTI\nFICATE-----QU\tJD-----ENDCERTIFICATE---\n-- next" ++
    " -----BEGIN CERTIFICATE-----REVGRw==-----END CERTIFICATE-----"

/-- The certificates of the chain. -/
def chain : List Block :=
  [{ bytes := [65, 66, 67]
     filled := by decide
     gap := { text := ['n', 'e', 'x', 't'], unruled := by decide, undashed := by decide } },
   { bytes := [68, 69, 70, 71], filled := by decide, gap := .empty }]

/-- The chain is recovered. -/
theorem blocks_recovered_chain :
    chain ≠ [] ∧
      extract .certificate mangledChain =
        .ok [['Q', 'U', 'J', 'D'], ['R', 'E', 'V', 'G', 'R', 'w', '=', '=']] ∧
      ∃ lines, List.Forall₂ Lined
          [['Q', 'U', 'J', 'D'], ['R', 'E', 'V', 'G', 'R', 'w', '=', '=']] lines ∧
        materialize .certificate mangledChain =
          .ok (Text.joined "\n" (lines.map (written .certificate))) := by
  have something : chain ≠ [] := by decide
  have mangled : (removeBlanks mangledChain).toList =
      ['r', 'o', 'o', 't', '-', 'C', 'A', ':'] ++
        spread .certificate (chain.map fun block => (block.payload, block.gap)) := by
    decide +kernel
  have recovered := blocks_recovered
    { text := ['r', 'o', 'o', 't', '-', 'C', 'A', ':']
      unruled := by decide
      undashed := by decide } something mangled
  exact ⟨something, recovered⟩

end Provision.Encoding.Pem
