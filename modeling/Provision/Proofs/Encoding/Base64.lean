import Provision.Encoding.Base64
import Provision.Proofs.Result

/-!
# What is base64

A text that can be decoded consists of whole groups of four bytes, each a symbol or padding
(`regular_of_decode`). So it has no blank, no dash and nothing beyond ASCII in it, which is all that
the blocks around it depend on. And what has been encoded can be decoded, and gives the same bytes
again (`decode_encode`).
-/

set_option autoImplicit false

namespace Provision.Encoding.Base64

/-! ## Bytes -/

/-- Symbols and padding. -/
def Legible (byte : UInt8) : Prop :=
  byte = padding ∨ (sextet? byte).isSome

/-- Where the symbols and padding are among the codes. -/
theorem Legible.code {byte : UInt8} (legible : Legible byte) :
    42 < byte.toNat ∧ byte.toNat < 128 ∧ byte.toNat ≠ 45 := by
  rcases legible with rfl | known
  · decide
  · simp only [sextet?, Bool.and_eq_true, decide_eq_true_eq, beq_iff_eq] at known
    split at known
    · omega
    split at known
    · omega
    split at known
    · omega
    split at known
    · omega
    split at known
    · omega
    · cases known

/-! ## Blocks -/

/-- Bytes that must all be symbols. -/
theorem legible_of_symbols {offset : Nat} {text : List UInt8} {sextets : List Nat}
    (read : symbols offset text = .ok sextets) : ∀ byte ∈ text, Legible byte := by
  induction text generalizing offset sextets with
  | nil => simp
  | cons byte rest ih =>
      cases known : sextet? byte with
      | none => simp [symbols, known] at read
      | some sextet =>
          simp only [symbols, known] at read
          obtain ⟨others, behind, -⟩ := exists_of_map_eq_ok read
          rintro other (_ | ⟨_, inside⟩)
          · exact Or.inr (by rw [known]; rfl)
          · exact ih behind other inside

/-- The last block, of which each byte is counted as a symbol or as padding. -/
theorem legible_of_lastSymbols {start index : Nat} {padded : Option Nat} {text : List UInt8}
    {sextets : List Nat} {pads : Nat}
    (read : lastSymbols start index padded text = .ok (sextets, pads)) :
    sextets.length + pads = text.length ∧ ∀ byte ∈ text, Legible byte := by
  induction text generalizing index padded sextets pads with
  | nil =>
      cases read
      simp
  | cons byte rest ih =>
      have counted {next : Nat} {begun : Option Nat} {others : List Nat} {pads : Nat}
          (legible : Legible byte)
          (behind : lastSymbols start next begun rest = .ok (others, pads)) :
          others.length + pads = rest.length ∧ ∀ other ∈ byte :: rest, Legible other := by
        obtain ⟨count, all⟩ := ih behind
        exact ⟨count, List.forall_mem_cons.mpr ⟨legible, all⟩⟩
      simp only [lastSymbols, beq_iff_eq] at read
      split at read
      case isTrue pad =>
        split at read
        · cases read
        · obtain ⟨⟨others, further⟩, behind, same⟩ := exists_of_map_eq_ok read
          cases same
          obtain ⟨count, all⟩ := counted (Or.inl pad) behind
          exact ⟨by simp only [List.length_cons]; omega, all⟩
      case isFalse =>
        split at read
        · cases read
        · cases read
        case h_3 sextet known =>
          obtain ⟨⟨others, further⟩, behind, same⟩ := exists_of_map_eq_ok read
          cases same
          obtain ⟨count, all⟩ := counted (Or.inr (by rw [known]; rfl)) behind
          exact ⟨by simp only [List.length_cons]; omega, all⟩

/-! ## Texts -/

/-- Whole groups of symbols and padding. -/
structure Regular (text : List UInt8) : Prop where
  whole : text.length % 4 = 0
  legible : ∀ byte ∈ text, Legible byte

theorem Regular.ascii {text : List UInt8} (regular : Regular text) :
    ∀ byte ∈ text, byte.toNat < 128 :=
  fun byte inside => (regular.legible byte inside).code.2.1

/-- **What can be decoded is regular.** -/
theorem regular_of_decode {text bytes : List UInt8} (decoded : decode text = .ok bytes) :
    Regular text := by
  simp only [decode] at decoded
  split at decoded
  · split at decoded <;> cases decoded
  · obtain ⟨front, symbolic, decoded⟩ := exists_of_bind_eq_ok decoded
    obtain ⟨⟨back, pads⟩, last, decoded⟩ := exists_of_bind_eq_ok decoded
    simp only at decoded
    split at decoded
    · cases decoded
    case isFalse whole =>
      have whole : (back.length + pads) % 4 = 0 := by simpa using whole
      obtain ⟨count, behind⟩ := legible_of_lastSymbols last
      refine ⟨?_, fun byte inside => ?_⟩
      · rw [List.length_drop] at count
        simp only [lastStart] at count
        omega
      · rw [← List.take_append_drop (lastStart text.length) text] at inside
        exact (List.mem_append.mp inside).elim (legible_of_symbols symbolic byte) (behind byte)

/-! ## What has been encoded -/

/-- The six-bit parts of some bytes, of which the last one is filled up with zeros. -/
def sextets : List UInt8 → List Nat
  | [] => []
  | [a] => [a.toNat / 4, a.toNat % 4 * 16]
  | [a, b] => [a.toNat / 4, a.toNat % 4 * 16 + b.toNat / 16, b.toNat % 16 * 4]
  | a :: b :: c :: rest =>
      a.toNat / 4 :: (a.toNat % 4 * 16 + b.toNat / 16) :: (b.toNat % 16 * 4 + c.toNat / 64)
        :: c.toNat % 64 :: sextets rest

theorem sextets_lt (bytes : List UInt8) : ∀ sextet ∈ sextets bytes, sextet < 64 := by
  fun_induction sextets bytes with
  | case1 => simp
  | case2 a =>
      have := a.toNat_lt
      simp only [List.forall_mem_cons]
      exact ⟨by omega, by omega, List.forall_mem_nil _⟩
  | case3 a b =>
      have := a.toNat_lt
      have := b.toNat_lt
      simp only [List.forall_mem_cons]
      exact ⟨by omega, by omega, by omega, List.forall_mem_nil _⟩
  | case4 a b c rest ih =>
      have := a.toNat_lt
      have := b.toNat_lt
      have := c.toNat_lt
      simp only [List.forall_mem_cons]
      exact ⟨by omega, by omega, by omega, by omega, ih⟩

/-- Encoded bytes are the symbols of their parts, with padding that completes the last group. -/
theorem encode_eq (bytes : List UInt8) :
    ∃ pads, pads ≤ 2 ∧ ((sextets bytes).length + pads) % 4 = 0 ∧
      encode bytes = (sextets bytes).map symbol ++ List.replicate pads padding := by
  fun_induction sextets bytes with
  | case1 => exact ⟨0, by decide, rfl, rfl⟩
  | case2 a => exact ⟨2, by decide, by simp, rfl⟩
  | case3 a b => exact ⟨1, by decide, by simp, rfl⟩
  | case4 a b c rest ih =>
      obtain ⟨pads, few, whole, same⟩ := ih
      refine ⟨pads, few, ?_, ?_⟩
      · simp only [List.length_cons]
        omega
      · rw [encode, same]
        rfl

/-- The parts of some bytes are put together again, and no bits are left. -/
theorem assemble_sextets (bytes : List UInt8) : assemble (sextets bytes) = (bytes, 0) := by
  have byte {code : Nat} {a : UInt8} (same : code = a.toNat) : UInt8.ofNat code = a := by
    rw [same, UInt8.ofNat_toNat]
  fun_induction sextets bytes with
  | case1 => rfl
  | case2 a =>
      have := a.toNat_lt
      simp only [assemble, Prod.mk.injEq, List.cons.injEq, and_true]
      exact ⟨byte (by omega), by omega⟩
  | case3 a b =>
      have := a.toNat_lt
      have := b.toNat_lt
      simp only [assemble, Prod.mk.injEq, List.cons.injEq, and_true]
      exact ⟨⟨byte (by omega), byte (by omega)⟩, by omega⟩
  | case4 a b c rest ih =>
      have := a.toNat_lt
      have := b.toNat_lt
      have := c.toNat_lt
      simp only [assemble, ih, Prod.mk.injEq, List.cons.injEq, and_true]
      exact ⟨byte (by omega), byte (by omega), byte (by omega)⟩

theorem sextet?_symbol {sextet : Nat} (small : sextet < 64) :
    sextet? (symbol sextet) = some sextet := by
  revert sextet
  decide

/-- Each symbol is read as what it stands for. -/
theorem symbols_map_symbol {known : List Nat} (small : ∀ sextet ∈ known, sextet < 64)
    (offset : Nat) : symbols offset (known.map symbol) = .ok known := by
  induction known generalizing offset with
  | nil => rfl
  | cons sextet others ih =>
      obtain ⟨here, later⟩ := List.forall_mem_cons.mp small
      simp only [List.map_cons, symbols, sextet?_symbol here, ih later]
      rfl

/-- Padding is read where it completes a group. -/
theorem lastSymbols_padding {start index pads : Nat} (few : pads ≤ 2)
    (whole : (index + pads) % 4 = 0) (padded : Option Nat) :
    lastSymbols start index padded (List.replicate pads padding) = .ok ([], pads) := by
  induction pads generalizing index padded with
  | zero => rfl
  | succ pads ih =>
      simp only [List.replicate_succ, lastSymbols, beq_self_eq_true, if_true]
      rw [if_neg (by omega), ih (by omega) (by omega)]
      rfl

/-- The last block is read up to its padding. -/
theorem lastSymbols_map_symbol {start index pads : Nat} {known : List Nat}
    (small : ∀ sextet ∈ known, sextet < 64) (few : pads ≤ 2)
    (whole : (index + known.length + pads) % 4 = 0) :
    lastSymbols start index none (known.map symbol ++ List.replicate pads padding) =
      .ok (known, pads) := by
  induction known generalizing index with
  | nil => exact lastSymbols_padding few whole none
  | cons sextet others ih =>
      obtain ⟨here, later⟩ := List.forall_mem_cons.mp small
      have unpadded : (symbol sextet == padding) = false := by
        refine beq_eq_false_iff_ne.mpr fun same => ?_
        have none : sextet? padding = some sextet := same ▸ sextet?_symbol here
        cases none
      simp only [List.map_cons, List.cons_append, lastSymbols, unpadded, sextet?_symbol here]
      rw [ih later (by simp only [List.length_cons] at whole; omega)]
      rfl

/-- Symbols and padding in whole groups are decoded if they leave no bits. -/
theorem decode_symbols {known : List Nat} {pads : Nat} {bytes : List UInt8}
    (small : ∀ sextet ∈ known, sextet < 64) (few : pads ≤ 2)
    (whole : (known.length + pads) % 4 = 0) (assembled : assemble known = (bytes, 0)) :
    decode (known.map symbol ++ List.replicate pads padding) = .ok bytes := by
  have length : (known.map symbol ++ List.replicate pads padding).length = known.length + pads := by
    rw [List.length_append, List.length_map, List.length_replicate]
  unfold decode
  simp only [length]
  obtain ⟨start, starts⟩ : ∃ start, lastStart (known.length + pads) = start := ⟨_, rfl⟩
  -- The last block starts with a group, and before the padding.
  have inside : start ≤ known.length ∧ start % 4 = 0 := by
    rw [← starts, lastStart]
    omega
  have front : symbols 0 ((known.map symbol ++ List.replicate pads padding).take start) =
      .ok (known.take start) := by
    rw [List.take_append_of_le_length (by simpa using inside.1), ← List.map_take]
    exact symbols_map_symbol (fun sextet held => small sextet (List.mem_of_mem_take held)) 0
  have lastWhole : ((known.drop start).length + pads) % 4 = 0 := by
    rw [List.length_drop]
    omega
  have back : lastSymbols start 0 none
      ((known.map symbol ++ List.replicate pads padding).drop start) =
        .ok (known.drop start, pads) := by
    rw [List.drop_append_of_le_length (by simpa using inside.1), ← List.map_drop]
    exact lastSymbols_map_symbol (fun sextet held => small sextet (List.mem_of_mem_drop held)) few
      (by rwa [Nat.zero_add])
  rw [starts, if_neg (by simp; omega), front, back]
  simp only [bind, Except.bind, lastWhole, List.take_append_drop, assembled]
  rfl

/-- **What has been encoded is decoded.** -/
theorem decode_encode (bytes : List UInt8) : decode (encode bytes) = .ok bytes := by
  obtain ⟨pads, few, whole, same⟩ := encode_eq bytes
  rw [same]
  exact decode_symbols (sextets_lt bytes) few whole (assemble_sextets bytes)

end Provision.Encoding.Base64
