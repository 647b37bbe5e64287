import Provision.Text.Utf8

/-!
# Texts of one byte for each character

A text whose encoding has no byte above 127 has one byte for each of its characters, and the byte is
the code of the character (`map_utf8`). Such bytes are read back without loss, also by the reader
that puts something in place of what it cannot read (`decodeLossy_eq_map`).
-/

set_option autoImplicit false

namespace Provision.Text

/-- The character whose code is the byte. -/
def ofByte (byte : UInt8) : Char :=
  Char.ofNat byte.toNat

theorem toNat_ofByte (byte : UInt8) : (ofByte byte).toNat = byte.toNat := by
  have valid : byte.toNat.isValidChar := Or.inl (by have := byte.toNat_lt; omega)
  rw [ofByte, Char.ofNat, dif_pos valid]
  rfl

/-! ## Writing -/

/-- A character that is written with small bytes only is written with one, which is its code. -/
theorem utf8EncodeChar_of_small {character : Char}
    (small : ∀ byte ∈ String.utf8EncodeChar character, byte.toNat < 128) :
    (String.utf8EncodeChar character).map ofByte = [character] := by
  by_cases short : character.toNat ≤ 127
  · have code : (UInt8.ofNat character.toNat).toNat = character.toNat := by
      rw [UInt8.toNat_ofNat', Nat.mod_eq_of_lt (by omega)]
    have single : String.utf8EncodeChar character = [UInt8.ofNat character.toNat] := if_pos short
    rw [single, List.map_singleton, ofByte, code, Char.ofNat_toNat]
  · -- Every longer sequence ends with a byte that is not small.
    have last : UInt8.ofNat (character.toNat % 64 + 128) ∈ String.utf8EncodeChar character := by
      unfold String.utf8EncodeChar
      simp only [Char.toNat_val, short, if_false]
      split
      · simp
      · split <;> simp
    have high := small _ last
    rw [UInt8.toNat_ofNat', Nat.mod_eq_of_lt (by omega)] at high
    omega

/-- **Where all bytes are small, they are the codes of the characters.** -/
theorem map_utf8 {characters : List Char} (small : ∀ byte ∈ utf8 characters, byte.toNat < 128) :
    (utf8 characters).map ofByte = characters := by
  induction characters with
  | nil => rfl
  | cons character rest ih =>
      simp only [utf8, List.flatMap_cons, List.mem_append] at small ih ⊢
      rw [List.map_append, utf8EncodeChar_of_small fun byte inside => small byte (Or.inl inside),
        ih fun byte inside => small byte (Or.inr inside)]
      rfl

/-- **Small bytes are what the characters are written with whose codes they are.** -/
theorem utf8_map_ofByte {bytes : List UInt8} (small : ∀ byte ∈ bytes, byte.toNat < 128) :
    utf8 (bytes.map ofByte) = bytes := by
  induction bytes with
  | nil => rfl
  | cons byte rest ih =>
      obtain ⟨here, later⟩ := List.forall_mem_cons.mp small
      have code : (ofByte byte).toNat ≤ 127 := by
        rw [toNat_ofByte]
        exact Nat.le_of_lt_succ here
      have single : String.utf8EncodeChar (ofByte byte) = [UInt8.ofNat (ofByte byte).toNat] :=
        if_pos code
      have others := ih later
      rw [utf8] at others ⊢
      rw [List.map_cons, List.flatMap_cons, others, single, toNat_ofByte, UInt8.ofNat_toNat,
        List.singleton_append]

/-! ## Reading -/

/-- **Small bytes are read as the characters whose codes they are.** -/
theorem decodeLossy_eq_map {bytes : List UInt8} (small : ∀ byte ∈ bytes, byte.toNat < 128) :
    decodeLossy bytes = bytes.map ofByte := by
  induction bytes with
  | nil => rfl
  | cons byte rest ih =>
      have first : byte < 0x80 := small byte List.mem_cons_self
      have others := ih fun other inside => small other (List.mem_cons_of_mem byte inside)
      simp only [decodeLossy, List.length_cons, scalars, readScalar, first, if_true, List.map_cons]
      rw [decodeLossy] at others
      rw [others]
      rfl

end Provision.Text
