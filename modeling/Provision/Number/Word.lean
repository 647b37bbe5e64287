/-!
# Words

A word of so many bits has twice as many values for every bit.  Bounds of numbers and arithmetic
that wraps around are stated by it.
-/

set_option autoImplicit false

namespace Provision.Number

/-- The number of values of a word. -/
def wordSize (bits : Nat) : Nat := Nat.pow 2 bits

theorem wordSize_succ (bits : Nat) : wordSize (bits + 1) = 2 * wordSize bits :=
  Nat.mul_comm _ _

theorem wordSize_pos (bits : Nat) : 0 < wordSize bits := by
  induction bits with
  | zero => exact Nat.one_pos
  | succ bits ih =>
      rw [wordSize_succ]
      exact Nat.mul_pos Nat.two_pos ih

/-- A count kept in a word: it starts again from zero past the greatest value. -/
def wrapped (bits count : Nat) : Nat := count % wordSize bits

theorem wrapped_of_lt {bits count : Nat} (fits : count < wordSize bits) :
    wrapped bits count = count :=
  Nat.mod_eq_of_lt fits

theorem wrapped_lt (bits count : Nat) : wrapped bits count < wordSize bits :=
  Nat.mod_lt count (wordSize_pos bits)

end Provision.Number
