import Mathlib.Tactic.Ring

/-!
# Signed integers of a fixed size

The arithmetic of signed integers of `bits` bits is that of the integers as long as the result fits,
and is not defined where it does not.  A conversion to fewer bits keeps the low ones.
-/

namespace CInt

/-- A number fits in a signed integer of `bits` bits. -/
def Fits (bits : Nat) (n : Int) : Prop := -2 ^ (bits - 1) ≤ n ∧ n < 2 ^ (bits - 1)

instance (bits : Nat) (n : Int) : Decidable (Fits bits n) :=
  inferInstanceAs (Decidable (_ ∧ _))

/-- The result of an operation on signed integers of `bits` bits, where it is defined. -/
def signed (bits : Nat) (n : Int) : Option Int := if Fits bits n then some n else none

/-- A number converted to a signed integer of `bits` bits. -/
def convert (bits : Nat) (n : Int) : Int := n.bmod (2 ^ bits)

theorem signed_of_fits {bits : Nat} {n : Int} (h : Fits bits n) :
  signed bits n = some n
  := if_pos h

theorem signed_eq_some {bits : Nat} {n k : Int} :
  signed bits n = some k ↔ Fits bits n ∧ k = n
  := by
  rw [signed]
  split
  · next h => simp [h, eq_comm]
  · next h => simp [h]

theorem fits_32 {n : Int} :
  Fits 32 n ↔ -2147483648 ≤ n ∧ n < 2147483648
  := Iff.rfl

theorem fits_64 {n : Int} :
  Fits 64 n ↔ -9223372036854775808 ≤ n ∧ n < 9223372036854775808
  := Iff.rfl

/-- A number that fits is converted to itself. -/
theorem convert_of_fits {n : Int} (h : Fits 32 n) :
  convert 32 n = n
  := by
  rw [fits_32] at h
  rw [convert, Int.bmod_def]
  split <;> omega

/-- A conversion takes off a multiple of all that can be converted to. -/
theorem convert_32 (n : Int) :
  Fits 32 (convert 32 n) ∧ ∃ k, n = convert 32 n + 4294967296 * k
  := by
  rw [fits_32, convert, Int.bmod_def]
  refine ⟨?_, ?_⟩
  · split <;> omega
  · split
    · use n / 4294967296
      omega
    · use n / 4294967296 + 1
      omega

end CInt
