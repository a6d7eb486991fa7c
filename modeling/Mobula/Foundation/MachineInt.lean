import Mathlib.Data.Int.Cast.Basic
import Mathlib.Tactic.NormNum

/-!
# Machine integers

Unsigned numbers kept in signed 64-bit columns, as casts between fixed-width
types convert them. The types themselves are ℕ and ℤ.
-/

namespace Foundation

def I64_MAX : ℕ := 2 ^ 63 - 1

def clampI64 (n : ℕ) : ℤ :=
  (min n I64_MAX : ℕ)

def asI64 (n : ℕ) : ℤ :=
  if n % 2 ^ 64 < 2 ^ 63 then (n % 2 ^ 64 : ℕ) else (n % 2 ^ 64 : ℕ) - 2 ^ 64

def asUnsigned (bits : ℕ) (value : ℤ) : ℕ :=
  (value % 2 ^ bits).toNat

theorem clampI64_of_lt {n : ℕ} (small : n < 2 ^ 63) : clampI64 n = n := by
  simp only [clampI64, I64_MAX]
  omega

theorem clampI64_mono {first second : ℕ} (le : first ≤ second) :
    clampI64 first ≤ clampI64 second := by
  simp only [clampI64, I64_MAX]
  omega

theorem asI64_of_lt {n : ℕ} (small : n < 2 ^ 63) : asI64 n = n := by
  unfold asI64
  omega

@[simp]
theorem asI64_zero : asI64 0 = 0 := rfl

theorem asUnsigned_natCast {bits n : ℕ} (small : n < 2 ^ bits) : asUnsigned bits n = n := by
  have wrapped : ((n : ℤ) % 2 ^ bits) = ((n % 2 ^ bits : ℕ) : ℤ) := by push_cast; rfl
  rw [asUnsigned, wrapped, Int.toNat_natCast, Nat.mod_eq_of_lt small]

/-- An unsigned 64-bit number survives the way to a signed column and back. -/
theorem asUnsigned_asI64 {n : ℕ} (small : n < 2 ^ 64) : asUnsigned 64 (asI64 n) = n := by
  simp only [asUnsigned, asI64]
  omega

theorem asI64_asUnsigned {value : ℤ} (bounds : -2 ^ 63 ≤ value ∧ value < 2 ^ 63) :
    asI64 (asUnsigned 64 value) = value := by
  simp only [asUnsigned, asI64]
  omega

end Foundation
