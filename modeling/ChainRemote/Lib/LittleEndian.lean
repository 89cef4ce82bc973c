import Mathlib.Algebra.Group.Nat.Defs

/-!
# Numbers as little-endian bytes

A number is written in a fixed number of bytes, the lowest first, and read back from them. What does
not fit in the bytes is cut off.
-/

namespace Lib

/-- The lowest bytes of a number, the lowest first. -/
def toLe : ℕ → ℕ → List UInt8
  | 0, _ => []
  | width + 1, n => UInt8.ofNat n :: toLe width (n / 256)

/-- The number that bytes are, the lowest first. -/
def ofLe : List UInt8 → ℕ
  | [] => 0
  | byte :: rest => byte.toNat + 256 * ofLe rest

@[simp] theorem length_toLe (width n : ℕ) : (toLe width n).length = width := by
  induction width generalizing n with
  | zero => rfl
  | succ width ih => rw [toLe, List.length_cons, ih]

/-- A number is read back up to what its bytes hold. -/
theorem ofLe_toLe (width n : ℕ) : ofLe (toLe width n) = n % 256 ^ width := by
  induction width generalizing n with
  | zero => rw [Nat.pow_zero, Nat.mod_one, toLe, ofLe]
  | succ width ih =>
    have low : n % 256 ^ (width + 1) = n % 256 + 256 * (n / 256 % 256 ^ width) := by
      rw [Nat.pow_succ', Nat.mod_mul]
    rw [toLe, ofLe, ih, UInt8.toNat_ofNat', low]

/-- A number that fits is read back as it is. -/
theorem ofLe_toLe_of_lt {width n : ℕ} (fits : n < 256 ^ width) : ofLe (toLe width n) = n := by
  rw [ofLe_toLe, Nat.mod_eq_of_lt fits]

/-- Bytes hold no larger numbers. -/
theorem ofLe_lt (bytes : List UInt8) : ofLe bytes < 256 ^ bytes.length := by
  induction bytes with
  | nil => exact Nat.one_pos
  | cons byte rest ih =>
    have small := byte.toNat_lt
    rw [ofLe, List.length_cons, Nat.pow_succ]
    omega

/-- Bytes are written back as they are. -/
theorem toLe_ofLe (bytes : List UInt8) : toLe bytes.length (ofLe bytes) = bytes := by
  induction bytes with
  | nil => rfl
  | cons byte rest ih =>
    have small := byte.toNat_lt
    have high : (byte.toNat + 256 * ofLe rest) / 256 = ofLe rest := by omega
    have low : UInt8.ofNat (byte.toNat + 256 * ofLe rest) = byte := by
      apply UInt8.toNat_inj.mp
      rw [UInt8.toNat_ofNat']
      omega
    rw [List.length_cons, ofLe, toLe, high, ih, low]

end Lib
