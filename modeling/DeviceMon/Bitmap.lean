import Mathlib.Data.BitVec
import Mathlib.Logic.Function.Basic

/-!
# Bitmaps

Bytes as one row of bits, the lowest bit of a byte first (`bitAt`). Filling bytes and clearing bits
are said by what they do to each bit.
-/

namespace DeviceMon

section Bitmap

variable (bytes : ℕ → BitVec 8) (start length : ℕ)

/-- The `k`-th bit. -/
def bitAt (k : ℕ) : Bool :=
  (bytes (k / 8)).getLsbD (k % 8)

/-- The bytes with `length` of them set to `byte`. -/
def fillBytes (byte : BitVec 8) : ℕ → BitVec 8 := fun i =>
  if start ≤ i ∧ i < start + length then byte else bytes i

/-- The bytes with one bit cleared. -/
def clearBit (k : ℕ) : ℕ → BitVec 8 :=
  Function.update bytes (k / 8) (bytes (k / 8) &&& ~~~(1#8 <<< (k % 8)))

/-- The bytes with `length` bits from `start` on cleared. -/
def clearBits : ℕ → ℕ → BitVec 8
  | 0 => bytes
  | length + 1 => clearBit (clearBits length) (start + length)

theorem bitAt_fillBytes (byte : BitVec 8) (k : ℕ) :
    bitAt (fillBytes bytes start length byte) k =
      if start ≤ k / 8 ∧ k / 8 < start + length then byte.getLsbD (k % 8) else bitAt bytes k := by
  rw [bitAt, fillBytes]
  exact apply_ite (BitVec.getLsbD · (k % 8)) _ _ _

theorem bitAt_clearBit (k j : ℕ) :
    bitAt (clearBit bytes k) j = (bitAt bytes j && !decide (j = k)) := by
  rw [bitAt, clearBit, Function.update_apply]
  split_ifs with hbyte
  · have hbit : (1#8 <<< (k % 8)).getLsbD (j % 8) = decide (k % 8 = j % 8) := by
      refine (BitVec.getLsbD_twoPow _ _).trans ?_
      rw [decide_eq_true (Nat.mod_lt _ (by decide)), Bool.true_and]
    have hsame : k % 8 = j % 8 ↔ j = k := by omega
    rw [BitVec.getLsbD_and, BitVec.getLsbD_not, hbit, decide_eq_decide.2 hsame, ← hbyte,
      decide_eq_true (Nat.mod_lt _ (by decide)), Bool.true_and]
    rfl
  · have hne : j ≠ k := fun h => hbyte (by rw [h])
    rw [decide_eq_false hne]
    exact (Bool.and_true _).symm

theorem bitAt_clearBits (k : ℕ) : bitAt (clearBits bytes start length) k =
    (bitAt bytes k && !decide (start ≤ k ∧ k < start + length)) := by
  induction length with
  | zero =>
    have hnone : ¬(start ≤ k ∧ k < start + 0) := by omega
    rw [clearBits, decide_eq_false hnone]
    exact (Bool.and_true _).symm
  | succ length ih =>
    rw [clearBits, bitAt_clearBit, ih, Bool.and_assoc, ← Bool.not_or, ← Bool.decide_or]
    congr 2
    rw [decide_eq_decide]
    omega

end Bitmap

end DeviceMon
