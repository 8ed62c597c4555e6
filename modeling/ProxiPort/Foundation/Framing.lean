import Mathlib.Algebra.Ring.Nat
import Mathlib.Data.List.Basic

/-!
# Length-prefixed serialisations

Numbers as big-endian byte strings of a fixed width, and blocks of bytes behind
their lengths.  As long as the lengths fit the width, a sequence of framed
blocks can be read back in one way only.
-/

namespace Framing

open List

/-- The last `width` bytes of a number, the most significant one first. -/
def bigEndian : Nat → Nat → List UInt8
  | 0, _ => []
  | width + 1, value => bigEndian width (value / 256) ++ [UInt8.ofNat value]

@[simp]
theorem bigEndian_length (width value : Nat) : (bigEndian width value).length = width := by
  induction width generalizing value with
  | zero => rfl
  | succ width induction => simp [bigEndian, induction]

theorem bigEndian_inj {width first second : Nat}
    (firstFits : first < 256 ^ width) (secondFits : second < 256 ^ width)
    (same : bigEndian width first = bigEndian width second) :
    first = second := by
  induction width generalizing first second with
  | zero =>
    rw [Nat.pow_zero] at firstFits secondFits
    omega
  | succ width induction =>
    rw [Nat.pow_succ] at firstFits secondFits
    obtain ⟨upper, lower⟩ := append_inj same (by simp)
    have quotient : first / 256 = second / 256 :=
      induction (Nat.div_lt_of_lt_mul (by rwa [Nat.mul_comm]))
        (Nat.div_lt_of_lt_mul (by rwa [Nat.mul_comm])) upper
    have remainder : first % 256 = second % 256 := by
      have bytes := congrArg UInt8.toNat (singleton_inj.mp lower)
      simpa using bytes
    omega

variable {width : Nat} {block other rest otherRest : List UInt8}

def frame (width : Nat) (block : List UInt8) : List UInt8 := bigEndian width block.length ++ block

theorem frame_append_inj (blockFits : block.length < 256 ^ width)
    (otherFits : other.length < 256 ^ width)
    (same : frame width block ++ rest = frame width other ++ otherRest) :
    block = other ∧ rest = otherRest := by
  simp only [frame, append_assoc] at same
  obtain ⟨lengths, contents⟩ := append_inj same (by simp)
  exact append_inj contents (bigEndian_inj blockFits otherFits lengths)

theorem flatMap_frame_inj {blocks others : List (List UInt8)}
    (blocksFit : ∀ block ∈ blocks, block.length < 256 ^ width)
    (othersFit : ∀ other ∈ others, other.length < 256 ^ width)
    (count : blocks.length = others.length)
    (same : blocks.flatMap (frame width) = others.flatMap (frame width)) : blocks = others := by
  induction blocks generalizing others with
  | nil => exact (length_eq_zero_iff.mp count.symm).symm
  | cons block blocks induction =>
    cases others with
    | nil => cases count
    | cons other others =>
      simp only [flatMap_cons] at same
      simp only [mem_cons, forall_eq_or_imp] at blocksFit othersFit
      obtain ⟨head, tail⟩ := frame_append_inj blocksFit.1 othersFit.1 same
      rw [head, induction blocksFit.2 othersFit.2 (Nat.succ.inj count) tail]

end Framing
