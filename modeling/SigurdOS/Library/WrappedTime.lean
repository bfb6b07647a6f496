import Mathlib.Algebra.Group.Nat.Defs

namespace WrappedTime

/-- A 32-bit count of milliseconds at a real time. -/
abbrev stamp (time : Nat) : UInt32 := UInt32.ofNat time

theorem stamp_add (time : Nat) (delay : UInt32) : stamp time + delay = stamp (time + delay.toNat) := by
  apply UInt32.toNat.inj
  simp [stamp]

theorem elapsed_toNat {earlier later : Nat} (ordered : earlier ≤ later) :
    (stamp later - stamp earlier).toNat = (later - earlier) % 2 ^ 32 := by
  simp only [stamp, UInt32.toNat_sub, UInt32.toNat_ofNat']
  omega

theorem negative_iff (difference : UInt32) : difference.toInt32 < 0 ↔ 2 ^ 31 ≤ difference.toNat := by
  rw [Int32.lt_iff_toInt_lt, Int32.toInt_zero, ← Int32.toInt_toBitVec, UInt32.toBitVec_toInt32,
    BitVec.toInt_neg_iff, UInt32.toNat_toBitVec]
  omega

theorem negative_of_lt {now deadline : Nat} (ahead : now < deadline) (near : deadline ≤ now + 2 ^ 31) :
    (stamp now - stamp deadline).toInt32 < 0 := by
  rw [negative_iff]
  simp only [stamp, UInt32.toNat_sub, UInt32.toNat_ofNat']
  omega

theorem negative_of_le {now deadline : Nat} (passed : deadline ≤ now) :
    (stamp now - stamp deadline).toInt32 < 0 ↔ 2 ^ 31 ≤ (now - deadline) % 2 ^ 32 := by
  rw [negative_iff, elapsed_toNat passed]

end WrappedTime
