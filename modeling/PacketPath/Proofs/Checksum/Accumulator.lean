import PacketPath.Proofs.Checksum.Residue

set_option autoImplicit false

/-! # The accumulator and the exact sum

The 32-bit accumulator stands for the exact sum of the little-endian words that were added, up to
carries: it has the same residue. It is folded before a word could overflow it, so no carry is lost.
-/

namespace PacketPath

/-- Folding ends at the residue. -/
theorem toNat_foldCarries (s : UInt32) : (foldCarries s).toNat = residue s.toNat := by
  induction s using foldCarries.induct with
  | case1 s h =>
      have hsmall : s.toNat / 65536 = 0 := by
        rw [← toNat_shiftRight_sixteen, h]
        rfl
      rw [foldCarries, if_pos h, residue_of_le (by omega)]
  | case2 s h ih => rw [foldCarries, if_neg h, ih, toNat_foldRound, residue_fold]

/-- The word that a little-endian machine loads. -/
theorem toNat_le16 (x y : UInt8) : (Bytes.le16 x y).toNat = Bytes.word y x := by
  have := Bytes.word_lt y x
  rw [Bytes.le16, UInt16.toNat_ofNat']
  omega

namespace Checksum

variable {c : Checksum}

/-- The accumulator to which a word is added: folded if a word could overflow it. -/
def ready (c : Checksum) : UInt32 := if c.sum ≥ 0xFFFF0000 then foldCarries c.sum else c.sum

theorem ready_lt (c : Checksum) : c.ready.toNat < 0xFFFF0000 := by
  unfold ready
  split
  · -- folding leaves sixteen bits
    rw [toNat_foldCarries]
    exact Nat.lt_of_le_of_lt (residue_le _) (by decide)
  · next h =>
    rw [ge_iff_le, UInt32.le_iff_toNat_le] at h
    exact Nat.lt_of_not_le h

theorem residue_ready (c : Checksum) : residue c.ready.toNat = residue c.sum.toNat := by
  unfold ready
  split
  · rw [toNat_foldCarries, residue_of_le (residue_le _)]
  · rfl

/-- A word is added without overflow. -/
theorem toNat_addWord (c : Checksum) (w : UInt16) :
    (c.addWord w).sum.toNat = c.ready.toNat + w.toNat := by
  have hready := c.ready_lt
  have hw := w.toNat_lt
  show (c.ready + w.toUInt32).toNat = _
  rw [UInt32.toNat_add, UInt16.toNat_toUInt32]
  omega

theorem residue_addWord (c : Checksum) (w : UInt16) (n : Nat) :
    residue ((c.addWord w).sum.toNat + n) = residue (c.sum.toNat + (w.toNat + n)) := by
  calc residue ((c.addWord w).sum.toNat + n)
      _ = residue (c.ready.toNat + (w.toNat + n)) := by rw [toNat_addWord, Nat.add_assoc]
      _ = residue (residue c.sum.toNat + (w.toNat + n)) := by rw [← residue_add, residue_ready]
      _ = residue (c.sum.toNat + (w.toNat + n)) := residue_add _ _

/-- The accumulator has the residue of the exact sum. -/
theorem residue_addBytes (c : Checksum) (b : Bytes) :
    residue (c.addBytes b).sum.toNat = residue (c.sum.toNat + littleSum b) := by
  induction b using littleSum.induct generalizing c with
  | case1 => rfl
  | case2 x =>
      have hword := residue_addWord c (Bytes.le16 x 0) 0
      rw [toNat_le16, Nat.add_zero, Nat.add_zero] at hword
      rw [addBytes, littleSum, hword]
  | case3 x y rest ih =>
      rw [addBytes, ih, residue_addWord, toNat_le16, littleSum]

theorem residue_compute (b : Bytes) : residue (compute b).sum.toNat = residue (littleSum b) := by
  have h := residue_addBytes zero b
  rwa [show zero.sum.toNat = 0 from rfl, Nat.zero_add] at h

theorem toNat_value (c : Checksum) : c.value.toNat = residue c.sum.toNat := by
  have hle := residue_le c.sum.toNat
  rw [value, folded, UInt32.toNat_toUInt16, toNat_foldCarries]
  omega

theorem isValid_iff_residue (c : Checksum) : c.isValid = true ↔ residue c.sum.toNat = 65535 := by
  have hle := residue_le c.sum.toNat
  have hnot : (~~~ c.value).toNat = 65535 - residue c.sum.toNat := by
    rw [UInt16.toNat_not, toNat_value]
    rfl
  rw [isValid, beq_iff_eq, ← UInt16.toNat_inj, hnot, UInt16.toNat_zero]
  omega

/-- Byte strings of even length may be added one by one. -/
theorem residue_compute_addBytes {a : Bytes} (ha : a.length % 2 = 0) (b : Bytes) :
    residue ((compute a).addBytes b).sum.toNat = residue (littleSum (a ++ b)) := by
  calc residue ((compute a).addBytes b).sum.toNat
      _ = residue ((compute a).sum.toNat + littleSum b) := residue_addBytes _ b
      _ = residue (residue (littleSum a) + littleSum b) := by
          rw [← residue_add, residue_compute]
      _ = residue (littleSum (a ++ b)) := by rw [residue_add, littleSum_append ha]

theorem isValid_addBytes_compute {a : Bytes} (ha : a.length % 2 = 0) (b : Bytes) :
    ((compute a).addBytes b).isValid = true ↔ ringSum (a ++ b) = 0xFFFF := by
  -- the other byte order comes in only now, for the sum as a whole
  rw [isValid_iff_residue, residue_compute_addBytes ha, residue_littleSum_eq_max_iff]

end Checksum

end PacketPath
