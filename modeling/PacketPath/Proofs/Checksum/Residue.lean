import Mathlib.Tactic.Ring
import PacketPath.Checksum

set_option autoImplicit false

/-! # End-around-carry addition

The sum of RFC 1071 adds 16-bit words and brings each carry around to the low end (`ringSum`). It
is compared with the exact sum of the words: `residue` is where end-around carries lead to, so the
order in which they are added, and when the carries are folded, make no difference.

Swapping the bytes of every word multiplies the sum by 256 modulo 65535. That is invertible, and
takes no sum but zero to zero, so that a machine may load the words in either order.
-/

namespace PacketPath

variable {a b s : Nat}

/-! ## Residues -/

theorem residue_of_le (h : s ≤ 65535) : residue s = s := by
  unfold residue
  split <;> omega

/-- Only the remainder counts, and whether a number is zero. -/
theorem residue_eq_iff : residue a = residue b ↔ (a = 0 ↔ b = 0) ∧ a % 65535 = b % 65535 := by
  unfold residue
  constructor
  · intro h
    split at h <;> split at h <;> omega
  · rintro ⟨hzero, hmod⟩
    split <;> split <;> omega

theorem residue_eq_max_iff : residue s = 65535 ↔ 0 < s ∧ s % 65535 = 0 := by
  unfold residue
  split <;> omega

/-- Carries may be folded in before the addition or after it. -/
theorem residue_add (a b : Nat) : residue (residue a + b) = residue (a + b) := by
  have hzero : residue a = 0 ↔ a = 0 := residue_eq_zero_iff
  have hmod : residue a % 65535 = a % 65535 := residue_mod a
  rw [residue_eq_iff]
  omega

/-- Folding the upper half into the lower one changes no residue. -/
theorem residue_fold (s : Nat) : residue (s / 65536 + s % 65536) = residue s := by
  rw [residue_eq_iff]
  omega

/-! ## The sum of RFC 1071 -/

/-- One's-complement addition of words: a carry goes around to the low end. -/
def addAround (a b : Nat) : Nat := if a + b < 65536 then a + b else a + b - 65535

/-- The one's-complement sum of the big-endian words of a byte string, an odd last byte being
padded with zero. -/
def ringSum : Bytes → Nat
  | [] => 0
  | [x] => Bytes.word x 0
  | x :: y :: rest => addAround (Bytes.word x y) (ringSum rest)

theorem addAround_eq (ha : a ≤ 65535) (hb : b ≤ 65535) : addAround a b = residue (a + b) := by
  unfold addAround residue
  split <;> split <;> omega

theorem ringSum_eq (b : Bytes) : ringSum b = residue (wordSum b) := by
  induction b using ringSum.induct with
  | case1 => rfl
  | case2 x => exact (residue_of_le (Nat.le_of_lt_succ (Bytes.word_lt x 0))).symm
  | case3 x y rest ih =>
      have hword : Bytes.word x y ≤ 65535 := Nat.le_of_lt_succ (Bytes.word_lt x y)
      have hrest : ringSum rest ≤ 65535 := ih ▸ residue_le _
      calc ringSum (x :: y :: rest)
          _ = addAround (Bytes.word x y) (ringSum rest) := rfl
          _ = residue (residue (wordSum rest) + Bytes.word x y) := by
              rw [addAround_eq hword hrest, ih, Nat.add_comm]
          _ = residue (wordSum (x :: y :: rest)) := by
              rw [residue_add, wordSum, Nat.add_comm]

/-- The sum verifies if the exact sum is a positive multiple of 65535. -/
theorem ringSum_eq_max_iff (b : Bytes) :
    ringSum b = 0xFFFF ↔ 0 < wordSum b ∧ wordSum b % 65535 = 0 := by
  rw [ringSum_eq, residue_eq_max_iff]

/-! ## Words in the other byte order -/

/-- The exact sum of the little-endian words of a byte string. -/
def littleSum : Bytes → Nat
  | [] => 0
  | [x] => Bytes.word 0 x
  | x :: y :: rest => Bytes.word y x + littleSum rest

/-- Swapping the bytes of every word multiplies the sum by 256, up to carries. -/
theorem littleSum_mod (b : Bytes) : littleSum b * 256 % 65535 = wordSum b % 65535 := by
  induction b using littleSum.induct with
  | case1 => simp only [littleSum, wordSum, Nat.zero_mul]
  | case2 x =>
      simp only [littleSum, wordSum, Bytes.word, UInt8.toNat_zero]
      omega
  | case3 x y rest ih =>
      -- 256 times the high byte has come around
      have hword : Bytes.word y x * 256 = Bytes.word x y + 65535 * y.toNat := by
        simp only [Bytes.word]
        ring
      rw [littleSum, wordSum, Nat.add_mul, Nat.add_mod, hword, Nat.add_mul_mod_self_left, ih,
        ← Nat.add_mod]

theorem littleSum_eq_zero_iff (b : Bytes) : littleSum b = 0 ↔ wordSum b = 0 := by
  induction b using littleSum.induct with
  | case1 => rfl
  | case2 x =>
      simp only [littleSum, wordSum, Bytes.word, UInt8.toNat_zero]
      omega
  | case3 x y rest ih =>
      simp only [littleSum, wordSum, Bytes.word]
      omega

/-- Both byte orders agree on which byte strings verify. -/
theorem residue_littleSum_eq_max_iff (b : Bytes) :
    residue (littleSum b) = 65535 ↔ ringSum b = 0xFFFF := by
  have hmod := littleSum_mod b
  have hzero := littleSum_eq_zero_iff b
  rw [residue_eq_max_iff, ringSum_eq_max_iff]
  -- 256 is its own inverse modulo 65535
  omega

/-! ## Byte strings one after the other -/

theorem littleSum_append {a : Bytes} (ha : a.length % 2 = 0) (b : Bytes) :
    littleSum (a ++ b) = littleSum a + littleSum b := by
  induction a using littleSum.induct with
  | case1 => simp only [List.nil_append, littleSum, Nat.zero_add]
  | case2 x => simp at ha
  | case3 x y rest ih =>
      have hrest : rest.length % 2 = 0 := by
        simp only [List.length_cons] at ha
        omega
      simp only [List.cons_append, littleSum, ih hrest]
      omega

end PacketPath
