import Mathlib.Data.Nat.Bitwise
import PacketPath.Proofs.Checksum.NetworkOrder

set_option autoImplicit false

/-! # Sums with one bit flipped

Flipping one bit of a byte string changes the exact sum of its words by the weight of that bit in
its word, up or down. That is a power of two below 2^16, and none of these is a multiple of 65535.
So of two byte strings that differ in a single bit at most one sums to a valid checksum.
-/

namespace PacketPath

variable {a b c : Nat} {x y : UInt8}

/-! ## The weight of a bit -/

/-- Two numbers that differ by the weight of one bit of a word. -/
def DifferByBit (a b : Nat) : Prop := ∃ k, k < 16 ∧ (a = b + 2 ^ k ∨ b = a + 2 ^ k)

theorem DifferByBit.add_left (h : DifferByBit a b) (c : Nat) : DifferByBit (c + a) (c + b) := by
  obtain ⟨k, hk, h⟩ := h
  exact ⟨k, hk, by omega⟩

theorem DifferByBit.add_right (h : DifferByBit a b) (c : Nat) : DifferByBit (a + c) (b + c) := by
  obtain ⟨k, hk, h⟩ := h
  exact ⟨k, hk, by omega⟩

/-- No weight is a multiple of 65535. -/
theorem DifferByBit.mod_ne_zero (h : DifferByBit a b) (hb : b % 65535 = 0) : a % 65535 ≠ 0 := by
  obtain ⟨k, hk, h⟩ := h
  have hpos : 0 < 2 ^ k := Nat.two_pow_pos k
  have hle : 2 ^ k ≤ 2 ^ 15 := Nat.pow_le_pow_right (by decide) (by omega)
  omega

/-- Flipping a bit of a number adds its weight or takes it away. -/
theorem xor_two_pow (n k : Nat) : n = (n ^^^ 2 ^ k) + 2 ^ k ∨ n ^^^ 2 ^ k = n + 2 ^ k := by
  induction k generalizing n with
  | zero =>
      have hdiv : (n ^^^ 2 ^ 0) / 2 = n / 2 := by
        rw [Nat.xor_div_two, show 2 ^ 0 / 2 = 0 from rfl, Nat.xor_zero]
      have hmod : (n ^^^ 2 ^ 0) % 2 = (n + 2 ^ 0) % 2 := Nat.xor_mod_two_eq
      omega
  | succ k ih =>
      -- the lowest bit stays, and the others are those of half the number
      have hdiv : (n ^^^ 2 ^ (k + 1)) / 2 = n / 2 ^^^ 2 ^ k := by
        rw [Nat.xor_div_two, Nat.pow_succ, Nat.mul_div_cancel _ (by decide)]
      have hmod : (n ^^^ 2 ^ (k + 1)) % 2 = (n + 2 ^ (k + 1)) % 2 := Nat.xor_mod_two_eq
      have hhalf := ih (n / 2)
      have hpow : 2 ^ (k + 1) = 2 ^ k * 2 := Nat.pow_succ 2 k
      rw [← hdiv] at hhalf
      omega

/-- The byte in which one bit is set. -/
def bitMask (bit : Fin 8) : UInt8 := 1 <<< UInt8.ofNat bit

theorem toNat_xor_bitMask (x : UInt8) (bit : Fin 8) :
    (x ^^^ bitMask bit).toNat = x.toNat ^^^ 2 ^ bit.val := by
  have hmask : ∀ bit : Fin 8, (bitMask bit).toNat = 2 ^ bit.val := by decide
  rw [UInt8.toNat_xor, hmask]

theorem word_flip_high (x y : UInt8) (bit : Fin 8) :
    DifferByBit (Bytes.word (x ^^^ bitMask bit) y) (Bytes.word x y) := by
  have hflip := xor_two_pow x.toNat bit.val
  refine ⟨bit.val + 8, by omega, ?_⟩
  rw [Bytes.word, Bytes.word, toNat_xor_bitMask, Nat.pow_add]
  omega

theorem word_flip_low (x y : UInt8) (bit : Fin 8) :
    DifferByBit (Bytes.word x (y ^^^ bitMask bit)) (Bytes.word x y) := by
  have hflip := xor_two_pow y.toNat bit.val
  refine ⟨bit.val, by omega, ?_⟩
  rw [Bytes.word, Bytes.word, toNat_xor_bitMask]
  omega

/-! ## Byte strings -/

namespace Bytes

/-- The bytes with one bit of the byte at position `i` flipped, if there is such a byte. -/
def flipBit (b : Bytes) (i : Nat) (bit : Fin 8) : Bytes := b.modify i (· ^^^ bitMask bit)

variable {b : Bytes} {i j first last : Nat} {bit : Fin 8}

@[simp] theorem length_flipBit : (b.flipBit i bit).length = b.length := List.length_modify _ _ _

theorem getElem?_flipBit_of_ne (h : i ≠ j) : (b.flipBit i bit)[j]? = b[j]? := by
  rw [flipBit, List.getElem?_modify]
  simp only [if_neg h, Option.map_eq_map, Option.map_id']

theorem byte_flipBit_of_ne (h : i ≠ j) : (b.flipBit i bit).byte j = b.byte j := by
  rw [byte, byte, List.getD_eq_getElem?_getD, List.getD_eq_getElem?_getD, getElem?_flipBit_of_ne h]

theorem byte_flipBit_self (h : i < b.length) :
    (b.flipBit i bit).byte i = b.byte i ^^^ bitMask bit := by
  rw [byte, byte, List.getD_eq_getElem?_getD, List.getD_eq_getElem?_getD, flipBit,
    List.getElem?_modify, List.getElem?_eq_getElem h]
  simp

theorem be16_flipBit_of_ne (h₁ : i ≠ j) (h₂ : i ≠ j + 1) : (b.flipBit i bit).be16 j = b.be16 j := by
  rw [be16, be16, byte_flipBit_of_ne h₁, byte_flipBit_of_ne h₂]

theorem take_flipBit (b : Bytes) (i last : Nat) (bit : Fin 8) :
    (b.flipBit i bit).take last = flipBit (b.take last) i bit := List.take_modify _ _ _ _

/-- Past the end there is nothing to flip. -/
theorem flipBit_of_le (h : b.length ≤ i) : b.flipBit i bit = b := by
  refine List.ext_getElem? fun j => ?_
  by_cases hj : i = j
  · rw [List.getElem?_eq_none (by rw [length_flipBit]; omega), List.getElem?_eq_none (by omega)]
  · exact getElem?_flipBit_of_ne hj

theorem take_flipBit_of_le (h : last ≤ i) : (b.flipBit i bit).take last = b.take last := by
  rw [take_flipBit, flipBit_of_le (Nat.le_trans (List.length_take_le _ _) h)]

/-- A flip outside of a stretch does not show in it. -/
theorem slice_flipBit_of_notMem (h : i < first ∨ last ≤ i) :
    (b.flipBit i bit).slice first last = b.slice first last := by
  refine List.ext_getElem? fun j => ?_
  rw [slice, slice, List.getElem?_drop, List.getElem?_drop, List.getElem?_take, List.getElem?_take]
  split
  · exact getElem?_flipBit_of_ne (by omega)
  · rfl

theorem slice_flipBit_of_mem (h : first ≤ i) :
    (b.flipBit i bit).slice first last = (b.slice first last).flipBit (i - first) bit := by
  refine List.ext_getElem? fun j => ?_
  have hpos : i = first + j ↔ i - first = j := by omega
  rw [slice, slice, take_flipBit, List.getElem?_drop, flipBit, flipBit, List.getElem?_modify,
    List.getElem?_modify, List.getElem?_drop]
  simp only [hpos]

end Bytes

/-! ## Sums -/

/-- A flipped bit shows in the exact sum by its weight. -/
theorem wordSum_flipBit {b : Bytes} {i : Nat} (h : i < b.length) (bit : Fin 8) :
    DifferByBit (wordSum (b.flipBit i bit)) (wordSum b) := by
  induction b using wordSum.induct generalizing i with
  | case1 => exact absurd h (Nat.not_lt_zero i)
  | case2 x =>
      obtain rfl : i = 0 := by simpa using h
      exact word_flip_high x 0 bit
  | case3 x y rest ih =>
      -- the first word has two bytes, and the others are the words of the rest
      rcases i with _ | _ | i
      · exact (word_flip_high x y bit).add_right (wordSum rest)
      · exact (word_flip_low x y bit).add_right (wordSum rest)
      · have hrest : i < rest.length := by simpa using h
        exact (ih hrest).add_left (Bytes.word x y)

/-- What verifies does not verify after the sum has changed by the weight of a bit. -/
theorem ringSum_ne_max {b b' : Bytes} (hdiffer : DifferByBit (wordSum b') (wordSum b))
    (hb : ringSum b = 0xFFFF) : ringSum b' ≠ 0xFFFF := by
  intro hb'
  rw [ringSum_eq_max_iff] at hb hb'
  exact hdiffer.mod_ne_zero hb.2 hb'.2

end PacketPath
