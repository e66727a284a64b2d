import Mathlib.Data.List.OfFn
import PacketPath.Proofs.Bytes
import PacketPath.Proofs.Packet.Guarded

set_option autoImplicit false

/-! # The user area as a memory

The user area against a plain memory of twelve bytes. A store into the memory is told by the bytes
that it changes; a word is stored by the bytes of its two's complement, the low one first. Accesses
outside the area have no result, however large the position is: also where a machine with 64-bit
sizes could not even compute it (`Guarded.word?_eq`).
-/

namespace PacketPath

/-! ## A plain memory -/

/-- A memory of twelve bytes. -/
abbrev Memory := Fin 12 → UInt8

/-- A store into the user area: of a byte, of a word, or of a signed word. -/
inductive UserWrite
  | byte (i : Nat) (v : UInt8)
  | word (i : Nat) (v : UInt32)
  | int (i : Nat) (v : Int32)

namespace UserWrite

/-- The command on a packet that makes the store. -/
def annotating : UserWrite → Annotating
  | byte i v => .setByte i v
  | word i v => .setWord i v
  | int i v => .setInt i v

/-- Whether the store goes to the area. -/
def InRange : UserWrite → Prop
  | byte i _ => i < 12
  | word i _ => i < 3
  | int i _ => i < 3

instance : DecidablePred InRange
  | byte i _ => inferInstanceAs (Decidable (i < 12))
  | word i _ => inferInstanceAs (Decidable (i < 3))
  | int i _ => inferInstanceAs (Decidable (i < 3))

end UserWrite

/-- Byte `k` of the two's complement of a number, byte 0 being the low one. -/
def byteOf (n : Int) (k : Nat) : UInt8 := UInt8.ofNat (n / 256 ^ k % 256).toNat

namespace Memory

/-- The memory with a number at word position `i`. -/
def storeWord (m : Memory) (i : Nat) (n : Int) : Memory := fun j =>
  if j.val / 4 = i then byteOf n (j.val % 4) else m j

/-- The memory after a store. -/
def store (m : Memory) : UserWrite → Memory
  | .byte i v => fun j => if j.val = i then v else m j
  | .word i v => m.storeWord i v.toNat
  | .int i v => m.storeWord i v.toInt

/-- The number at a word position, the low byte first. -/
def word (m : Memory) (i : Fin 3) : Nat :=
  (m ⟨4 * i, by omega⟩).toNat + 256 * (m ⟨4 * i + 1, by omega⟩).toNat
    + 65536 * (m ⟨4 * i + 2, by omega⟩).toNat + 16777216 * (m ⟨4 * i + 3, by omega⟩).toNat

/-- The signed number at a word position. -/
def int (m : Memory) (i : Fin 3) : Int :=
  if m.word i < 2147483648 then m.word i else m.word i - 4294967296

/-- The answers to reads of the memory. -/
def answerByte (m : Memory) (i : Nat) : Reply :=
  if h : i < 12 then .number (m ⟨i, h⟩).toNat else .fault

def answerWord (m : Memory) (i : Nat) : Reply :=
  if h : i < 3 then .number (m.word ⟨i, h⟩) else .fault

def answerInt (m : Memory) (i : Nat) : Reply :=
  if h : i < 3 then .number (m.int ⟨i, h⟩) else .fault

variable {m : Memory} {w : UserWrite} {i : Nat}

theorem storeWord_of_ge (h : 3 ≤ i) (n : Int) : m.storeWord i n = m := by
  funext j
  exact if_neg (by omega)

/-- A store outside the memory changes nothing. -/
theorem store_of_not_inRange (h : ¬ w.InRange) : m.store w = m := by
  cases w with
  | byte i v =>
      have hi : 12 ≤ i := Nat.le_of_not_lt h
      funext j
      exact if_neg (by omega)
  | word i v => exact storeWord_of_ge (Nat.le_of_not_lt h) _
  | int i v => exact storeWord_of_ge (Nat.le_of_not_lt h) _

theorem word_lt (m : Memory) (i : Fin 3) : m.word i < 4294967296 := by
  have h₀ := (m ⟨4 * i, by omega⟩).toNat_lt
  have h₁ := (m ⟨4 * i + 1, by omega⟩).toNat_lt
  have h₂ := (m ⟨4 * i + 2, by omega⟩).toNat_lt
  have h₃ := (m ⟨4 * i + 3, by omega⟩).toNat_lt
  rw [word]
  omega

end Memory

/-! ## Bytes of numbers -/

theorem byteOf_natCast (n k : Nat) : byteOf n k = UInt8.ofNat (n / 256 ^ k) := by
  have hbyte : ((n : Int) / 256 ^ k % 256).toNat = n / 256 ^ k % 256 := by
    have hcast : ((n / 256 ^ k % 256 : Nat) : Int) = (n : Int) / 256 ^ k % 256 := by norm_cast
    rw [← hcast, Int.toNat_natCast]
  rw [byteOf, hbyte]
  exact UInt8.toNat_inj.mp (by simp only [UInt8.toNat_ofNat', Nat.mod_mod])

/-- Numbers that differ by a multiple of 2^32 have the same four low bytes. -/
theorem byteOf_congr {a b : Int} (h : a % 4294967296 = b % 4294967296) {k : Nat} (hk : k < 4) :
    byteOf a k = byteOf b k := by
  have hbyte : a / 256 ^ k % 256 = b / 256 ^ k % 256 := by
    match k, hk with
    | 0, _ | 1, _ | 2, _ | 3, _ => norm_num; omega
  rw [byteOf, byteOf, hbyte]

theorem byte_leBytes {width k : Nat} (hk : k < width) (n : Nat) :
    (Bytes.leBytes width n).byte k = byteOf n k := by
  rw [byteOf_natCast]
  induction width generalizing n k with
  | zero => omega
  | succ width ih =>
      cases k with
      | zero => simp [Bytes.leBytes, Bytes.byte]
      | succ k =>
          rw [Nat.pow_succ', ← Nat.div_div_eq_div_mul]
          exact ih (Nat.lt_of_succ_lt_succ hk) (n / 256)

/-- A signed word and its bits differ by a multiple of 2^32. -/
theorem toInt_eq_toUInt32 (v : Int32) : v.toInt
    = if v.toUInt32.toNat < 2147483648 then (v.toUInt32.toNat : Int)
      else v.toUInt32.toNat - 4294967296 := by
  have hcond := BitVec.toInt_eq_toNat_cond v.toBitVec
  have hbits : v.toBitVec.toNat = v.toUInt32.toNat := rfl
  have hint : v.toBitVec.toInt = v.toInt := rfl
  rw [hbits, hint] at hcond
  rw [hcond]
  split <;> split <;> omega

/-! ## The area -/

namespace UserArea

variable {u : UserArea} {w : UserWrite} {i : Nat} {patch : Bytes}

/-- The area as a memory. -/
def memory (u : UserArea) : Memory := fun j => u.bytes.byte j

/-- The area with the bytes of a memory. -/
def ofMemory (m : Memory) : UserArea := ⟨List.ofFn m, List.length_ofFn⟩

/-- What a store makes of the area, if it goes there. -/
def write? (u : UserArea) : UserWrite → Option UserArea
  | .byte i v => u.setByte? i v
  | .word i v => u.setWord? i v
  | .int i v => u.setInt? i v

theorem bytes_eq_ofFn (u : UserArea) : u.bytes = List.ofFn u.memory := by
  refine List.ext_getElem (by rw [u.length_bytes, List.length_ofFn]) fun j hj _ => ?_
  rw [List.getElem_ofFn]
  exact Option.some.inj ((List.getElem?_eq_getElem hj).symm.trans (Bytes.getElem?_eq hj))

theorem ofMemory_memory (u : UserArea) : ofMemory u.memory = u := by
  obtain ⟨bytes, hlength⟩ := u
  rw [ofMemory, mk.injEq]
  exact (bytes_eq_ofFn ⟨bytes, hlength⟩).symm

theorem store?_of_gt (h : 12 < i + patch.length) : u.store? i patch = none :=
  dif_neg (Nat.not_le_of_gt h)

/-- What fits is stored, and shows where it was stored. -/
theorem store?_of_le (h : i + patch.length ≤ 12) : ∃ u', u.store? i patch = some u'
    ∧ ∀ j : Fin 12, u'.memory j =
      if i ≤ j ∧ j < i + patch.length then patch.byte (j - i) else u.memory j := by
  refine ⟨_, dif_pos h, fun j => ?_⟩
  have hfit : i + patch.length ≤ u.bytes.length := by rwa [u.length_bytes]
  simp only [memory, Bytes.byte, List.getD_eq_getElem?_getD, Bytes.getElem?_overlay hfit]
  split <;> rfl

/-- The bytes of a number are stored as a word. -/
theorem storeWord_of_lt (h : i < 3) (u : UserArea) (n : Nat) :
    ∃ u', u.store? (4 * i) (Bytes.leBytes 4 n) = some u' ∧ u'.memory = u.memory.storeWord i n := by
  have hlength := Bytes.length_leBytes 4 n
  have hfits : 4 * i + (Bytes.leBytes 4 n).length ≤ 12 := by omega
  obtain ⟨u', hu, hbytes⟩ := store?_of_le (u := u) hfits
  refine ⟨u', hu, funext fun j => ?_⟩
  rw [hbytes, Memory.storeWord, hlength]
  by_cases hj : j.val / 4 = i
  · have hoffset : j.val - 4 * i = j.val % 4 := by omega
    rw [if_pos (by omega), if_pos hj, hoffset, byte_leBytes (Nat.mod_lt _ (by decide))]
  · rw [if_neg (by omega), if_neg hj]

theorem storeWord_of_ge (h : 3 ≤ i) (u : UserArea) (n : Nat) :
    u.store? (4 * i) (Bytes.leBytes 4 n) = none :=
  store?_of_gt (by rw [Bytes.length_leBytes]; omega)

/-- **A store in range** is made as in the memory. -/
theorem write?_of_inRange (h : w.InRange) (u : UserArea) :
    ∃ u', u.write? w = some u' ∧ u'.memory = u.memory.store w := by
  cases w with
  | byte i v =>
      have hfits : i + [v].length ≤ 12 := h
      obtain ⟨u', hu, hbytes⟩ := store?_of_le (u := u) hfits
      refine ⟨u', hu, funext fun j => ?_⟩
      rw [hbytes]
      show _ = if j.val = i then v else u.memory j
      by_cases hj : j.val = i
      · rw [if_pos (by simp only [List.length_singleton]; omega), if_pos hj, hj, Nat.sub_self]
        rfl
      · rw [if_neg (by simp only [List.length_singleton]; omega), if_neg hj]
  | word i v => exact storeWord_of_lt h u v.toNat
  | int i v =>
      obtain ⟨u', hu, hmemory⟩ := storeWord_of_lt h u v.toUInt32.toNat
      refine ⟨u', hu, hmemory.trans (funext fun j => ?_)⟩
      have hsame : (v.toUInt32.toNat : Int) % 4294967296 = v.toInt % 4294967296 := by
        rw [toInt_eq_toUInt32]
        split <;> omega
      simp only [Memory.store, Memory.storeWord, byteOf_congr hsame (Nat.mod_lt _ (by decide))]

theorem write?_of_not_inRange (h : ¬ w.InRange) (u : UserArea) : u.write? w = none := by
  cases w with
  | byte i v => exact store?_of_gt (Nat.lt_succ_of_le (Nat.le_of_not_lt h))
  | word i v => exact storeWord_of_ge (Nat.le_of_not_lt h) u v.toNat
  | int i v => exact storeWord_of_ge (Nat.le_of_not_lt h) u v.toUInt32.toNat

/-! ## Reading -/

/-- A word of the area has the bytes that stand at its position. -/
theorem ofLeBytes_slice (u : UserArea) (i : Fin 3) :
    Bytes.ofLeBytes (u.bytes.slice (4 * i) (4 * i + 4)) = u.memory.word i := by
  have hbyte : ∀ k < 4, (u.bytes.slice (4 * i) (4 * i + 4))[k]? = some (u.bytes.byte (4 * i + k)) :=
    fun k hk => by
      rw [Bytes.getElem?_slice (by omega), Bytes.getElem?_eq (by rw [u.length_bytes]; omega)]
  have hlength : (u.bytes.slice (4 * i) (4 * i + 4)).length = 4 := by
    rw [Bytes.length_slice (by rw [u.length_bytes]; omega), Nat.add_sub_cancel_left]
  generalize u.bytes.slice (4 * i) (4 * i + 4) = bytes at hbyte hlength
  match bytes, hlength with
  | [a, b, c, d], _ =>
      have ha : a = u.bytes.byte (4 * i) := Option.some.inj (hbyte 0 (by decide))
      have hb : b = u.bytes.byte (4 * i + 1) := Option.some.inj (hbyte 1 (by decide))
      have hc : c = u.bytes.byte (4 * i + 2) := Option.some.inj (hbyte 2 (by decide))
      have hd : d = u.bytes.byte (4 * i + 3) := Option.some.inj (hbyte 3 (by decide))
      simp only [Memory.word, memory, ← ha, ← hb, ← hc, ← hd, Bytes.ofLeBytes]
      omega

theorem answer_byte (u : UserArea) (i : Nat) :
    Reply.ofRead ((u.byte? i).map fun v => (v.toNat : Int)) = u.memory.answerByte i := by
  rw [Memory.answerByte, byte?]
  split
  · next h =>
    rw [Bytes.getElem?_eq (by rwa [u.length_bytes])]
    rfl
  · next h =>
    rw [List.getElem?_eq_none (by rw [u.length_bytes]; omega)]
    rfl

/-- The word at a word position is read if there is one. -/
theorem word?_of_lt (h : i < 3) (u : UserArea) :
    u.word? i = some (UInt32.ofNat (u.memory.word ⟨i, h⟩)) := by
  rw [word?, if_pos h, ← ofLeBytes_slice]

theorem word?_of_ge (h : 3 ≤ i) (u : UserArea) : u.word? i = none := if_neg (Nat.not_lt_of_ge h)

theorem answer_word (u : UserArea) (i : Nat) :
    Reply.ofRead ((u.word? i).map fun v => (v.toNat : Int)) = u.memory.answerWord i := by
  rw [Memory.answerWord]
  split
  · next h =>
    rw [word?_of_lt h, Option.map_some, UInt32.toNat_ofNat_of_lt' (Memory.word_lt _ _)]
    rfl
  · next h =>
    rw [word?_of_ge (Nat.le_of_not_lt h)]
    rfl

theorem answer_int (u : UserArea) (i : Nat) :
    Reply.ofRead ((u.int? i).map (·.toInt)) = u.memory.answerInt i := by
  rw [Memory.answerInt, int?]
  split
  · next h =>
    have hlt := Memory.word_lt u.memory ⟨i, h⟩
    rw [word?_of_lt h, Option.map_some, Option.map_some, toInt_eq_toUInt32,
      UInt32.toUInt32_toInt32, UInt32.toNat_ofNat_of_lt' hlt]
    rfl
  · next h =>
    rw [word?_of_ge (Nat.le_of_not_lt h)]
    rfl

end UserArea

/-! ## Machine sizes -/

namespace Guarded

/-- The product, if it is a size. -/
def times (a b : Nat) : Option Nat := if a * b ≤ maxSize then some (a * b) else none

/-- A word of the area, with a guard before each operation on sizes. -/
def word? (u : UserArea) (i : Nat) : Option UInt32 := do
  let first ← times i 4
  let last ← plus first 4
  let bytes ← slice u.bytes first last
  return UInt32.ofNat (Bytes.ofLeBytes bytes)

/-- The bytes of the area after a word was stored, with a guard before each operation on sizes. -/
def setWord? (u : UserArea) (i : Nat) (v : UInt32) : Option Bytes := do
  let first ← times i 4
  let last ← plus first 4
  copyInto u.bytes first last (Bytes.leBytes 4 v.toNat)

variable {i : Nat}

/-- A machine goes on from the ends of a word only if both are sizes. -/
theorem bind_ends {α : Type} (i : Nat) (next : Nat → Nat → Option α) :
    ((times i 4).bind fun first => (plus first 4).bind fun last => next first last)
      = if 4 * i + 4 ≤ maxSize then next (4 * i) (4 * i + 4) else none := by
  rw [times, Nat.mul_comm]
  by_cases hfirst : 4 * i ≤ maxSize
  · rw [if_pos hfirst, Option.bind_some, plus]
    split <;> rfl
  · rw [if_neg hfirst, if_neg fun hlast => hfirst (Nat.le_of_add_right_le hlast)]
    rfl

theorem ends_le (h : i < 3) : 4 * i + 4 ≤ maxSize := by
  rw [maxSize]
  omega

/-- No guard stops a read that has a result, and every other one is stopped. -/
theorem word?_eq (u : UserArea) (i : Nat) : word? u i = u.word? i := by
  refine (bind_ends i fun first last => (slice u.bytes first last).bind fun bytes =>
    some (UInt32.ofNat (Bytes.ofLeBytes bytes))).trans ?_
  have hlength := u.length_bytes
  by_cases hi : i < 3
  · rw [if_pos (ends_le hi), slice_eq (by omega) (by omega), UserArea.word?, if_pos hi]
    rfl
  · have houtside : ¬ (4 * i ≤ 4 * i + 4 ∧ 4 * i + 4 ≤ u.bytes.length) := by omega
    rw [UserArea.word?_of_ge (Nat.le_of_not_lt hi), slice, if_neg houtside]
    exact ite_self none

theorem setWord?_eq (u : UserArea) (i : Nat) (v : UInt32) :
    setWord? u i v = (u.setWord? i v).map (·.bytes) := by
  refine (bind_ends i fun first last =>
    copyInto u.bytes first last (Bytes.leBytes 4 v.toNat)).trans ?_
  have hlength := u.length_bytes
  have hpatch := Bytes.length_leBytes 4 v.toNat
  by_cases hi : i < 3
  · have hfit : 4 * i + (Bytes.leBytes 4 v.toNat).length ≤ 12 := by omega
    rw [if_pos (ends_le hi), copyInto, if_pos (by omega), UserArea.setWord?, UserArea.store?,
      dif_pos hfit]
    rfl
  · have houtside : copyInto u.bytes (4 * i) (4 * i + 4) (Bytes.leBytes 4 v.toNat) = none :=
      if_neg (by omega)
    rw [UserArea.setWord?, UserArea.storeWord_of_ge (Nat.le_of_not_lt hi), houtside]
    exact ite_self none

end Guarded

end PacketPath
