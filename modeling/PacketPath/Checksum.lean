import PacketPath.Bytes

set_option autoImplicit false

/-! # The internet checksum

A `Checksum` is a running one's-complement sum of 16-bit words. Words are loaded in the order
of a little-endian machine and carries collect in the upper half of a 32-bit accumulator, which
is folded only when it could overflow and when the sum is read. Storing the folded sum in the
same byte order gives network order, because one's-complement addition commutes with swapping
the two bytes of every word.

Beside the accumulator stands the definition it is measured against: `wordSum`, the exact
integer sum of the big-endian words, and `residue`, its representative in `0 … 0xFFFF` for
end-around-carry addition.
-/

namespace PacketPath

/-! ## Folding -/

/-- One round of carry propagation: the upper half is added to the lower half. -/
def foldRound (s : UInt32) : UInt32 := (s >>> 16) + (s &&& 0xFFFF)

theorem toNat_shiftRight_sixteen (s : UInt32) : (s >>> 16).toNat = s.toNat / 65536 := by
  simp [UInt32.toNat_shiftRight, Nat.shiftRight_eq_div_pow]

theorem toNat_and_mask (s : UInt32) : (s &&& 0xFFFF).toNat = s.toNat % 65536 := by
  have h := Nat.and_two_pow_sub_one_eq_mod s.toNat 16
  simpa [UInt32.toNat_and] using h

theorem toNat_foldRound (s : UInt32) :
    (foldRound s).toNat = s.toNat / 65536 + s.toNat % 65536 := by
  have := s.toNat_lt
  rw [foldRound, UInt32.toNat_add, toNat_shiftRight_sixteen, toNat_and_mask]
  omega

/-- A round with a carry left to propagate makes the accumulator smaller. -/
theorem foldRound_lt {s : UInt32} (h : ¬ s >>> 16 = 0) : (foldRound s).toNat < s.toNat := by
  have hc : (s >>> 16).toNat ≠ 0 := fun e => h (UInt32.toNat_inj.mp (by simpa using e))
  rw [toNat_shiftRight_sixteen] at hc
  rw [toNat_foldRound]
  omega

/-- Folds until no carry is left in the upper half. -/
def foldCarries (s : UInt32) : UInt32 :=
  if s >>> 16 = 0 then s else foldCarries (foldRound s)
termination_by s.toNat
decreasing_by exact foldRound_lt ‹_›

/-! ## The accumulator -/

/-- A running one's-complement sum with its unfolded carries. -/
structure Checksum where
  sum : UInt32
deriving DecidableEq, Inhabited

/-- A checksum as a header stores it: two bytes, never read as a number. -/
structure StoredChecksum where
  first : UInt8
  second : UInt8
deriving DecidableEq, Inhabited

namespace StoredChecksum

def bytes (s : StoredChecksum) : Bytes := [s.first, s.second]

/-- The stored form of a machine word. -/
def ofWord (w : UInt16) : StoredChecksum := ⟨w.toUInt8, (w >>> 8).toUInt8⟩

def toWord (s : StoredChecksum) : UInt16 := Bytes.le16 s.first s.second

end StoredChecksum

namespace Checksum

def zero : Checksum := ⟨0⟩

/-- Adds one word. The accumulator is folded first when a word could overflow it. -/
def addWord (c : Checksum) (w : UInt16) : Checksum :=
  ⟨(if c.sum ≥ 0xFFFF0000 then foldCarries c.sum else c.sum) + w.toUInt32⟩

/-- Adds a byte string word by word; an odd last byte is padded with zero. -/
def addBytes (c : Checksum) : Bytes → Checksum
  | [] => c
  | [x] => c.addWord (Bytes.le16 x 0)
  | x :: y :: rest => (c.addWord (Bytes.le16 x y)).addBytes rest

/-- Takes a byte string out of the sum by adding the complement of each word. -/
def subBytes (c : Checksum) : Bytes → Checksum
  | [] => c
  | [x] => c.addWord (~~~ Bytes.le16 x 0)
  | x :: y :: rest => (c.addWord (~~~ Bytes.le16 x y)).subBytes rest

/-- The sum of a byte string. -/
def compute (b : Bytes) : Checksum := zero.addBytes b

/-- The same sum with every carry folded in. -/
def folded (c : Checksum) : Checksum := ⟨foldCarries c.sum⟩

/-- The 16-bit sum. -/
def value (c : Checksum) : UInt16 := c.folded.sum.toUInt16

/-- Joins two sums: the other one is folded to a single word and added. -/
def add (c other : Checksum) : Checksum := c.addWord other.value

/-- Whether the sum of a segment together with its stored checksum verifies. -/
def isValid (c : Checksum) : Bool := ~~~ c.value == 0

/-- The complement of the sum, as stored in a header. -/
def toStored (c : Checksum) : StoredChecksum := .ofWord (~~~ c.value)

/-- The sum that a stored checksum stands for. -/
def ofStored (s : StoredChecksum) : Checksum := ⟨(~~~ s.toWord).toUInt32⟩

/-- Shows the unfolded accumulator. -/
def describe (c : Checksum) : String :=
  "Checksum \x7b inner: " ++ c.sum.toNat.repr ++ " \x7d"

end Checksum

/-! ## The exact sum -/

/-- The sum of the big-endian words of a byte string, an odd last byte being a high byte. -/
def wordSum : Bytes → Nat
  | [] => 0
  | [x] => Bytes.word x 0
  | x :: y :: rest => Bytes.word x y + wordSum rest

/-- The representative of `s` modulo 65535 that end-around-carry addition reaches: zero only
for zero, otherwise between 1 and 0xFFFF. -/
def residue (s : Nat) : Nat := if s = 0 then 0 else (s - 1) % 65535 + 1

theorem residue_le (s : Nat) : residue s ≤ 65535 := by
  unfold residue; split <;> omega

theorem residue_eq_zero_iff {s : Nat} : residue s = 0 ↔ s = 0 := by
  unfold residue; split <;> omega

theorem residue_mod (s : Nat) : residue s % 65535 = s % 65535 := by
  unfold residue; split <;> omega

/-- The checksum field for a byte string in which that field is zero: the complement of the
sum of its words, high byte first. -/
def checksumField (b : Bytes) : Nat := 65535 - residue (wordSum b)

end PacketPath
