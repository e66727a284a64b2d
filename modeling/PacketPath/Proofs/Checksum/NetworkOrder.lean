import PacketPath.Proofs.Check.Fields
import PacketPath.Proofs.Checksum.Accumulator

set_option autoImplicit false

/-! # Checksums in network order

The accumulator loads words in the byte order of the machine, and the folded sum is stored in that
order again. What stands in memory then is the checksum of the words in network order:
`NetworkOrder` says so for the sum, for its complement, and for the test of a received segment.

The reason is `residue_wordSum`. Swapping the bytes of all words swaps the bytes of their residue,
and that swap is undone where the sum is stored.
-/

namespace PacketPath

variable {a b segment : Bytes} {c : Checksum} {pos : Nat}

/-! ## Swapping the bytes of a word -/

/-- The word with the two bytes of `w` in the other order. -/
def swapBytes (w : Nat) : Nat := w % 256 * 256 + w / 256

section

variable {w : Nat} (h : w ≤ 65535)

include h

theorem swapBytes_div : swapBytes w / 256 = w % 256 := by
  have hhigh : w / 256 < 256 := by omega
  rw [swapBytes, Nat.mul_comm, Nat.mul_add_div (by decide), Nat.div_eq_of_lt hhigh, Nat.add_zero]

theorem swapBytes_mod : swapBytes w % 256 = w / 256 := by
  have hhigh : w / 256 < 256 := by omega
  rw [swapBytes, Nat.mul_comm, Nat.mul_add_mod, Nat.mod_eq_of_lt hhigh]

theorem swapBytes_le : swapBytes w ≤ 65535 := by
  unfold swapBytes
  omega

theorem swapBytes_complement : swapBytes (65535 - w) = 65535 - swapBytes w := by
  unfold swapBytes
  omega

/-- A swapped word is 256 times the word, and is zero for zero only. -/
theorem residue_mul_256 : residue (w * 256) = swapBytes w := by
  have hle := swapBytes_le h
  rw [← residue_of_le hle, residue_eq_iff]
  unfold swapBytes
  omega

end

/-- The residue of the words in one order is that in the other order, with its bytes swapped. -/
theorem residue_wordSum (b : Bytes) : residue (wordSum b) = swapBytes (residue (littleSum b)) := by
  have hmod : littleSum b * 256 % 65535 = wordSum b % 65535 := littleSum_mod b
  have hzero : littleSum b = 0 ↔ wordSum b = 0 := littleSum_eq_zero_iff b
  have hresidue : residue (littleSum b) % 65535 = littleSum b % 65535 := residue_mod _
  have hresidue_zero : residue (littleSum b) = 0 ↔ littleSum b = 0 := residue_eq_zero_iff
  rw [← residue_mul_256 (residue_le _), residue_eq_iff]
  omega

/-- What a machine word leaves in memory, read in network order. -/
theorem bytes_ofWord (w : UInt16) :
    (StoredChecksum.ofWord w).bytes = Bytes.be16Bytes (swapBytes w.toNat) := by
  have hw : w.toNat ≤ 65535 := Nat.le_of_lt_succ w.toNat_lt
  have hfirst : w.toUInt8 = UInt8.ofNat (swapBytes w.toNat / 256) := by
    rw [← UInt8.toNat_inj, UInt16.toNat_toUInt8, UInt8.toNat_ofNat', swapBytes_div hw]
    omega
  have hsecond : (w >>> 8).toUInt8 = UInt8.ofNat (swapBytes w.toNat) := by
    have hshift : (w >>> 8).toNat = w.toNat / 256 := by
      rw [UInt16.toNat_shiftRight]
      exact Nat.shiftRight_eq_div_pow w.toNat 8
    have hswap := swapBytes_mod hw
    rw [← UInt8.toNat_inj, UInt16.toNat_toUInt8, UInt8.toNat_ofNat', hshift]
    omega
  rw [StoredChecksum.ofWord, StoredChecksum.bytes, Bytes.be16Bytes, hfirst, hsecond]

/-! ## The checksum of a byte string -/

/-- In memory, the sum `c` is the checksum of `b` in network order. -/
structure NetworkOrder (c : Checksum) (b : Bytes) : Prop where
  sum : (StoredChecksum.ofWord c.value).bytes = Bytes.be16Bytes (residue (wordSum b))
  stored : c.toStored.bytes = Bytes.be16Bytes (65535 - residue (wordSum b))
  valid_iff : c.isValid = true ↔ 0 < wordSum b ∧ 65535 ∣ wordSum b

/-- It is enough that the accumulator has the residue of the words in the order of the machine. -/
theorem networkOrder_of_residue (h : residue c.sum.toNat = residue (littleSum b)) :
    NetworkOrder c b := by
  have hvalue : c.value.toNat = residue (littleSum b) := by rw [Checksum.toNat_value, h]
  have hnot : (~~~ c.value).toNat = 65535 - residue (littleSum b) := by
    rw [UInt16.toNat_not, hvalue]
    rfl
  refine ⟨?_, ?_, ?_⟩
  · rw [bytes_ofWord, hvalue, residue_wordSum]
  · rw [Checksum.toStored, bytes_ofWord, hnot, swapBytes_complement (residue_le _), residue_wordSum]
  · rw [Checksum.isValid_iff_residue, h, residue_littleSum_eq_max_iff, ringSum_eq_max_iff,
      Nat.dvd_iff_mod_eq_zero]

theorem networkOrder_compute (b : Bytes) : NetworkOrder (.compute b) b :=
  networkOrder_of_residue (Checksum.residue_compute b)

theorem networkOrder_addBytes (ha : a.length % 2 = 0) (b : Bytes) :
    NetworkOrder ((Checksum.compute a).addBytes b) (a ++ b) :=
  networkOrder_of_residue (Checksum.residue_compute_addBytes ha b)

/-! ## Checksum fields -/

theorem wordSum_append (ha : a.length % 2 = 0) (b : Bytes) :
    wordSum (a ++ b) = wordSum a + wordSum b := by
  induction a using wordSum.induct with
  | case1 => simp only [List.nil_append, wordSum, Nat.zero_add]
  | case2 x => simp at ha
  | case3 x y rest ih =>
      have hrest : rest.length % 2 = 0 := by
        simp only [List.length_cons] at ha
        omega
      simp only [List.cons_append, wordSum, ih hrest]
      omega

/-- A word that replaces two zeros at an even position is added to the sum. -/
theorem wordSum_overlay (hpos : pos % 2 = 0) (hzero : b.slice pos (pos + 2) = [0, 0]) (x y : UInt8) :
    wordSum (b.overlay pos [x, y]) = wordSum b + Bytes.word x y := by
  have hlen : pos + 2 ≤ b.length := by
    have := congrArg List.length hzero
    simp only [Bytes.slice, List.length_drop, List.length_take, List.length_cons,
      List.length_nil] at this
    omega
  have hfront : (b.take pos).length % 2 = 0 := by
    rw [List.length_take_of_le (by omega)]
    exact hpos
  have hsplit : b = b.take pos ++ ([0, 0] ++ b.drop (pos + 2)) := by
    have htake : (b.take (pos + 2)).take pos = b.take pos := by
      rw [List.take_take, Nat.min_eq_left (by omega)]
    calc b
        _ = b.take (pos + 2) ++ b.drop (pos + 2) := (List.take_append_drop _ _).symm
        _ = (b.take pos ++ [0, 0]) ++ b.drop (pos + 2) := by
            rw [← hzero, Bytes.slice, ← htake, List.take_append_drop pos (b.take (pos + 2))]
        _ = b.take pos ++ ([0, 0] ++ b.drop (pos + 2)) := List.append_assoc _ _ _
  have hold : wordSum b = wordSum (b.take pos) + wordSum (b.drop (pos + 2)) := by
    rw [congrArg wordSum hsplit, wordSum_append hfront]
    simp [wordSum, Bytes.word]
  have hnew : wordSum (b.overlay pos [x, y])
      = wordSum (b.take pos) + (Bytes.word x y + wordSum (b.drop (pos + 2))) := by
    rw [Bytes.overlay, List.append_assoc, wordSum_append hfront]
    rfl
  omega

/-- A segment verifies once its checksum is stored in it, whatever was summed before it. -/
theorem isValid_overlay_toStored (ha : a.length % 2 = 0) (hpos : pos % 2 = 0)
    (hzero : segment.slice pos (pos + 2) = [0, 0]) :
    ((Checksum.compute a).addBytes (segment.overlay pos
      ((Checksum.compute a).addBytes segment).toStored.bytes)).isValid = true := by
  have hresidue := residue_le (wordSum (a ++ segment))
  have hmod := residue_mod (wordSum (a ++ segment))
  have hzero_iff : residue (wordSum (a ++ segment)) = 0 ↔ wordSum (a ++ segment) = 0 :=
    residue_eq_zero_iff
  have hfield : 65535 - residue (wordSum (a ++ segment)) < 65536 := by omega
  rw [(networkOrder_addBytes ha segment).stored, (networkOrder_addBytes ha _).valid_iff,
    wordSum_append ha, Bytes.be16Bytes, wordSum_overlay hpos hzero, Bytes.word_be16Bytes hfield,
    ← Nat.add_assoc, ← wordSum_append ha]
  omega

/-- **The byte order of the machine does not show.** The sum of any bytes, alone or behind a
pseudo-header, is their checksum in network order, and a segment with that checksum stored in a
zeroed field verifies. -/
theorem checksum_networkOrder :
    (∀ b, NetworkOrder (.compute b) b)
      ∧ (∀ (ip : Ipv4Header) length segment, NetworkOrder ((ip.pseudoSum length).addBytes segment)
        (ip.pseudoHeader length ++ segment))
      ∧ ∀ (segment : Bytes) pos, pos % 2 = 0 → segment.slice pos (pos + 2) = [0, 0] →
        (Checksum.compute
            (segment.overlay pos (Checksum.compute segment).toStored.bytes)).isValid = true
          ∧ ∀ (ip : Ipv4Header) length, ((ip.pseudoSum length).addBytes (segment.overlay pos
            ((ip.pseudoSum length).addBytes segment).toStored.bytes)).isValid = true := by
  have heven : ∀ (ip : Ipv4Header) length, (ip.pseudoHeader length).length % 2 = 0 := by
    intro ip length
    rw [Ipv4Header.length_pseudoHeader]
  refine ⟨networkOrder_compute, fun ip length segment => ?_, fun segment pos hpos hzero => ?_⟩
  · exact networkOrder_addBytes (heven ip length) segment
  · exact ⟨isValid_overlay_toStored (a := []) rfl hpos hzero,
      fun ip length => isValid_overlay_toStored (heven ip length) hpos hzero⟩

/-- Four words with room for their checksum in front of them. -/
def unsummedWords : Bytes := [0, 0, 0x00, 0x01, 0xF2, 0x03, 0xF4, 0xF5, 0xF6, 0xF7]

theorem checksum_networkOrder_unsummedWords :
    0 % 2 = 0 ∧ unsummedWords.slice 0 2 = [0, 0]
      ∧ (Checksum.compute unsummedWords).toStored.bytes = [0x22, 0x0D]
      ∧ (Checksum.compute (unsummedWords.overlay 0 [0x22, 0x0D])).isValid = true := by
  have hfield : unsummedWords.slice 0 2 = [0, 0] := by decide
  obtain ⟨horder, -, hverifies⟩ := checksum_networkOrder
  have hstored : (Checksum.compute unsummedWords).toStored.bytes = [0x22, 0x0D] := by
    rw [(horder unsummedWords).stored]
    decide
  have hvalid := (hverifies unsummedWords 0 rfl hfield).1
  rw [hstored] at hvalid
  exact ⟨rfl, hfield, hstored, hvalid⟩

end PacketPath
