import PacketPath.Proofs.Bytes
import PacketPath.Proofs.Checksum.NetworkOrder

set_option autoImplicit false

/-! # Incremental update

When a field of a summed byte string is replaced, the sum need not be taken again: the old field is
taken out of it by adding the complement of each of its words, and the new field is added (RFC 1624).

A word and its complement make 65535, so the field that is taken out leaves a multiple of 65535 and
not zero. The updated sum has therefore the residue of the new byte string, unless that is all zero:
then it is the other representation of zero (`residue_replaced`).
-/

namespace PacketPath

variable {s patch : Bytes} {a pos : Nat}

/-! ## Sums with a field replaced -/

/-- Only zeros sum to zero. -/
theorem littleSum_eq_zero_iff_byte (b : Bytes) : littleSum b = 0 ↔ ∀ i, b.byte i = 0 := by
  induction b using littleSum.induct with
  | case1 => exact ⟨fun _ _ => rfl, fun _ => rfl⟩
  | case2 x =>
      have hword : littleSum [x] = 0 ↔ x = 0 := by
        rw [← UInt8.toNat_inj, UInt8.toNat_zero]
        simp only [littleSum, Bytes.word, UInt8.toNat_zero]
        omega
      rw [hword]
      constructor
      · rintro rfl i
        cases i <;> rfl
      · exact fun h => h 0
  | case3 x y rest ih =>
      have hword : littleSum (x :: y :: rest) = 0 ↔ x = 0 ∧ y = 0 ∧ littleSum rest = 0 := by
        rw [← UInt8.toNat_inj, ← UInt8.toNat_inj, UInt8.toNat_zero]
        simp only [littleSum, Bytes.word]
        omega
      rw [hword, ih]
      constructor
      · rintro ⟨rfl, rfl, hrest⟩ i
        rcases i with _ | _ | i
        · rfl
        · rfl
        · exact hrest i
      · exact fun h => ⟨h 0, h 1, fun i => h (i + 2)⟩

/-- Where a field is zeroed, only the bytes around it count. -/
theorem littleSum_overlay_zeros_eq_zero_iff (h : pos + 2 ≤ s.length) :
    littleSum (s.overlay pos (.zeros 2)) = 0 ↔ ∀ i, i < pos ∨ pos + 2 ≤ i → s.byte i = 0 := by
  rw [littleSum_eq_zero_iff_byte]
  refine forall_congr' fun i => ?_
  rw [Bytes.byte_overlay_zeros h]
  by_cases hi : pos ≤ i ∧ i < pos + 2
  · rw [if_pos hi]
    exact iff_of_true rfl fun hout => by omega
  · rw [if_neg hi, imp_iff_right (by omega)]

/-- The words around a field are summed on their own. -/
theorem littleSum_field (ha : a % 2 = 0) (hfit : a + patch.length ≤ s.length)
    (heven : patch.length % 2 = 0 ∨ a + patch.length = s.length) :
    ∃ around, littleSum s = around + littleSum (s.slice a (a + patch.length))
      ∧ littleSum (s.overlay a patch) = around + littleSum patch := by
  have hfront : (s.take a).length % 2 = 0 := by
    rw [List.length_take_of_le (by omega)]
    exact ha
  -- behind a field of odd length there is nothing
  have hfield : ∀ field : Bytes, field.length = patch.length →
      littleSum (field ++ s.drop (a + patch.length))
        = littleSum field + littleSum (s.drop (a + patch.length)) := by
    intro field hlen
    rcases heven with heven | hend
    · exact littleSum_append (hlen ▸ heven) _
    · rw [List.drop_of_length_le (by omega), List.append_nil]
      rfl
  have hold : (s.slice a (a + patch.length)).length = patch.length := by
    rw [Bytes.length_slice hfit, Nat.add_sub_cancel_left]
  refine ⟨littleSum (s.take a) + littleSum (s.drop (a + patch.length)), ?_, ?_⟩
  · rw [congrArg littleSum (Bytes.slice_split (Nat.le_add_right a patch.length) s),
      littleSum_append hfront, hfield _ hold, Nat.add_right_comm, Nat.add_assoc]
  · rw [Bytes.overlay, List.append_assoc, littleSum_append hfront, hfield _ rfl,
      Nat.add_right_comm, Nat.add_assoc]

/-! ## Taking bytes out of a sum -/

/-- The number of words of a byte string, a last byte on its own making one. -/
def wordCount (b : Bytes) : Nat := (b.length + 1) / 2

/-- The exact sum of the complements of the little-endian words. -/
def complementSum : Bytes → Nat
  | [] => 0
  | [x] => 65535 - Bytes.word 0 x
  | x :: y :: rest => 65535 - Bytes.word y x + complementSum rest

/-- Each word and its complement make up 65535. -/
theorem complementSum_add (b : Bytes) : complementSum b + littleSum b = 65535 * wordCount b := by
  induction b using littleSum.induct with
  | case1 => rfl
  | case2 x =>
      have := Bytes.word_lt 0 x
      simp only [complementSum, littleSum, wordCount, List.length_singleton]
      omega
  | case3 x y rest ih =>
      have := Bytes.word_lt y x
      simp only [complementSum, littleSum, wordCount, List.length_cons] at ih ⊢
      omega

theorem toNat_not_le16 (x y : UInt8) : (~~~ Bytes.le16 x y).toNat = 65535 - Bytes.word y x := by
  rw [UInt16.toNat_not, toNat_le16]
  rfl

namespace Checksum

variable {c : Checksum}

/-- Taking bytes out adds the complements of their words. -/
theorem residue_subBytes (c : Checksum) (b : Bytes) (n : Nat) :
    residue ((c.subBytes b).sum.toNat + n) = residue (c.sum.toNat + (complementSum b + n)) := by
  induction b using complementSum.induct generalizing c with
  | case1 => rw [subBytes, complementSum, Nat.zero_add]
  | case2 x => rw [subBytes, residue_addWord, toNat_not_le16, complementSum]
  | case3 x y rest ih =>
      rw [subBytes, ih, residue_addWord, toNat_not_le16, complementSum, Nat.add_assoc]

/-- What was stored can be read again. -/
theorem toWord_ofWord (w : UInt16) : (StoredChecksum.ofWord w).toWord = w := by
  have hw := w.toNat_lt
  have hhigh : (w >>> 8).toNat = w.toNat / 256 := by
    rw [UInt16.toNat_shiftRight]
    exact Nat.shiftRight_eq_div_pow w.toNat 8
  rw [← UInt16.toNat_inj, StoredChecksum.toWord, toNat_le16, Bytes.word, StoredChecksum.ofWord,
    UInt16.toNat_toUInt8, UInt16.toNat_toUInt8, hhigh]
  omega

/-- A stored checksum stands for the sum that it was made of. -/
theorem toNat_ofStored_toStored (c : Checksum) :
    (ofStored c.toStored).sum.toNat = residue c.sum.toNat := by
  rw [ofStored, toStored, toWord_ofWord, UInt16.not_not, UInt16.toNat_toUInt32, toNat_value]

/-- The sum with a field replaced, read again. -/
theorem residue_replaced (hc : residue c.sum.toNat = residue (littleSum s)) (ha : a % 2 = 0)
    (hne : patch ≠ []) (hfit : a + patch.length ≤ s.length)
    (heven : patch.length % 2 = 0 ∨ a + patch.length = s.length) :
    residue ((c.subBytes (s.slice a (a + patch.length))).addBytes patch).sum.toNat
      = if littleSum (s.overlay a patch) = 0 then 65535
        else residue (littleSum (s.overlay a patch)) := by
  obtain ⟨around, hold, hnew⟩ := littleSum_field ha hfit heven
  set old := s.slice a (a + patch.length) with hslice
  have hpair := complementSum_add old
  have hwords : 0 < wordCount old := by
    have := List.length_pos_iff.mpr hne
    rw [wordCount, hslice, Bytes.length_slice hfit]
    omega
  rw [residue_addBytes, residue_subBytes]
  rw [residue_eq_iff] at hc
  split
  · -- nothing is left of the words but the multiple of 65535 that the old field made
    rw [residue_eq_max_iff]
    omega
  · rw [residue_eq_iff]
    omega

/-- Replacing a field gives the sum of the new string, unless that has nothing to sum. -/
theorem value_replaced (hc : residue c.sum.toNat = residue (littleSum s)) (ha : a % 2 = 0)
    (hne : patch ≠ []) (hfit : a + patch.length ≤ s.length)
    (heven : patch.length % 2 = 0 ∨ a + patch.length = s.length) :
    let updated := (c.subBytes (s.slice a (a + patch.length))).addBytes patch
    let fresh := compute (s.overlay a patch)
    (¬ littleSum (s.overlay a patch) = 0 → updated.value = fresh.value)
      ∧ (littleSum (s.overlay a patch) = 0 → updated.value = 0xFFFF ∧ fresh.value = 0) := by
  intro updated fresh
  have hupdated := residue_replaced hc ha hne hfit heven
  have hfresh : fresh.value.toNat = residue (littleSum (s.overlay a patch)) := by
    rw [toNat_value, residue_compute]
  rw [← toNat_value] at hupdated
  refine ⟨fun hsum => ?_, fun hsum => ⟨?_, ?_⟩⟩
  · rw [if_neg hsum] at hupdated
    exact UInt16.toNat_inj.mp (hupdated.trans hfresh.symm)
  · rw [if_pos hsum] at hupdated
    exact UInt16.toNat_inj.mp hupdated
  · rw [hsum] at hfresh
    exact UInt16.toNat_inj.mp hfresh

end Checksum

/-- **Updating a checksum is computing it anew.** A field of `s` at an even position, of even length
or at the end, is replaced by a patch of the same length. Taking the old field out of the stored
checksum and adding the new one gives the checksum of the result, around the checksum field; and
likewise for the sum of all bytes. Only where nothing but zeros is left is zero represented in the
other way. -/
theorem incremental_update (s patch : Bytes) (a : Nat) (ha : a % 2 = 0) (hne : patch ≠ [])
    (hfit : a + patch.length ≤ s.length)
    (heven : patch.length % 2 = 0 ∨ a + patch.length = s.length) :
    let old := s.slice a (a + patch.length)
    let s' := s.overlay a patch
    (∀ pos, pos % 2 = 0 → pos + 2 ≤ s.length → pos + 2 ≤ a ∨ a + patch.length ≤ pos →
        let stored := (Checksum.compute (s.overlay pos (.zeros 2))).toStored
        let updated := (((Checksum.ofStored stored).subBytes old).addBytes patch).toStored
        let fresh := (Checksum.compute (s'.overlay pos (.zeros 2))).toStored
        ((∃ i, (i < pos ∨ pos + 2 ≤ i) ∧ s'.byte i ≠ 0) → updated = fresh)
          ∧ ((∀ i, i < pos ∨ pos + 2 ≤ i → s'.byte i = 0) →
            updated.bytes = [0, 0] ∧ fresh.bytes = [0xFF, 0xFF]))
      ∧ let updated := ((Checksum.compute s).subBytes old).addBytes patch
        let fresh := Checksum.compute s'
        ((∃ i, s'.byte i ≠ 0) → updated.value = fresh.value)
          ∧ ((∀ i, s'.byte i = 0) → updated.value = 0xFFFF ∧ fresh.value = 0) := by
  intro old s'
  have hlength : s'.length = s.length := Bytes.length_overlay hfit
  refine ⟨fun pos hpos hroom hbeside => ?_, ?_⟩
  · intro stored updated fresh
    have hroom' : pos + (Bytes.zeros 2).length ≤ s.length := hroom
    -- the string with its checksum field zeroed, before the patch and after it
    set cleared := s.overlay pos (.zeros 2) with hcleared
    have hold : cleared.slice a (a + patch.length) = old :=
      Bytes.slice_overlay_of_disjoint hroom' hbeside
    have hnew : s'.overlay pos (.zeros 2) = cleared.overlay a patch :=
      Bytes.overlay_overlay_comm hroom' hfit hbeside
    have hsame : cleared.length = s.length := Bytes.length_overlay hroom'
    have hc : residue (Checksum.ofStored stored).sum.toNat = residue (littleSum cleared) := by
      rw [Checksum.toNat_ofStored_toStored, residue_of_le (residue_le _),
        Checksum.residue_compute]
    obtain ⟨hagree, hzero⟩ :=
      Checksum.value_replaced hc ha hne (hsame ▸ hfit) (hsame ▸ heven)
    have hempty := littleSum_overlay_zeros_eq_zero_iff (s := s') (hlength ▸ hroom)
    rw [hold, ← hnew, hempty] at hagree hzero
    refine ⟨?_, fun hbytes => ?_⟩
    · rintro ⟨i, hi, hbyte⟩
      have hvalue := hagree fun hbytes => hbyte (hbytes i hi)
      show Checksum.toStored _ = Checksum.toStored _
      rw [Checksum.toStored, Checksum.toStored, hvalue]
    · obtain ⟨hupdated, hfresh⟩ := hzero hbytes
      show (Checksum.toStored _).bytes = _ ∧ (Checksum.toStored _).bytes = _
      rw [Checksum.toStored, Checksum.toStored, hupdated, hfresh]
      exact ⟨rfl, rfl⟩
  · have hagree := Checksum.value_replaced (Checksum.residue_compute s) ha hne hfit heven
    rw [littleSum_eq_zero_iff_byte] at hagree
    refine ⟨?_, hagree.2⟩
    rintro ⟨i, hbyte⟩
    exact hagree.1 fun hbytes => hbyte (hbytes i)

/-- An odd number of bytes, with a checksum in the second word. -/
def checksummedBytes : Bytes := [0x45, 0x00, 0xAA, 0xBB, 0x12, 0x34, 0x56]

/-- The last three bytes are replaced, the odd one among them. -/
theorem incremental_update_checksummedBytes :
    let patch : Bytes := [0xFF, 0xFF, 0x01]
    let stored := (Checksum.compute (checksummedBytes.overlay 2 (.zeros 2))).toStored
    4 % 2 = 0 ∧ patch ≠ [] ∧ 4 + patch.length ≤ checksummedBytes.length
      ∧ 4 + patch.length = checksummedBytes.length
      ∧ 2 % 2 = 0 ∧ 2 + 2 ≤ checksummedBytes.length ∧ 2 + 2 ≤ 4
      ∧ (((Checksum.ofStored stored).subBytes [0x12, 0x34, 0x56]).addBytes patch).toStored
        = (Checksum.compute [0x45, 0x00, 0, 0, 0xFF, 0xFF, 0x01]).toStored := by
  intro patch stored
  obtain ⟨hfields, -⟩ :=
    incremental_update checksummedBytes patch 4 rfl (by decide) (by decide) (.inr rfl)
  obtain ⟨hagree, -⟩ := hfields 2 rfl (by decide) (.inl (by decide))
  exact ⟨rfl, by decide, by decide, rfl, rfl, by decide, by decide,
    hagree ⟨0, .inl (by decide), by decide⟩⟩

end PacketPath
