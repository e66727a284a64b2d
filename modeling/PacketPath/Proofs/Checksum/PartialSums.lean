import Mathlib.Algebra.BigOperators.Group.List.Basic
import PacketPath.Proofs.Checksum.NetworkOrder

set_option autoImplicit false

/-! # Partial sums

A checksum can be collected piece by piece: slices are added to a running sum in any order, parts
are summed apart and joined, and the sum may be read on the way, which folds its carries. All these
routes (`Summation`) leave different accumulators behind. What they have in common is the residue of
the accumulator, and nothing else of it can be read (`Checksum.agrees_of_residue`).

A slice of odd length is padded with zero wherever it is added, so it stands for itself followed by
a zero. That is where it would stand if it came last.
-/

namespace PacketPath

/-! ## Answers -/

namespace Checksum

variable {c d : Checksum}

/-- Two sums of which the same can be read, whatever is in their accumulators. -/
structure Agrees (c d : Checksum) : Prop where
  value : c.value = d.value
  valid : c.isValid = d.isValid
  stored : c.toStored = d.toStored

theorem agrees_of_residue (h : residue c.sum.toNat = residue d.sum.toNat) : Agrees c d := by
  have hvalue : c.value = d.value := by
    rw [← UInt16.toNat_inj, toNat_value, toNat_value, h]
  exact ⟨hvalue, by rw [isValid, isValid, hvalue], by rw [toStored, toStored, hvalue]⟩

theorem residue_folded (c : Checksum) : residue c.folded.sum.toNat = residue c.sum.toNat := by
  rw [folded, toNat_foldCarries, residue_of_le (residue_le _)]

/-- Folding twice is folding once. -/
theorem folded_folded (c : Checksum) : c.folded.folded = c.folded := by
  have hsum : (foldCarries (foldCarries c.sum)).toNat = (foldCarries c.sum).toNat := by
    rw [toNat_foldCarries, toNat_foldCarries, residue_of_le (residue_le _)]
  show Checksum.mk (foldCarries (foldCarries c.sum)) = ⟨foldCarries c.sum⟩
  rw [UInt32.toNat_inj.mp hsum]

theorem residue_add_checksum (c d : Checksum) :
    residue (c.add d).sum.toNat = residue (c.sum.toNat + d.sum.toNat) := by
  calc residue (c.add d).sum.toNat
      _ = residue (c.sum.toNat + d.value.toNat) := residue_addWord c d.value 0
      _ = residue (residue d.sum.toNat + c.sum.toNat) := by rw [toNat_value, Nat.add_comm]
      _ = residue (c.sum.toNat + d.sum.toNat) := by rw [residue_add, Nat.add_comm]

end Checksum

/-! ## Slices -/

/-- The exact sum of some slices, each padded to whole words. -/
def sliceSum (slices : List Bytes) : Nat := (slices.map littleSum).sum

theorem sliceSum_append (a b : List Bytes) : sliceSum (a ++ b) = sliceSum a + sliceSum b := by
  rw [sliceSum, List.map_append, List.sum_append]
  rfl

theorem sliceSum_perm {a b : List Bytes} (h : a.Perm b) : sliceSum a = sliceSum b :=
  (h.map littleSum).sum_eq

/-- Whether the last word of a slice is cut in half. -/
def Bytes.isOdd (b : Bytes) : Bool := b.length % 2 == 1

/-- The slices with those of odd length behind the others. -/
def oddLast (slices : List Bytes) : List Bytes :=
  slices.filter (!·.isOdd) ++ slices.filter (·.isOdd)

theorem oddLast_perm (slices : List Bytes) : (oddLast slices).Perm slices :=
  List.perm_append_comm.trans (List.filter_append_perm _ _)

/-- Slices of even length may be summed as one string, together with what comes behind them. -/
theorem littleSum_flatten_append {slices : List Bytes} (h : ∀ b ∈ slices, b.isOdd = false)
    (rest : Bytes) : littleSum (slices.flatten ++ rest) = sliceSum slices + littleSum rest := by
  induction slices with
  | nil => exact (Nat.zero_add _).symm
  | cons b slices ih =>
      have hb : b.length % 2 = 0 := by
        have := h b List.mem_cons_self
        simp only [Bytes.isOdd, beq_eq_false_iff_ne, ne_eq] at this
        omega
      have hrest : ∀ b ∈ slices, b.isOdd = false := fun b hb => h b (List.mem_cons_of_mem _ hb)
      rw [List.flatten_cons, List.append_assoc, littleSum_append hb, ih hrest, ← Nat.add_assoc]
      rfl

/-- A single slice may be of any length. -/
theorem littleSum_flatten_of_length_le {slices : List Bytes} (h : slices.length ≤ 1) :
    littleSum slices.flatten = sliceSum slices := by
  match slices, h with
  | [], _ => rfl
  | [b], _ => simp only [List.flatten_singleton, sliceSum, List.map_singleton, List.sum_singleton]
  | _ :: _ :: _, h => simp at h

theorem littleSum_oddLast {slices : List Bytes} (h : slices.countP (·.isOdd) ≤ 1) :
    littleSum (oddLast slices).flatten = sliceSum slices := by
  have heven : ∀ b ∈ slices.filter (!·.isOdd), b.isOdd = false := by
    intro b hb
    simpa using (List.mem_filter.mp hb).2
  have hodd : (slices.filter (·.isOdd)).length ≤ 1 := by
    rwa [← List.countP_eq_length_filter]
  calc littleSum (oddLast slices).flatten
      _ = sliceSum (slices.filter (!·.isOdd)) + sliceSum (slices.filter (·.isOdd)) := by
          rw [oddLast, List.flatten_append, littleSum_flatten_append heven,
            littleSum_flatten_of_length_le hodd]
      _ = sliceSum (oddLast slices) := (sliceSum_append _ _).symm
      _ = sliceSum slices := sliceSum_perm (oddLast_perm slices)

/-! ## Summations -/

/-- A way to sum slices. -/
inductive Summation
  | zero
  /-- Goes on with another slice. -/
  | addBytes (sum : Summation) (slice : Bytes)
  /-- Reads the sum, which folds its carries. -/
  | fold (sum : Summation)
  /-- Joins a part that was summed apart, as a new sum or into the running one. -/
  | add (sum part : Summation)

namespace Summation

/-- The accumulator that is left behind. -/
def eval : Summation → Checksum
  | zero => .zero
  | addBytes sum slice => sum.eval.addBytes slice
  | fold sum => sum.eval.folded
  | add sum part => sum.eval.add part.eval

/-- The slices that are summed, in the order in which they are written down. -/
def slices : Summation → List Bytes
  | zero => []
  | addBytes sum slice => sum.slices ++ [slice]
  | fold sum => sum.slices
  | add sum part => sum.slices ++ part.slices

/-- The same summation without reading the sum on the way. -/
def unread : Summation → Summation
  | zero => zero
  | addBytes sum slice => sum.unread.addBytes slice
  | fold sum => sum.unread
  | add sum part => sum.unread.add part.unread

theorem slices_unread (s : Summation) : s.unread.slices = s.slices := by
  induction s with
  | zero => rfl
  | addBytes sum slice ih => rw [unread, slices, slices, ih]
  | fold sum ih => exact ih
  | add sum part ih ihp => rw [unread, slices, slices, ih, ihp]

/-- Whatever the route, the accumulator has the residue of the exact sum. -/
theorem residue_eval (s : Summation) : residue s.eval.sum.toNat = residue (sliceSum s.slices) := by
  induction s with
  | zero => rfl
  | addBytes sum slice ih =>
      calc residue (sum.eval.addBytes slice).sum.toNat
          _ = residue (residue sum.eval.sum.toNat + littleSum slice) := by
              rw [Checksum.residue_addBytes, residue_add]
          _ = residue (sliceSum sum.slices + littleSum slice) := by rw [ih, residue_add]
          _ = residue (sliceSum (sum.slices ++ [slice])) := by
              rw [sliceSum_append]
              rfl
  | fold sum ih => exact (Checksum.residue_folded _).trans ih
  | add sum part ih ihp =>
      calc residue (sum.eval.add part.eval).sum.toNat
          _ = residue (residue sum.eval.sum.toNat + part.eval.sum.toNat) := by
              rw [Checksum.residue_add_checksum, residue_add]
          _ = residue (residue part.eval.sum.toNat + sliceSum sum.slices) := by
              rw [ih, residue_add, Nat.add_comm, residue_add]
          _ = residue (sliceSum sum.slices + sliceSum part.slices) := by
              rw [ihp, residue_add, Nat.add_comm]
          _ = residue (sliceSum (sum.slices ++ part.slices)) := by rw [sliceSum_append]

/-- Only the slices count, not how they were summed. -/
theorem agrees_of_perm {s t : Summation} (h : s.slices.Perm t.slices) : s.eval.Agrees t.eval :=
  Checksum.agrees_of_residue (by rw [residue_eval, residue_eval, sliceSum_perm h])

theorem agrees_compute {s : Summation} {slices : List Bytes} (h : s.slices.Perm slices)
    (hodd : slices.countP (·.isOdd) ≤ 1) :
    s.eval.Agrees (.compute (oddLast slices).flatten) := by
  refine Checksum.agrees_of_residue ?_
  rw [residue_eval, sliceSum_perm h, Checksum.residue_compute, littleSum_oddLast hodd]

end Summation

/-- **Partial sums combine freely.** However slices are summed, of which at most one is of odd
length, the same is read as of the sum of one string with the odd slice at its end. Reading a sum
changes no answer, then or later, and reading it again changes nothing at all; yet it may change the
accumulator. -/
theorem partial_sums :
    (∀ (slices : List Bytes) (s : Summation), slices.countP (·.isOdd) ≤ 1 →
        s.slices.Perm slices → s.eval.Agrees (.compute (oddLast slices).flatten))
      ∧ (∀ c : Checksum, c.folded.Agrees c ∧ c.folded.folded = c.folded)
      ∧ (∀ s : Summation, s.eval.Agrees s.unread.eval)
      ∧ ∃ s : Summation, s.fold.eval ≠ s.eval := by
  refine ⟨fun slices s hodd hperm => s.agrees_compute hperm hodd, fun c => ?_, fun s => ?_, ?_⟩
  · exact ⟨Checksum.agrees_of_residue c.residue_folded, c.folded_folded⟩
  · exact Summation.agrees_of_perm (by rw [Summation.slices_unread])
  · -- two words of ones carry
    refine ⟨.addBytes .zero [0xFF, 0xFF, 0xFF, 0xFF], fun h => ?_⟩
    have hsum : (foldCarries (Checksum.zero.addBytes [0xFF, 0xFF, 0xFF, 0xFF]).sum).toNat
        = (Checksum.zero.addBytes [0xFF, 0xFF, 0xFF, 0xFF]).sum.toNat :=
      congrArg (fun c : Checksum => c.sum.toNat) h
    have hcarry : (Checksum.zero.addBytes [0xFF, 0xFF, 0xFF, 0xFF]).sum.toNat = 0x1FFFE := by decide
    have hle := residue_le 0x1FFFE
    rw [toNat_foldCarries, hcarry] at hsum
    omega

/-- Three slices, the odd one in the middle of two parts that are joined. -/
def joinedParts : Summation :=
  .add (.addBytes (.fold (.addBytes .zero [0xAB])) [0xFF, 0xFE])
    (.fold (.addBytes .zero [0x01, 0x02]))

theorem partial_sums_joinedParts :
    [[0x01, 0x02], [0xFF, 0xFE], [0xAB]].countP Bytes.isOdd ≤ 1
      ∧ joinedParts.slices.Perm [[0x01, 0x02], [0xFF, 0xFE], [0xAB]]
      ∧ joinedParts.eval.toStored = (Checksum.compute [0x01, 0x02, 0xFF, 0xFE, 0xAB]).toStored := by
  have hodd : [[0x01, 0x02], [0xFF, 0xFE], [0xAB]].countP Bytes.isOdd ≤ 1 := by decide
  have hperm : joinedParts.slices.Perm [[0x01, 0x02], [0xFF, 0xFE], [0xAB]] := by decide
  exact ⟨hodd, hperm, (partial_sums.1 _ joinedParts hodd hperm).stored⟩

end PacketPath
