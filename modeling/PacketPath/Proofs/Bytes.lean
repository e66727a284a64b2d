import Mathlib.Data.List.Infix
import PacketPath.Bytes

set_option autoImplicit false

/-! # Stretches of byte strings

Laws of the part of a byte string between two positions (`slice`), and of the replacement of such a
part (`overlay`). A stretch can be cut in two, it moves along with bytes that are put in front, and
it does not see what is written beside it, or what is put behind.
-/

namespace PacketPath.Bytes

variable {s patch : Bytes} {a pos : Nat}

/-! ## Cutting -/

/-- A stretch is cut at any position in it. -/
theorem slice_append_slice {first middle last : Nat} (h : first ≤ middle) (h' : middle ≤ last)
    (s : Bytes) : s.slice first middle ++ s.slice middle last = s.slice first last := by
  have hfront : s.slice first middle = ((s.take last).drop first).take (middle - first) := by
    rw [slice, List.take_drop, Nat.add_sub_cancel' h, List.take_take, Nat.min_eq_left h']
  have hbehind : s.slice middle last = ((s.take last).drop first).drop (middle - first) := by
    rw [slice, List.drop_drop, Nat.add_sub_cancel' h]
  rw [hfront, hbehind, List.take_append_drop, slice]

/-- A string is what stands before a stretch of it, the stretch, and what stands behind. -/
theorem slice_split {last : Nat} (h : a ≤ last) (s : Bytes) :
    s = s.take a ++ (s.slice a last ++ s.drop last) := by
  have hfront : (s.take last).take a = s.take a := by rw [List.take_take, Nat.min_eq_left h]
  calc s
      _ = s.take last ++ s.drop last := (List.take_append_drop _ _).symm
      _ = s.take a ++ s.slice a last ++ s.drop last := by
          rw [slice, ← hfront, List.take_append_drop a (s.take last)]
      _ = s.take a ++ (s.slice a last ++ s.drop last) := List.append_assoc _ _ _

/-- The stretch between two others. -/
theorem slice_between (before b behind : Bytes) :
    (before ++ b ++ behind).slice before.length (before.length + b.length) = b := by
  rw [slice, ← List.length_append, List.take_left', List.drop_left']
  · rfl
  · rfl

/-- Bytes that are put around a string move the stretches of it. -/
theorem slice_widened {first last n : Nat} (h : last ≤ s.length) (behind : Bytes) :
    (zeros n ++ s ++ behind).slice (first + n) (last + n) = s.slice first last := by
  have htake : (zeros n ++ (s ++ behind)).take ((zeros n).length + last)
      = zeros n ++ (s ++ behind).take last := List.take_length_add_append _
  have hdrop : (zeros n ++ s.take last).drop ((zeros n).length + first)
      = (s.take last).drop first := List.drop_length_add_append _
  rw [length_zeros] at htake hdrop
  rw [slice, List.append_assoc, Nat.add_comm last, Nat.add_comm first, htake,
    List.take_append_of_le_length h, hdrop, slice]

/-- A stretch of the zeros in front. -/
theorem slice_zeros_append (n first : Nat) (rest : Bytes) :
    (zeros n ++ rest).slice first n = zeros (n - first) := by
  rw [slice, List.take_left' (length_zeros n), zeros, List.drop_replicate, zeros]

/-- A byte of a stretch. -/
theorem getElem?_slice {first last i : Nat} (h : first + i < last) (s : Bytes) :
    (s.slice first last)[i]? = s[first + i]? := by
  rw [slice, List.getElem?_drop, List.getElem?_take_of_lt h]

/-! ## Bytes behind

What is read of the first bytes of a string is read of every longer string that begins with them. -/

section

variable {b b' : Bytes} (hb : b <+: b')

include hb

theorem byte_of_isPrefix {i : Nat} (hi : i < b.length) : b'.byte i = b.byte i := by
  obtain ⟨rest, rfl⟩ := hb
  rw [byte, byte, List.getD_eq_getElem?_getD, List.getElem?_append_left hi,
    List.getD_eq_getElem?_getD]

theorem be16_of_isPrefix {i : Nat} (hi : i + 1 < b.length) : b'.be16 i = b.be16 i := by
  rw [be16, be16, byte_of_isPrefix hb (Nat.lt_of_succ_lt hi), byte_of_isPrefix hb hi]

theorem take_of_isPrefix {n : Nat} (hn : n ≤ b.length) : b'.take n = b.take n := by
  obtain ⟨rest, rfl⟩ := hb
  exact List.take_append_of_le_length hn

theorem slice_of_isPrefix {first last : Nat} (hl : last ≤ b.length) :
    b'.slice first last = b.slice first last := by
  rw [slice, slice, take_of_isPrefix hb hl]

end

/-- A stretch begins with every stretch that ends earlier. -/
theorem slice_prefix_slice {first last last' : Nat} (h : last ≤ last') (b : Bytes) :
    b.slice first last <+: b.slice first last' :=
  (List.take_prefix_take_left h).drop first

/-! ## Zeros behind -/

/-- A stretch of the zeros behind. -/
theorem slice_append_zeros {n last : Nat} (h : last ≤ s.length + n) :
    (s ++ zeros n).slice s.length last = zeros (last - s.length) := by
  by_cases hlast : last ≤ s.length
  · rw [slice, List.take_append_of_le_length hlast, List.drop_eq_nil_of_le (List.length_take_le' ..),
      Nat.sub_eq_zero_of_le hlast]
    rfl
  · have htake : (s ++ zeros n).take (s.length + (last - s.length))
        = s ++ (zeros n).take (last - s.length) := List.take_length_add_append _
    rw [Nat.add_sub_cancel' (Nat.le_of_not_le hlast)] at htake
    rw [slice, htake, List.drop_left, zeros, List.take_replicate, zeros, Nat.min_eq_left (by omega)]

/-- How many zeros there are behind a string does not show before they end. -/
theorem slice_append_zeros_congr {first last m n : Nat} (hm : last ≤ s.length + m)
    (hn : last ≤ s.length + n) :
    (s ++ zeros m).slice first last = (s ++ zeros n).slice first last := by
  have hlonger : ∀ extra, extra ≤ max m n → last ≤ s.length + extra →
      (s ++ zeros (max m n)).slice first last = (s ++ zeros extra).slice first last := by
    intro extra hle hlast
    have hzeros : zeros (max m n) = zeros extra ++ zeros (max m n - extra) := by
      simp only [zeros, List.replicate_append_replicate, Nat.add_sub_cancel' hle]
    have hprefix : s ++ zeros extra <+: s ++ zeros (max m n) :=
      ⟨zeros (max m n - extra), by rw [hzeros, List.append_assoc]⟩
    exact slice_of_isPrefix hprefix (by rwa [List.length_append, length_zeros])
  rw [← hlonger m (Nat.le_max_left m n) hm, hlonger n (Nat.le_max_right m n) hn]

/-! ## Replacing -/

theorem getElem?_overlay (h : pos + patch.length ≤ s.length) (i : Nat) :
    (s.overlay pos patch)[i]?
      = if pos ≤ i ∧ i < pos + patch.length then patch[i - pos]? else s[i]? := by
  have hfront : (s.take pos).length = pos := List.length_take_of_le (by omega)
  have hboth : (s.take pos ++ patch).length = pos + patch.length := by
    rw [List.length_append, hfront]
  rw [overlay]
  by_cases hbehind : pos + patch.length ≤ i
  · rw [List.getElem?_append_right (by omega), hboth, List.getElem?_drop, if_neg (by omega),
      Nat.add_sub_cancel' hbehind]
  rw [List.getElem?_append_left (by omega)]
  by_cases hpos : pos ≤ i
  · rw [List.getElem?_append_right (by omega), hfront, if_pos (by omega)]
  · rw [List.getElem?_append_left (by omega), if_neg (by omega),
      List.getElem?_take_of_lt (by omega)]

/-- Patches that do not overlap may be laid over in either order. -/
theorem overlay_overlay_comm {p q : Bytes} (hp : pos + p.length ≤ s.length)
    (hq : a + q.length ≤ s.length) (h : pos + p.length ≤ a ∨ a + q.length ≤ pos) :
    (s.overlay a q).overlay pos p = (s.overlay pos p).overlay a q := by
  refine List.ext_getElem? fun i => ?_
  rw [getElem?_overlay (by rwa [length_overlay hq]), getElem?_overlay hq,
    getElem?_overlay (by rwa [length_overlay hp]), getElem?_overlay hp]
  split
  · rw [if_neg (by omega)]
  · rfl

/-- A patch beside a stretch does not show in it. -/
theorem slice_overlay_of_disjoint {last : Nat} (hfit : pos + patch.length ≤ s.length)
    (h : pos + patch.length ≤ a ∨ last ≤ pos) :
    (s.overlay pos patch).slice a last = s.slice a last := by
  refine List.ext_getElem? fun i => ?_
  rw [slice, slice, List.getElem?_drop, List.getElem?_drop, List.getElem?_take, List.getElem?_take]
  split
  · rw [getElem?_overlay hfit, if_neg (by omega)]
  · rfl

/-- The bytes around zeros that were laid over. -/
theorem byte_overlay_zeros {n : Nat} (h : pos + n ≤ s.length) (i : Nat) :
    (s.overlay pos (zeros n)).byte i = if pos ≤ i ∧ i < pos + n then 0 else s.byte i := by
  have hfit : pos + (zeros n).length ≤ s.length := by rwa [length_zeros]
  rw [byte, byte, List.getD_eq_getElem?_getD, List.getD_eq_getElem?_getD, getElem?_overlay hfit,
    length_zeros]
  split
  · rw [zeros, List.getElem?_replicate]
    split <;> rfl
  · rfl

end PacketPath.Bytes
