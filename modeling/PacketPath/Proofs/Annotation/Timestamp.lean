import Mathlib.Algebra.GroupWithZero.Nat
import PacketPath.Annotation.Timestamp
import PacketPath.Proofs.Text.Reading

set_option autoImplicit false

/-! # Times in order

A duration is cut to whole microseconds when a timestamp is made of it. Timestamps are compared by
seconds, then microseconds; where these are less than a million that is the order of the times
themselves (`compare_eq_micros`), and cutting keeps it.

The text of a timestamp has its seconds in front of the first point, since decimal numbers have
none, and both of its numbers can be read back. No two timestamps have the same text, also where the
microseconds are negative or do not fit in their six columns.
-/

namespace PacketPath

/-- A span of time, its nanoseconds making less than a second. -/
structure Duration where
  seconds : UInt64
  nanos : UInt32
  nanos_lt : nanos.toNat < 1000000000

namespace Duration

/-- The length of a duration. -/
def total (d : Duration) : Nat := d.seconds.toNat * 1000000000 + d.nanos.toNat

/-- Whether the seconds of a duration fit in a timestamp. -/
def Fits (d : Duration) : Prop := d.seconds.toNat < 2 ^ 63

/-- The time that lies a duration after the epoch. -/
def timestamp (d : Duration) : Timestamp := .ofDuration d.seconds d.nanos

end Duration

namespace Timestamp

variable {t u : Timestamp} {d : Duration}

/-- The microseconds since the epoch. -/
def micros (t : Timestamp) : Int := t.secs.toInt * 1000000 + t.usecs.toInt

/-- Whether the microseconds make less than a second. -/
def Normal (t : Timestamp) : Prop := 0 ≤ t.usecs.toInt ∧ t.usecs.toInt < 1000000

theorem eq_of_toInt (hsecs : t.secs.toInt = u.secs.toInt)
    (husecs : t.usecs.toInt = u.usecs.toInt) : t = u := by
  obtain ⟨secs, usecs⟩ := t
  rw [mk.injEq]
  exact ⟨Int64.toInt_inj.mp hsecs, Int32.toInt_inj.mp husecs⟩

/-! ## Order -/

theorem compare_int (a b : Int) :
    compare a b = if a < b then .lt else if a = b then .eq else .gt := rfl

/-- Less than a second of microseconds cannot make up for a second. -/
theorem micros_lt (ht : t.Normal) (hu : u.Normal) (h : t.secs.toInt < u.secs.toInt) :
    t.micros < u.micros := by
  obtain ⟨ht₀, ht₁⟩ := ht
  obtain ⟨hu₀, hu₁⟩ := hu
  unfold micros
  omega

/-- Seconds and microseconds in this order are compared like the times. -/
theorem compare_eq_micros (ht : t.Normal) (hu : u.Normal) :
    compare t u = compare t.micros u.micros := by
  show (compare t.secs.toInt u.secs.toInt).then (compare t.usecs.toInt u.usecs.toInt) = _
  rcases Int.lt_trichotomy t.secs.toInt u.secs.toInt with hlt | heq | hgt
  · rw [compare_int, if_pos hlt, compare_int t.micros, if_pos (micros_lt ht hu hlt)]
    rfl
  · -- in the same second the microseconds decide
    simp only [micros, heq, compare_int, Int.lt_irrefl, if_true, if_false, Int.add_lt_add_iff_left,
      Int.add_right_inj]
    rfl
  · have hmicros := micros_lt hu ht hgt
    rw [compare_int, if_neg (by omega), if_neg (by omega), compare_int t.micros, if_neg (by omega),
      if_neg (by omega)]
    rfl

theorem isLE_compare_iff (ht : t.Normal) (hu : u.Normal) :
    (compare t u).isLE = true ↔ t.micros ≤ u.micros := by
  rw [compare_eq_micros ht hu, compare_int]
  split
  · next h => exact iff_of_true rfl (Int.le_of_lt h)
  · split
    · next h => exact iff_of_true rfl (Int.le_of_eq h)
    · next hlt hne => exact iff_of_false (by decide) (by omega)

/-- A time is given by its microseconds. -/
theorem eq_of_micros (ht : t.Normal) (hu : u.Normal) (h : t.micros = u.micros) : t = u := by
  obtain ⟨ht₀, ht₁⟩ := ht
  obtain ⟨hu₀, hu₁⟩ := hu
  unfold micros at h
  exact eq_of_toInt (by omega) (by omega)

/-! ## Durations -/

theorem toInt_toInt64 {n : UInt64} (h : n.toNat < 2 ^ 63) : n.toInt64.toInt = n.toNat := by
  show n.toBitVec.toInt = _
  exact BitVec.toInt_eq_toNat_of_lt (by rw [UInt64.toNat_toBitVec]; omega)

theorem toInt_toInt32 {n : UInt32} (h : n.toNat < 2 ^ 31) : n.toInt32.toInt = n.toNat := by
  show n.toBitVec.toInt = _
  exact BitVec.toInt_eq_toNat_of_lt (by rw [UInt32.toNat_toBitVec]; omega)

theorem toInt_secs (hd : d.Fits) : d.timestamp.secs.toInt = d.seconds.toNat := toInt_toInt64 hd

theorem toInt_usecs (d : Duration) : d.timestamp.usecs.toInt = (d.nanos.toNat / 1000 : Nat) := by
  have hnanos := d.nanos_lt
  have hmicros : (d.nanos / 1000).toNat = d.nanos.toNat / 1000 := UInt32.toNat_div _ _
  show (d.nanos / 1000).toInt32.toInt = _
  rw [toInt_toInt32 (by omega), hmicros]

theorem normal_timestamp (d : Duration) : d.timestamp.Normal := by
  have hnanos := d.nanos_lt
  rw [Normal, toInt_usecs]
  omega

/-- What is cut off is less than a microsecond. -/
theorem micros_timestamp (hd : d.Fits) : d.timestamp.micros = (d.total / 1000 : Nat) := by
  rw [micros, toInt_secs hd, toInt_usecs, Duration.total]
  omega

theorem isZero_iff : t.isZero = true ↔ t = ⟨0, 0⟩ := beq_iff_eq

theorem normal_zero : Normal ⟨0, 0⟩ := ⟨by decide, by decide⟩

/-! ## Texts -/

theorem toList_describe (t : Timestamp) : t.describe.toList
    = (Text.decimal t.secs.toInt).toList ++ '.' :: (Text.zeroPadded 6 t.usecs.toInt).toList := by
  rw [describe, String.toList_append, String.toList_append, List.append_assoc]
  rfl

theorem point_notMem_decimal (i : Int) : '.' ∉ (Text.decimal i).toList := by
  intro h
  rcases Text.isDigit_of_mem_decimal h with h | h
  · exact absurd h (by decide)
  · exact absurd h (by decide)

/-- What is in front of the first point is read back, and what is behind it. -/
theorem splitOn_describe (t : Timestamp) : ∃ usecs, t.describe.toList.splitOn '.'
    = (Text.decimal t.secs.toInt).toList :: usecs
      ∧ ['.'].intercalate usecs = (Text.zeroPadded 6 t.usecs.toInt).toList := by
  rw [toList_describe, List.splitOn_append_cons_self_of_not_mem (point_notMem_decimal _)]
  exact ⟨_, rfl, List.intercalate_splitOn '.'⟩

theorem eq_of_describe (h : t.describe = u.describe) : t = u := by
  obtain ⟨rest, hsplit, ht⟩ := splitOn_describe t
  obtain ⟨rest', hsplit', hu⟩ := splitOn_describe u
  rw [h, hsplit', List.cons.injEq] at hsplit
  obtain ⟨hfront, rfl⟩ := hsplit
  have hsecs : t.secs.toInt = u.secs.toInt := by
    rw [← Text.readInt_decimal t.secs.toInt, ← hfront, Text.readInt_decimal]
  have husecs : t.usecs.toInt = u.usecs.toInt := by
    rw [← Text.readInt_zeroPadded 6 t.usecs.toInt, ← ht, hu, Text.readInt_zeroPadded]
  exact eq_of_toInt hsecs husecs

/-! ## Times and texts -/

/-- The timestamp of a duration tells its whole microseconds. -/
structure Keeps (d : Duration) : Prop where
  normal : d.timestamp.Normal
  micros : d.timestamp.micros = (d.total / 1000 : Nat)
  isZero_iff : d.timestamp.isZero = true ↔ d.total < 1000

theorem keeps_of_fits (hd : d.Fits) : Keeps d := by
  refine ⟨normal_timestamp d, micros_timestamp hd, ?_⟩
  rw [isZero_iff]
  have hmicros := micros_timestamp hd
  have hzero : micros ⟨0, 0⟩ = 0 := by decide
  constructor
  · intro h
    rw [h, hzero] at hmicros
    omega
  · intro h
    refine eq_of_micros (normal_timestamp d) normal_zero ?_
    rw [hmicros, hzero]
    omega

/-- **Timestamps keep the order of time, and are printed without loss.** Durations that fit are cut
to whole microseconds, which keeps their order; normal timestamps are in the order of the times; and
the text of any timestamp at all tells which one it is. -/
theorem times_ordered_and_printed :
    (∀ d : Duration, d.Fits → Keeps d)
      ∧ (∀ d e : Duration, d.Fits → e.Fits →
          (d.total ≤ e.total → (compare d.timestamp e.timestamp).isLE = true)
            ∧ (d.timestamp = e.timestamp ↔ d.total / 1000 = e.total / 1000))
      ∧ (∀ t u : Timestamp, t.Normal → u.Normal → compare t u = compare t.micros u.micros)
      ∧ ∀ t u : Timestamp, t.describe = u.describe → t = u := by
  refine ⟨fun d => keeps_of_fits, fun d e hd he => ⟨fun hle => ?_, fun h => ?_, fun h => ?_⟩,
    fun t u => compare_eq_micros, fun t u => eq_of_describe⟩
  · rw [isLE_compare_iff (normal_timestamp d) (normal_timestamp e), micros_timestamp hd,
      micros_timestamp he]
    exact Int.ofNat_le.mpr (Nat.div_le_div_right hle)
  · have hmicros : d.timestamp.micros = e.timestamp.micros := by rw [h]
    rw [micros_timestamp hd, micros_timestamp he] at hmicros
    exact Int.ofNat_inj.mp hmicros
  · refine eq_of_micros (normal_timestamp d) (normal_timestamp e) ?_
    rw [micros_timestamp hd, micros_timestamp he, h]

/-- The ends of the last microsecond that fits, and two times that differ in a sign. -/
theorem times_ordered_and_printed_lastMicrosecond :
    let d : Duration := ⟨9223372036854775807, 999999000, by decide⟩
    let e : Duration := ⟨9223372036854775807, 999999999, by decide⟩
    let t : Timestamp := ⟨0, 999999⟩
    (d.Fits ∧ e.Fits ∧ d.total ≤ e.total ∧ t.Normal ∧ d.timestamp.Normal)
      ∧ Keeps d ∧ (compare d.timestamp e.timestamp).isLE = true ∧ d.timestamp = e.timestamp
      ∧ compare t d.timestamp = compare t.micros d.timestamp.micros
      ∧ (⟨-1, -5⟩ : Timestamp).describe ≠ (⟨-1, 5⟩ : Timestamp).describe := by
  intro d e t
  have hbound : (9223372036854775807 : UInt64).toNat < 2 ^ 63 := by decide
  have hd : d.Fits := hbound
  have he : e.Fits := hbound
  have hle : d.total ≤ e.total := by decide
  have ht : t.Normal := ⟨by decide, by decide⟩
  have hkeeps : Keeps d := times_ordered_and_printed.1 d hd
  obtain ⟨horder, hsame⟩ := times_ordered_and_printed.2.1 d e hd he
  refine ⟨⟨hd, he, hle, ht, hkeeps.normal⟩, hkeeps, horder hle, hsame.mpr (by decide),
    times_ordered_and_printed.2.2.1 t d.timestamp ht hkeeps.normal, fun h => ?_⟩
  exact absurd (times_ordered_and_printed.2.2.2 _ _ h) (by decide)

end Timestamp

end PacketPath
