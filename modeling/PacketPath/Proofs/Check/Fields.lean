import Mathlib.Tactic.IntervalCases
import PacketPath.Check.Transport

set_option autoImplicit false

/-! # Fields of headers as numbers

What the accessors of a header give, told from the bytes at the position where the header starts.
-/

namespace PacketPath

/-! ## Bytes and their halves -/

theorem Bytes.getElem?_eq {b : Bytes} {i : Nat} (h : i < b.length) : b[i]? = some (b.byte i) := by
  rw [Bytes.byte, List.getD_eq_getElem?_getD, List.getElem?_eq_getElem h, Option.getD_some]

theorem be16_take {b : Bytes} {size i : Nat} (h : i + 1 < size) :
    Bytes.be16 (b.take size) i = b.be16 i := by
  rw [Bytes.be16, Bytes.be16, byte_take (by omega), byte_take h]

theorem toNat_high (x : UInt8) : (x >>> 4).toNat = x.toNat / 16 := by
  rw [UInt8.toNat_shiftRight]
  exact Nat.shiftRight_eq_div_pow x.toNat 4

theorem toNat_low (x : UInt8) : (x &&& 0x0F).toNat = x.toNat % 16 := by
  rw [UInt8.toNat_and]
  exact Nat.and_two_pow_sub_one_eq_mod x.toNat 4

theorem toNat_masked_high (x : UInt8) : ((x &&& 0xF0) >>> 4).toNat = x.toNat / 16 := by
  have hx := x.toNat_lt
  calc ((x &&& 0xF0) >>> 4).toNat
      _ = (x.toNat &&& 0xF0) >>> 4 := by rw [UInt8.toNat_shiftRight, UInt8.toNat_and]; rfl
      _ = x.toNat >>> 4 &&& 15 := Nat.shiftRight_and_distrib
      _ = x.toNat / 16 % 16 := by
          rw [Nat.shiftRight_eq_div_pow]
          exact Nat.and_two_pow_sub_one_eq_mod _ 4
      _ = x.toNat / 16 := by omega

/-! ## Reading off the front -/

variable {b : Bytes}

theorem readFront_of_le {size : Nat} (h : size ≤ b.length) : readFront size b = .ok (b.take size) :=
  if_neg (Nat.not_lt.mpr h)

theorem readFront_of_lt {size : Nat} (h : b.length < size) :
    readFront size b = .error (.notEnoughBytes size b.length) := if_pos h

/-! ## IPv4 headers -/

/-- The four bytes of an address. -/
theorem Ipv4Address.bytes_atPosition {i : Nat} (h : i + 4 ≤ b.length) :
    (Ipv4Address.atPosition b i).bytes = b.slice i (i + 4) := by
  have hbyte : ∀ j, j < 4 → b[i + j]? = some (b.byte (i + j)) := by
    intro j hj
    exact Bytes.getElem?_eq (by omega)
  refine List.ext_getElem? fun j => ?_
  have hlen : (b.slice i (i + 4)).length = 4 := by
    rw [Bytes.length_slice h]
    omega
  by_cases hj : j < 4
  · have hslice : (b.slice i (i + 4))[j]? = some (b.byte (i + j)) := by
      rw [Bytes.slice, List.getElem?_drop, List.getElem?_take_of_lt (by omega), hbyte j hj]
    rw [hslice]
    interval_cases j <;> rfl
  · have hge : 4 ≤ j := Nat.le_of_not_lt hj
    have hbytes : (Ipv4Address.atPosition b i).bytes.length = 4 := rfl
    rw [List.getElem?_eq_none (by omega), List.getElem?_eq_none (by omega)]

namespace Ipv4Header

variable {nh : Bytes}

/-- The fixed part of a header, with whatever comes behind it. -/
def front (nh : Bytes) : Ipv4Header := ⟨nh.take size⟩

theorem read_of_le (h : 20 ≤ nh.length) : read nh = .ok (front nh) := by
  rw [read, readFront_of_le (show size ≤ nh.length from h)]
  rfl

theorem read_of_lt (h : nh.length < 20) : read nh = .error (.notEnoughBytes size nh.length) := by
  rw [read, readFront_of_lt (show nh.length < size from h)]
  rfl

theorem length_front (h : 20 ≤ nh.length) : (front nh).bytes.length = size :=
  List.length_take_of_le h

theorem version_front (nh : Bytes) : (front nh).version = 4 ↔ (nh.byte 0).toNat / 16 = 4 := by
  rw [version, front, byte_take (by decide), ← UInt8.toNat_inj, toNat_masked_high]
  rfl

theorem protocol_front (nh : Bytes) (t : Transport) :
    (front nh).protocol = t.protocol ↔ nh.byte 9 = t.protocol.number := by
  rw [protocol, front, byte_take (by decide)]
  constructor
  · intro h
    rw [← h, Protocol.number_ofNumber]
  · -- the number of a checked protocol is read as that protocol, not as an unknown one
    intro h
    rw [h]
    cases t <;> rfl

theorem totalLength_front (nh : Bytes) : (front nh).totalLength = nh.be16 2 := be16_take (by decide)

theorem headerLength_front (nh : Bytes) :
    (front nh).headerLength = 4 * ((nh.byte 0).toNat % 16) := by
  rw [headerLength, front, byte_take (by decide), toNat_low]

theorem pseudoHeader_front (h : 20 ≤ nh.length) (length : Nat) :
    (front nh).pseudoHeader length
      = nh.slice 12 16 ++ nh.slice 16 20 ++ [0, nh.byte 9] ++ Bytes.be16Bytes length := by
  have hbyte : ∀ i, i < 20 → Bytes.byte (nh.take 20) i = nh.byte i := fun i hi => byte_take hi
  have haddress : ∀ i, i + 4 ≤ 20 →
      (Ipv4Address.atPosition (nh.take 20) i).bytes = nh.slice i (i + 4) := by
    intro i hi
    rw [← Ipv4Address.bytes_atPosition (by omega)]
    simp only [Ipv4Address.atPosition, hbyte i (by omega), hbyte (i + 1) (by omega),
      hbyte (i + 2) (by omega), hbyte (i + 3) (by omega)]
  rw [← haddress 12 (by omega), ← haddress 16 (by omega), ← hbyte 9 (by omega)]
  rfl

theorem length_pseudoHeader (ip : Ipv4Header) (length : Nat) :
    (ip.pseudoHeader length).length = 12 := by
  simp only [pseudoHeader, List.length_append, Ipv4Address.bytes, Bytes.be16Bytes, List.length_cons,
    List.length_nil]

end Ipv4Header

/-! ## TCP and UDP headers -/

namespace TcpHeader

variable {l4 : Bytes}

/-- The fixed part of a header, with whatever comes behind it. -/
def front (l4 : Bytes) : TcpHeader := ⟨l4.take size⟩

theorem read_of_le (h : 20 ≤ l4.length) : read l4 = .ok (front l4) := by
  rw [read, readFront_of_le (show size ≤ l4.length from h)]
  rfl

theorem read_of_lt (h : l4.length < 20) : read l4 = .error (.notEnoughBytes size l4.length) := by
  rw [read, readFront_of_lt (show l4.length < size from h)]
  rfl

theorem length_front (h : 20 ≤ l4.length) : (front l4).bytes.length = size :=
  List.length_take_of_le h

theorem headerLength_front (l4 : Bytes) :
    (front l4).headerLength = 4 * ((l4.byte 12).toNat / 16) := by
  rw [headerLength, front, byte_take (by decide), toNat_high]

end TcpHeader

namespace UdpHeader

variable {l4 : Bytes}

/-- The header, with whatever comes behind it. -/
def front (l4 : Bytes) : UdpHeader := ⟨l4.take size⟩

theorem read_of_le (h : 8 ≤ l4.length) : read l4 = .ok (front l4) := by
  rw [read, readFront_of_le (show size ≤ l4.length from h)]
  rfl

theorem read_of_lt (h : l4.length < 8) : read l4 = .error (.notEnoughBytes size l4.length) := by
  rw [read, readFront_of_lt (show l4.length < size from h)]
  rfl

theorem length_front (h : 8 ≤ l4.length) : (front l4).bytes.length = size :=
  List.length_take_of_le h

theorem length_field_front (l4 : Bytes) : (front l4).length = l4.be16 4 := be16_take (by decide)

theorem hasChecksum_front (l4 : Bytes) :
    (front l4).hasChecksum = true ↔ ¬ (l4.byte 6 = 0 ∧ l4.byte 7 = 0) := by
  have hfield : (front l4).bytes.be16 6 = l4.be16 6 := be16_take (by decide)
  have hword : l4.be16 6 = (l4.byte 6).toNat * 256 + (l4.byte 7).toNat := rfl
  have hzero : l4.be16 6 = 0 ↔ l4.byte 6 = 0 ∧ l4.byte 7 = 0 := by
    rw [← UInt8.toNat_inj, ← UInt8.toNat_inj, UInt8.toNat_zero]
    omega
  rw [hasChecksum, hfield, bne_iff_ne, ne_eq, hzero]

end UdpHeader

end PacketPath
