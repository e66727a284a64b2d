import PacketPath.Packet.View
import PacketPath.Proofs.Check.Fields
import PacketPath.Proofs.Checksum.Accumulator

set_option autoImplicit false

/-! # Checks with guards

In the definitions of the checks every operation is total: a byte past the end reads as zero, a
slice ends where the bytes end, a difference stops at zero, a length keeps its low sixteen bits, and
a sum wraps. Here the checks are executed once more with a guard before each of these, which stops
the execution where a machine would read outside a slice, lose bits of a number, or overflow.

No guard ever stops a check (`Guarded.verdict_eq`), whatever the bytes are and wherever the marks
lie. All that is needed of a packet is that its data end inside its buffer.
-/

namespace PacketPath

namespace Guarded

/-! ## Operations -/

/-- The byte at a position, if there is one. -/
def byte (b : Bytes) (i : Nat) : Option UInt8 := b[i]?

/-- The big-endian word at a position, if both its bytes are there. -/
def word (b : Bytes) (i : Nat) : Option Nat := do
  let high ← byte b i
  let low ← byte b (i + 1)
  return Bytes.word high low

/-- The bytes between two positions, if these are positions of the bytes. -/
def slice (b : Bytes) (first last : Nat) : Option Bytes :=
  if first ≤ last ∧ last ≤ b.length then some (b.slice first last) else none

/-- The difference, if it is not negative. -/
def minus (a b : Nat) : Option Nat := if b ≤ a then some (a - b) else none

/-- The number in sixteen bits, if it has no more. -/
def narrow (n : Nat) : Option UInt16 := if n < 65536 then some (UInt16.ofNat n) else none

/-- Adds a word, if the accumulator can hold the sum. -/
def addWord (c : Checksum) (w : UInt16) : Option Checksum :=
  if c.ready.toNat + w.toNat < 4294967296 then some (c.addWord w) else none

def addBytes (c : Checksum) : Bytes → Option Checksum
  | [] => some c
  | [x] => addWord c (Bytes.le16 x 0)
  | x :: y :: rest => do
    let c ← addWord c (Bytes.le16 x y)
    addBytes c rest

variable {b : Bytes} {i : Nat}

theorem byte_eq (h : i < b.length) : byte b i = some (b.byte i) := Bytes.getElem?_eq h

theorem word_eq (h : i + 1 < b.length) : word b i = some (b.be16 i) := by
  have hlow : i < b.length := by omega
  rw [word, byte_eq hlow, byte_eq h]
  rfl

theorem slice_eq {first last : Nat} (h₁ : first ≤ last) (h₂ : last ≤ b.length) :
    slice b first last = some (b.slice first last) := if_pos ⟨h₁, h₂⟩

theorem addWord_eq (c : Checksum) (w : UInt16) : addWord c w = some (c.addWord w) := by
  have hready := c.ready_lt
  have hw := w.toNat_lt
  exact if_pos (by omega)

/-- No sum overflows, however many bytes there are. -/
theorem addBytes_eq (c : Checksum) (b : Bytes) : addBytes c b = some (c.addBytes b) := by
  induction b using littleSum.induct generalizing c with
  | case1 => rfl
  | case2 x => exact addWord_eq c _
  | case3 x y rest ih =>
      rw [addBytes, addWord_eq]
      exact ih _

/-! ## Checks -/

/-- Whether pseudo-header and segment sum to a valid checksum, for the fixed part of an IP header and
a segment of the given length. -/
def sumVerifies (header rest : Bytes) (length : Nat) : Option Bool := do
  let source ← slice header 12 16
  let destination ← slice header 16 20
  let protocol ← byte header 9
  let length16 ← narrow length
  let segment ← slice rest 0 length
  let pseudo := source ++ destination ++ [0, protocol] ++ Bytes.be16Bytes length16.toNat
  let sum ← addBytes .zero pseudo
  let sum ← addBytes sum segment
  return sum.isValid

def checkTcp (header rest : Bytes) (verify : Bool) : Option (Except DropReason Unit) := do
  let claimed ← word header 2
  let first ← byte header 0
  let headerLength := 4 * (first &&& 0x0F).toNat
  if claimed < headerLength then return .error .badLength
  else
    let length ← minus claimed headerLength
    if rest.length < TcpHeader.size then return .error .badLength
    else
      let fixed ← slice rest 0 TcpHeader.size
      let offset ← byte fixed 12
      let dataOffset := 4 * (offset >>> 4).toNat
      if dataOffset < TcpHeader.size ∨ length < dataOffset ∨ rest.length < length then
        return .error .badLength
      else if verify then
        let valid ← sumVerifies header rest length
        return if valid then .ok () else .error .badChecksum
      else return .ok ()

def checkUdp (header rest : Bytes) (verify : Bool) : Option (Except DropReason Unit) := do
  if rest.length < UdpHeader.size then return .error .badLength
  else
    let fixed ← slice rest 0 UdpHeader.size
    let length ← word fixed 4
    if length < UdpHeader.size ∨ rest.length < length then return .error .badLength
    else
      let field ← word fixed 6
      if field ≠ 0 ∧ verify then
        let valid ← sumVerifies header rest length
        return if valid then .ok () else .error .badChecksum
      else return .ok ()

def check : Transport → Bytes → Bytes → Bool → Option (Except DropReason Unit)
  | .tcp => checkTcp
  | .udp => checkUdp

def classify (t : Transport) (verify : Bool) :
    Option (Bytes × Bytes) → Option (Except DropReason Unit)
  | none => some (.error .notProtocol)
  | some (network, rest) =>
    if network.length < Ipv4Header.size then some (.error .notProtocol)
    else do
      let header ← slice network 0 Ipv4Header.size
      let first ← byte header 0
      let protocol ← byte header 9
      if (first &&& 0xF0) >>> 4 = 4 ∧ Protocol.ofNumber protocol = t.protocol then
        check t header rest verify
      else return .error .notProtocol

/-- The bytes from the marks to the end of the data. -/
def views (p : Pool) (h : Handle) : Option (Option (Bytes × Bytes)) :=
  match h.frame.marks with
  | none => some none
  | some m => do
    let network ← slice (p.bytes h.buffer) (min m.network h.frame.stop) h.frame.stop
    let rest ← slice (p.bytes h.buffer) (min m.transport h.frame.stop) h.frame.stop
    return some (network, rest)

/-- The outcome of a check of a packet. -/
def verdict (t : Transport) (verify : Bool) (p : Pool) (h : Handle) :
    Option (Except DropReason Unit) := do
  let marked ← views p h
  classify t verify marked

/-! ## No guard stops a check -/

theorem slice_front {size : Nat} (h : size ≤ b.length) : slice b 0 size = some (b.take size) :=
  slice_eq (Nat.zero_le _) h

theorem narrow_eq {n : Nat} (h : n < 65536) : narrow n = some (UInt16.ofNat n) := if_pos h

theorem sumVerifies_eq (ip : Ipv4Header) (hh : ip.bytes.length = Ipv4Header.size) {rest : Bytes}
    {length : Nat} (hr : length ≤ rest.length) (hl : length < 65536) :
    sumVerifies ip.bytes rest length = some (Transport.sumVerifies ip (rest.take length)) := by
  rw [Ipv4Header.size] at hh
  have hsource : slice ip.bytes 12 16 = some ip.source.bytes := by
    rw [Ipv4Header.source, Ipv4Address.bytes_atPosition (by omega), slice_eq (by omega) (by omega)]
  have hdestination : slice ip.bytes 16 20 = some ip.destination.bytes := by
    rw [Ipv4Header.destination, Ipv4Address.bytes_atPosition (by omega), slice_eq (by omega) (by omega)]
  have hprotocol : byte ip.bytes 9 = some (ip.bytes.byte 9) := byte_eq (by omega)
  have hlength : (UInt16.ofNat length).toNat = (rest.take length).length := by
    rw [List.length_take_of_le hr, UInt16.toNat_ofNat']
    omega
  simp only [sumVerifies, hsource, hdestination, hprotocol, narrow_eq hl, slice_front hr, addBytes_eq,
    Option.bind_eq_bind, Option.bind_some, hlength]
  rfl

theorem checkTcp_eq (ip : Ipv4Header) (hh : ip.bytes.length = Ipv4Header.size) (rest : Bytes)
    (verify : Bool) :
    checkTcp ip.bytes rest verify = some (Transport.checkTcp ip rest verify) := by
  have hclaimed : word ip.bytes 2 = some ip.totalLength := word_eq (by rw [hh]; decide)
  have hfirst : byte ip.bytes 0 = some (ip.bytes.byte 0) := byte_eq (by rw [hh]; decide)
  have hlength : 4 * (ip.bytes.byte 0 &&& 0x0F).toNat = ip.headerLength := rfl
  have hbound : ip.totalLength < 65536 := Bytes.word_lt _ _
  simp only [checkTcp, Transport.checkTcp, hclaimed, hfirst, hlength, Option.bind_eq_bind,
    Option.bind_some]
  by_cases hneg : ip.totalLength < ip.headerLength
  · rw [if_pos hneg, if_pos hneg]
    rfl
  -- the comparison of the lengths is the guard of their difference
  rw [if_neg hneg, if_neg hneg, minus, if_pos (Nat.le_of_not_lt hneg), Option.bind_some]
  by_cases hshort : rest.length < TcpHeader.size
  · simp only [TcpHeader.read_of_lt hshort, if_pos hshort]
    rfl
  have hlong : TcpHeader.size ≤ rest.length := Nat.le_of_not_lt hshort
  set tcp := TcpHeader.front rest
  have hread : TcpHeader.read rest = .ok tcp := TcpHeader.read_of_le hlong
  have hfixed : tcp.bytes.length = TcpHeader.size := TcpHeader.length_front hlong
  have hslice : slice rest 0 TcpHeader.size = some tcp.bytes := slice_front hlong
  have hoffset : byte tcp.bytes 12 = some (tcp.bytes.byte 12) := byte_eq (by rw [hfixed]; decide)
  have hdata : 4 * (tcp.bytes.byte 12 >>> 4).toNat = tcp.headerLength := rfl
  simp only [if_neg hshort, hread, hslice, hoffset, hdata, Option.bind_some]
  split
  · rfl
  · next hlengths =>
    cases verify with
    | false => rfl
    | true =>
        -- the length is a difference of a 16-bit number, and was compared with the bytes there
        rw [sumVerifies_eq ip hh (by omega) (by omega)]
        cases Transport.sumVerifies ip _ <;> rfl

theorem checkUdp_eq (ip : Ipv4Header) (hh : ip.bytes.length = Ipv4Header.size) (rest : Bytes)
    (verify : Bool) :
    checkUdp ip.bytes rest verify = some (Transport.checkUdp ip rest verify) := by
  unfold checkUdp Transport.checkUdp
  by_cases hshort : rest.length < UdpHeader.size
  · simp only [UdpHeader.read_of_lt hshort, if_pos hshort]
    rfl
  have hlong : UdpHeader.size ≤ rest.length := Nat.le_of_not_lt hshort
  set udp := UdpHeader.front rest
  have hread : UdpHeader.read rest = .ok udp := UdpHeader.read_of_le hlong
  have hfixed : udp.bytes.length = UdpHeader.size := UdpHeader.length_front hlong
  have hslice : slice rest 0 UdpHeader.size = some udp.bytes := slice_front hlong
  have hlength : word udp.bytes 4 = some udp.length := word_eq (by rw [hfixed]; decide)
  have hfield : word udp.bytes 6 = some (udp.bytes.be16 6) := word_eq (by rw [hfixed]; decide)
  have hbound : udp.length < 65536 := Bytes.word_lt _ _
  simp only [if_neg hshort, hread, hslice, hlength, hfield, UdpHeader.hasChecksum,
    Option.bind_eq_bind, Option.bind_some]
  split
  · rfl
  · next hlengths =>
    by_cases hzero : udp.bytes.be16 6 = 0
    · simp [hzero]
    · cases verify with
      | false => simp
      | true =>
          rw [sumVerifies_eq ip hh (by omega) hbound]
          cases Transport.sumVerifies ip _ <;> simp [hzero]

theorem classify_eq (t : Transport) (verify : Bool) (marked : Option (Bytes × Bytes)) :
    classify t verify marked = some (t.classify verify marked) := by
  cases marked with
  | none => rfl
  | some marked =>
      obtain ⟨network, rest⟩ := marked
      unfold classify Transport.classify
      by_cases hshort : network.length < Ipv4Header.size
      · simp only [Ipv4Header.read_of_lt hshort, if_pos hshort]
      have hlong : Ipv4Header.size ≤ network.length := Nat.le_of_not_lt hshort
      set ip := Ipv4Header.front network
      have hread : Ipv4Header.read network = .ok ip := Ipv4Header.read_of_le hlong
      have hh : ip.bytes.length = Ipv4Header.size := Ipv4Header.length_front hlong
      have hslice : slice network 0 Ipv4Header.size = some ip.bytes := slice_front hlong
      have hfirst : byte ip.bytes 0 = some (ip.bytes.byte 0) := byte_eq (by rw [hh]; decide)
      have hprotocol : byte ip.bytes 9 = some (ip.bytes.byte 9) := byte_eq (by rw [hh]; decide)
      have hversion : (ip.bytes.byte 0 &&& 0xF0) >>> 4 = ip.version := rfl
      have hnumber : Protocol.ofNumber (ip.bytes.byte 9) = ip.protocol := rfl
      simp only [if_neg hshort, hread, hslice, hfirst, hprotocol, hversion, hnumber,
        Option.bind_eq_bind, Option.bind_some]
      split
      · cases t with
        | tcp => exact checkTcp_eq ip hh rest verify
        | udp => exact checkUdp_eq ip hh rest verify
      · rfl

/-- The header views lie inside the buffer if the data end there, wherever the marks are. -/
theorem views_eq {p : Pool} {h : Handle} (hstop : h.frame.stop ≤ p.limit h) :
    views p h = some (p.headerViews h) := by
  have hslice : ∀ pos, slice (p.bytes h.buffer) (min pos h.frame.stop) h.frame.stop
      = some ((p.bytes h.buffer).slice (min pos h.frame.stop) h.frame.stop) :=
    -- a mark past the end of the data is moved back to it
    fun pos => slice_eq (Nat.min_le_right _ _) hstop
  cases hm : h.frame.marks with
  | none => simp only [views, hm, Pool.headerViews, Pool.view?, Frame.span?, Option.map_none]
  | some m =>
      simp only [views, hm, hslice, Option.bind_eq_bind, Option.bind_some, Pool.headerViews,
        Pool.view?, Frame.span?, Option.map_some]
      rfl

/-- **No guard stops a check** of a packet whose data end inside its buffer, whatever its bytes
are. -/
theorem verdict_eq {p : Pool} {h : Handle} (hstop : h.frame.stop ≤ p.limit h) (t : Transport)
    (verify : Bool) : verdict t verify p h = some (t.classify verify (p.headerViews h)) := by
  rw [verdict, views_eq hstop, Option.bind_eq_bind, Option.bind_some, classify_eq]

end Guarded

end PacketPath
