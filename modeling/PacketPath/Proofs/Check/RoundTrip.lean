import PacketPath.Proofs.Check.Datagram

set_option autoImplicit false

/-! # Built headers are read back

The builders put datagrams together field by field, and the header views take them apart at positions
of their own. What was put in is what is read, for every flow and up to the longest datagram. A length
that does not fit its field is never written: then nothing is built.
-/

namespace PacketPath

variable {e : Encoder} {flow : Flow} {number : UInt8} {n : Nat} {payload : Bytes} {t : Transport}

/-! ## IPv4 headers -/

/-- An IPv4 header has the fields that it was built with. -/
structure Ipv4Header.Describes (ip : Ipv4Header) (flow : Flow) (number : UInt8) (payloadLength : Nat) :
    Prop where
  version : ip.version = 4
  headerLength : ip.headerLength = 20
  totalLength : ip.totalLength = 20 + payloadLength
  protocol : ip.protocol = .ofNumber number
  source : ip.source = flow.source
  destination : ip.destination = flow.destination
  valid : (Checksum.compute ip.bytes).isValid = true

namespace Flow

/-- A built header has the checksum filled in that makes it valid. -/
theorem ipv4Header_valid (flow : Flow) (number : UInt8) (h : 20 + n ≤ maxDatagram) :
    ∃ x y, flow.ipv4Header number n = some (flow.headerWith number n x y)
      ∧ (Checksum.compute (flow.headerWith number n x y)).isValid = true := by
  have hvalid : (Checksum.compute ((flow.unsummedHeader number n).overlay 10
      (Checksum.compute (flow.unsummedHeader number n)).toStored.bytes)).isValid = true :=
    isValid_overlay_toStored (a := []) rfl rfl rfl
  rw [ipv4Header, if_pos h]
  exact ⟨_, _, rfl, hvalid⟩

theorem describes_headerWith {x y : UInt8} (h : 20 + n ≤ maxDatagram)
    (hvalid : (Checksum.compute (flow.headerWith number n x y)).isValid = true) :
    Ipv4Header.Describes ⟨flow.headerWith number n x y⟩ flow number n := by
  -- version four, and five words without options
  have hfirst : (flow.headerWith number n x y).byte 0 = 0x45 := rfl
  refine ⟨?_, ?_, Bytes.word_be16Bytes (Nat.lt_succ_of_le h), rfl, rfl, rfl, hvalid⟩
  · rw [Ipv4Header.version, hfirst]
    decide
  · rw [Ipv4Header.headerLength, hfirst]
    decide

/-- What comes behind a header is not looked at. -/
theorem read_headerWith {x y : UInt8} (rest : Bytes) :
    Ipv4Header.read (flow.headerWith number n x y ++ rest)
      = .ok ⟨flow.headerWith number n x y⟩ := by
  have hlen : (flow.headerWith number n x y).length = Ipv4Header.size := rfl
  have henough : 20 ≤ (flow.headerWith number n x y ++ rest).length := by
    rw [List.length_append, hlen]
    exact Nat.le_add_right _ _
  rw [Ipv4Header.read_of_le henough, Ipv4Header.front, List.take_left' hlen]

end Flow

/-! ## Transport headers -/

namespace Transport

/-- A segment starts with a header that has the fields it was built with. -/
def Describes (flow : Flow) (payloadLength : Nat) (segment : Bytes) : Transport → Prop
  | tcp => ∃ h, TcpHeader.read segment = .ok h ∧ h.sourcePort = flow.sourcePort.toNat
      ∧ h.destinationPort = flow.destinationPort.toNat ∧ h.headerLength = 20
  | udp => ∃ h, UdpHeader.read segment = .ok h ∧ h.sourcePort = flow.sourcePort.toNat
      ∧ h.destinationPort = flow.destinationPort.toNat ∧ h.length = 8 + payloadLength
      ∧ h.hasChecksum = true

/-- The payload stands behind the header, which the checksum is a part of. -/
theorem drop_segment (t : Transport) (flow : Flow) (payload : Bytes) :
    (t.segment flow payload).drop t.headerSize = payload := by
  cases t <;> rfl

theorem be16_port (port : UInt16) :
    Bytes.word (UInt8.ofNat (port.toNat / 256)) (UInt8.ofNat port.toNat) = port.toNat :=
  Bytes.word_be16Bytes port.toNat_lt

theorem describes_tcp (flow : Flow) (payload : Bytes) :
    tcp.Describes flow payload.length (tcp.segment flow payload) := by
  have hlen : 20 ≤ (tcp.segment flow payload).length := by
    rw [length_segment]
    exact Nat.le_add_right _ _
  refine ⟨_, TcpHeader.read_of_le hlen, ?_, ?_, ?_⟩
  · exact (be16_take (by decide)).trans (be16_port flow.sourcePort)
  · exact (be16_take (by decide)).trans (be16_port flow.destinationPort)
  · have hoffset : (tcp.segment flow payload).byte 12 = 0x50 := rfl
    rw [TcpHeader.headerLength_front, hoffset]
    decide

/-- The field of a sum that comes out as zero is written as its other representation. -/
theorem describes_udp (flow : Flow) (hfits : 8 + payload.length ≤ Flow.maxDatagram) :
    udp.Describes flow payload.length (udp.segment flow payload) := by
  have hlen : 8 ≤ (udp.segment flow payload).length := by
    rw [length_segment]
    exact Nat.le_add_right _ _
  refine ⟨_, UdpHeader.read_of_le hlen, ?_, ?_, ?_, ?_⟩
  · exact (be16_take (by decide)).trans (be16_port flow.sourcePort)
  · exact (be16_take (by decide)).trans (be16_port flow.destinationPort)
  · exact (be16_take (by decide)).trans (Bytes.word_be16Bytes (Nat.lt_succ_of_le hfits))
  · set field := checksumField (flow.pseudoHeader 17 (flow.unsummedUdp payload).length
      ++ flow.unsummedUdp payload) with hfield
    have hle : field ≤ 65535 := Nat.sub_le _ _
    have hstored : (if field = 0 then 65535 else field) < 65536
        ∧ (if field = 0 then 65535 else field) ≠ 0 := by
      split <;> omega
    have hword : (UdpHeader.front (udp.segment flow payload)).bytes.be16 6
        = if field = 0 then 65535 else field :=
      (be16_take (by decide)).trans (Bytes.word_be16Bytes hstored.1)
    rw [UdpHeader.hasChecksum, hword, bne_iff_ne]
    exact hstored.2

/-- A segment of either protocol, in a datagram that is not too long. -/
theorem describes_segment (t : Transport) (flow : Flow)
    (hfits : 20 + (t.headerSize + payload.length) ≤ Flow.maxDatagram) :
    t.Describes flow payload.length (t.segment flow payload) := by
  cases t with
  | tcp => exact describes_tcp flow payload
  | udp => exact describes_udp flow (Nat.le_of_add_left_le hfits)

end Transport

/-! ## Datagrams -/

/-- A datagram is built for a payload, and taken apart again: the segment stands behind the IPv4
header, and the payload behind both headers. -/
structure ReadBack (e : Encoder) (t : Transport) (flow : Flow) (payload d : Bytes) : Prop where
  built : t.packet flow payload e = some d
  header : ∃ ip, Ipv4Header.read d = .ok ip
    ∧ ip.Describes flow t.protocol.number (t.headerSize + payload.length)
    ∧ d.length = ip.totalLength
  segment : t.Describes flow payload.length (d.drop 20)
  payload : d.drop (20 + t.headerSize) = payload

/-- What is built for a flow by means of an encoder is read back. -/
structure RoundTrip (e : Encoder) (flow : Flow) : Prop where
  /-- An IPv4 header, whatever comes behind it. -/
  header : ∀ number n, 20 + n ≤ Flow.maxDatagram → ∃ ip : Ipv4Header,
    flow.ipv4Header number n = some ip.bytes ∧ ip.bytes.length = 20
      ∧ (∀ rest, Ipv4Header.read (ip.bytes ++ rest) = .ok ip) ∧ ip.Describes flow number n
  datagram : ∀ (t : Transport) (payload : Bytes),
    20 + (t.headerSize + payload.length) ≤ Flow.maxDatagram → ∃ d, ReadBack e t flow payload d
  /-- A length that does not fit is not cut off. -/
  tooLong : ∀ number n, Flow.maxDatagram < 20 + n → flow.ipv4Header number n = none
  /-- Then there is no datagram, and no packet of one, however much memory there is. -/
  notBuilt : ∀ (t : Transport) (payload : Bytes),
    Flow.maxDatagram < 20 + (t.headerSize + payload.length) → t.packet flow payload e = none
      ∧ ∀ (env : Environment) (s : Session) target, env.encoder = e →
        s.step (.make target (t.source flow payload)) env = (s, .fault)

theorem exists_readBack (he : e.Documented) (t : Transport) (flow : Flow) (payload : Bytes)
    (hfits : 20 + (t.headerSize + payload.length) ≤ Flow.maxDatagram) :
    ∃ d, ReadBack e t flow payload d := by
  obtain ⟨x, y, hheader, hvalid⟩ := flow.ipv4Header_valid t.protocol.number hfits
  have hfields := Flow.describes_headerWith hfits hvalid
  have hsegment : (t.datagramWith flow payload x y).drop 20 = t.segment flow payload :=
    List.drop_left' rfl
  refine ⟨t.datagramWith flow payload x y, ?_, ⟨_, Flow.read_headerWith _, hfields, ?_⟩, ?_, ?_⟩
  · rw [t.packet_eq he, hheader]
    rfl
  · rw [hfields.totalLength, length_datagramWith]
  · rw [hsegment]
    exact t.describes_segment flow hfits
  · rw [← List.drop_drop, hsegment, t.drop_segment]

/-- A packet of a datagram that is not built is not made. -/
theorem make_of_packet_eq_none {env : Environment} (h : t.packet flow payload env.encoder = none)
    (s : Session) (target : String) :
    s.step (.make target (t.source flow payload)) env = (s, .fault) := by
  have hmake : s.pool.make (t.source flow payload) env
      = Pool.make.orFault ((t.packet flow payload env.encoder).bind fun bytes =>
        s.pool.makeIpv4 bytes env) := by
    cases t <;> rfl
  rw [h] at hmake
  simp only [Session.step, Session.make, hmake]
  rfl

/-- **Builders and header views round-trip**, for every documented encoder, every flow, every protocol
number and every payload. -/
theorem headers_roundTrip (e : Encoder) (he : e.Documented) (flow : Flow) : RoundTrip e flow := by
  refine ⟨fun number n hfits => ?_, fun t payload hfits => exists_readBack he t flow payload hfits,
    fun number n hlong => flow.ipv4Header_tooLong number hlong, fun t payload hlong => ?_⟩
  · obtain ⟨x, y, hheader, hvalid⟩ := flow.ipv4Header_valid number hfits
    exact ⟨_, hheader, rfl, Flow.read_headerWith, Flow.describes_headerWith hfits hvalid⟩
  · have hnone := Transport.packet_tooLong he t flow hlong
    refine ⟨hnone, fun env s target henv => make_of_packet_eq_none ?_ s target⟩
    rw [henv]
    exact hnone

/-- The longest payload of a UDP datagram, and one byte more. -/
theorem headers_roundTrip_longest :
    Encoder.standard.Documented
    ∧ (∃ d ip, ({} : Flow).udpPacket (List.replicate 65507 7) = some d
      ∧ Ipv4Header.read d = .ok ip ∧ ip.totalLength = 65535 ∧ d.length = 65535
      ∧ d.drop 28 = List.replicate 65507 7)
    ∧ ({} : Flow).udpPacket (List.replicate 65508 7) = none := by
  have hbuilt := headers_roundTrip .standard Encoder.standard_documented {}
  have hlength : ∀ n, (List.replicate n (7 : UInt8)).length = n := fun n => List.length_replicate
  have hfits : 20 + (Transport.udp.headerSize + (List.replicate 65507 (7 : UInt8)).length)
      ≤ Flow.maxDatagram := by
    rw [hlength]
    decide
  have hlong : Flow.maxDatagram
      < 20 + (Transport.udp.headerSize + (List.replicate 65508 (7 : UInt8)).length) := by
    rw [hlength]
    decide
  obtain ⟨d, hd, ⟨ip, hread, hfields, htotal⟩, -, hpayload⟩ := hbuilt.datagram .udp _ hfits
  have hclaimed : ip.totalLength = 65535 := by
    rw [hfields.totalLength, hlength]
    rfl
  exact ⟨Encoder.standard_documented,
    ⟨d, ip, hd, hread, hclaimed, htotal.trans hclaimed, hpayload⟩, (hbuilt.notBuilt .udp _ hlong).1⟩

end PacketPath
