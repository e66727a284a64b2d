import PacketPath.Proofs.Bytes
import PacketPath.Proofs.Check.Verdict
import PacketPath.Proofs.Checksum.NetworkOrder
import PacketPath.Proofs.DeepCopy.Standing
import PacketPath.Proofs.Session.Encoding

set_option autoImplicit false

/-! # Built datagrams pass their checks

The builders write lengths and checksums by one reading of the header formats, and the checkers read
them by another. The two agree for every flow and every payload that fits in a datagram: the lengths
add up, and the sum of pseudo-header and segment verifies, since the checksum field was filled in to
make it so (`Completes`). Of the encoder that writes the transport headers nothing is known but that
it is a documented one.

A link-layer header is put in front of the marks, and taken off again, without moving the bytes that
a checker looks at.
-/

namespace PacketPath

variable {flow : Flow} {payload l4 : Bytes} {number : UInt8} {field sum : Nat} {t : Transport}

/-! ## Checksum fields -/

/-- Added to a sum, the field gives one that verifies. -/
structure Completes (field sum : Nat) : Prop where
  le : field ≤ 65535
  pos : 0 < sum + field
  mod : (sum + field) % 65535 = 0

theorem completes_checksumField (b : Bytes) : Completes (checksumField b) (wordSum b) := by
  have hle := residue_le (wordSum b)
  have hmod := residue_mod (wordSum b)
  have hzero : residue (wordSum b) = 0 ↔ wordSum b = 0 := residue_eq_zero_iff
  constructor <;> simp only [checksumField] <;> omega

/-- Zero may be stored as its other representation. -/
theorem Completes.ne_zero (h : Completes field sum) :
    Completes (if field = 0 then 65535 else field) sum := by
  obtain ⟨hle, hpos, hmod⟩ := h
  split
  · constructor <;> omega
  · exact ⟨hle, hpos, hmod⟩

/-- Behind an even number of bytes, a segment verifies once its checksum is filled in. -/
theorem Completes.ringSum_overlay {a segment : Bytes} {pos : Nat}
    (h : Completes field (wordSum (a ++ segment))) (ha : a.length % 2 = 0) (hpos : pos % 2 = 0)
    (hzero : segment.slice pos (pos + 2) = [0, 0]) :
    ringSum (a ++ segment.overlay pos (Bytes.be16Bytes field)) = 0xFFFF := by
  obtain ⟨hle, hnonzero, hmod⟩ := h
  have hfield : field < 65536 := by omega
  have hsum : wordSum (a ++ segment.overlay pos (Bytes.be16Bytes field))
      = wordSum (a ++ segment) + field := by
    rw [wordSum_append ha, wordSum_append ha, Bytes.be16Bytes, wordSum_overlay hpos hzero,
      Bytes.word_be16Bytes hfield, Nat.add_assoc]
  rw [ringSum_eq_max_iff, hsum]
  exact ⟨hnonzero, hmod⟩

/-! ## The builders of both protocols -/

/-- What the transport checksum of a flow covers besides the segment. -/
def Flow.pseudoHeader (flow : Flow) (number : UInt8) (length : Nat) : Bytes :=
  PacketPath.pseudoHeader flow.source flow.destination number length

theorem Flow.length_pseudoHeader (flow : Flow) (number : UInt8) (length : Nat) :
    (flow.pseudoHeader number length).length = 12 := rfl

namespace Transport

/-- The size of a transport header without options. -/
def headerSize : Transport → Nat
  | tcp => 20
  | udp => 8

/-- The segment that is built for a payload. -/
def segment : Transport → Flow → Bytes → Bytes
  | tcp, flow, payload => withTcpChecksum flow.source flow.destination (flow.unsummedTcp payload)
  | udp, flow, payload => withUdpChecksum flow.source flow.destination (flow.unsummedUdp payload)

/-- The datagram that is built for a payload, if it is not too long. -/
def packet (t : Transport) (flow : Flow) (payload : Bytes) (e : Encoder := .standard) :
    Option Bytes :=
  match t with
  | tcp => flow.tcpPacket payload e
  | udp => flow.udpPacket payload e

/-- The order for a packet of a flow. -/
def source : Transport → Flow → Bytes → Source
  | tcp, flow, payload => .tcp flow payload
  | udp, flow, payload => .udp flow payload

/-- Before its checksum is filled in. -/
def unsummed : Transport → Flow → Bytes → Bytes
  | tcp, flow, payload => flow.unsummedTcp payload
  | udp, flow, payload => flow.unsummedUdp payload

/-- The position of the checksum in a segment. -/
def checksumPosition : Transport → Nat
  | tcp => 16
  | udp => 6

theorem packet_eq {e : Encoder} (he : e.Documented) (t : Transport) (flow : Flow)
    (payload : Bytes) :
    t.packet flow payload e
      = (flow.ipv4Header t.protocol.number (t.headerSize + payload.length)).map
        (· ++ t.segment flow payload) := by
  cases t with
  | tcp => exact Flow.tcpPacket_eq he flow payload
  | udp => exact Flow.udpPacket_eq he flow payload

theorem packet_tooLong {e : Encoder} (he : e.Documented) (t : Transport) (flow : Flow)
    (h : Flow.maxDatagram < 20 + (t.headerSize + payload.length)) :
    t.packet flow payload e = none := by
  rw [packet_eq he, flow.ipv4Header_tooLong _ h, Option.map_none]

theorem length_unsummed (t : Transport) (flow : Flow) (payload : Bytes) :
    (t.unsummed flow payload).length = t.headerSize + payload.length := by
  cases t with
  | tcp =>
      simp only [unsummed, Flow.unsummedTcp, List.length_append]
      rfl
  | udp =>
      simp only [unsummed, Flow.unsummedUdp, List.length_append]
      rfl

/-- A segment has a field filled in that completes the sum. -/
theorem segment_eq (t : Transport) (flow : Flow) (payload : Bytes) :
    ∃ field, Completes field (wordSum (flow.pseudoHeader t.protocol.number
        (t.unsummed flow payload).length ++ t.unsummed flow payload))
      ∧ t.segment flow payload
        = (t.unsummed flow payload).overlay t.checksumPosition (Bytes.be16Bytes field) := by
  cases t with
  | tcp => exact ⟨_, completes_checksumField _, rfl⟩
  | udp => exact ⟨_, (completes_checksumField _).ne_zero, rfl⟩

theorem length_segment (t : Transport) (flow : Flow) (payload : Bytes) :
    (t.segment flow payload).length = t.headerSize + payload.length := by
  obtain ⟨field, -, hsegment⟩ := t.segment_eq flow payload
  have hroom : t.checksumPosition + 2 ≤ (t.unsummed flow payload).length := by
    rw [length_unsummed]
    cases t <;> simp only [checksumPosition, headerSize] <;> omega
  rw [hsegment, Bytes.length_overlay hroom, length_unsummed]

theorem ringSum_segment (t : Transport) (flow : Flow) (payload : Bytes) :
    ringSum (flow.pseudoHeader t.protocol.number (t.segment flow payload).length
      ++ t.segment flow payload) = 0xFFFF := by
  obtain ⟨field, hcompletes, hsegment⟩ := t.segment_eq flow payload
  have hzero : (t.unsummed flow payload).slice t.checksumPosition (t.checksumPosition + 2)
      = [0, 0] := by
    cases t <;> rfl
  have heven : t.checksumPosition % 2 = 0 := by
    cases t <;> rfl
  -- the builder summed a segment of the same length with the field still zero
  rw [length_segment, ← length_unsummed t flow, hsegment]
  exact hcompletes.ringSum_overlay (by rw [Flow.length_pseudoHeader]) heven hzero

end Transport

/-! ## What a checker reads of a datagram -/

namespace Flow

/-- An IPv4 header with any checksum. -/
def headerWith (flow : Flow) (number : UInt8) (payloadLength : Nat) (x y : UInt8) : Bytes :=
  [0x45, 0] ++ Bytes.be16Bytes (20 + payloadLength) ++ [0, 1, 0x40, 0, 64, number, x, y]
    ++ flow.source.bytes ++ flow.destination.bytes

theorem ipv4Header_eq (flow : Flow) (number : UInt8) {n : Nat} (h : 20 + n ≤ maxDatagram) :
    ∃ x y, flow.ipv4Header number n = some (flow.headerWith number n x y) := by
  rw [ipv4Header, if_pos h]
  exact ⟨_, _, rfl⟩

end Flow

/-- What is built for a payload, with any checksum in the IPv4 header. -/
def Transport.datagramWith (t : Transport) (flow : Flow) (payload : Bytes) (x y : UInt8) : Bytes :=
  flow.headerWith t.protocol.number (t.headerSize + payload.length) x y ++ t.segment flow payload

section

variable {x y : UInt8} {verify : Bool}

theorem length_datagramWith (t : Transport) (flow : Flow) (payload : Bytes) (x y : UInt8) :
    (t.datagramWith flow payload x y).length = 20 + (t.headerSize + payload.length) := by
  rw [Transport.datagramWith, List.length_append, Transport.length_segment]
  rfl

theorem tcpLength_datagramWith
    (hfits : 20 + (t.headerSize + payload.length) ≤ Flow.maxDatagram) :
    tcpLength (t.datagramWith flow payload x y) = t.headerSize + payload.length := by
  have hword : 20 + (t.headerSize + payload.length) < 65536 := Nat.lt_succ_of_le hfits
  have htotal : (t.datagramWith flow payload x y).be16 2 = 20 + (t.headerSize + payload.length) :=
    Bytes.word_be16Bytes hword
  have hfirst : (t.datagramWith flow payload x y).byte 0 = 0x45 := rfl
  have hwords : ((0x45 : UInt8).toNat : Int) % 16 = 5 := rfl
  rw [tcpLength, htotal, hfirst, hwords]
  omega

theorem notCarried_datagramWith :
    NotCarried number (some (t.datagramWith flow payload x y, l4))
      ↔ number ≠ t.protocol.number := by
  have hlen : ¬ (t.datagramWith flow payload x y).length < 20 := by
    rw [length_datagramWith]
    omega
  have hfirst : (t.datagramWith flow payload x y).byte 0 = 0x45 := rfl
  have hnumber : (t.datagramWith flow payload x y).byte 9 = t.protocol.number := rfl
  simp only [NotCarried, hlen, hfirst, hnumber, false_or]
  have hversion : ¬ (0x45 : UInt8).toNat / 16 ≠ 4 := by decide
  simp only [hversion, false_or]
  exact ne_comm

/-- What is summed is what the builder summed. -/
theorem not_sumFails_datagramWith {length : Nat}
    (hlength : length = (t.segment flow payload).length) :
    ¬ SumFails t.protocol.number (t.datagramWith flow payload x y) (t.segment flow payload)
      length := by
  subst hlength
  rw [SumFails, List.take_length]
  exact not_not.mpr (t.ringSum_segment flow payload)

theorem tcpSegment_good (flow : Flow) (x y : UInt8)
    (hfits : 20 + (20 + payload.length) ≤ Flow.maxDatagram) :
    let views :=
      some (Transport.tcp.datagramWith flow payload x y, Transport.tcp.segment flow payload)
    ¬ TcpBadLength views ∧ ¬ TcpBadSum views := by
  have hlen : (Transport.tcp.segment flow payload).length = 20 + payload.length :=
    Transport.tcp.length_segment flow payload
  have hclaimed : tcpLength (Transport.tcp.datagramWith flow payload x y)
      = (20 : Nat) + payload.length := tcpLength_datagramWith hfits
  have hbyte : (Transport.tcp.segment flow payload).byte 12 = 0x50 := rfl
  have hoffset : tcpOffset (Transport.tcp.segment flow payload) = 20 := by
    rw [tcpOffset, hbyte]
    rfl
  constructor
  · simp only [TcpBadLength, hclaimed, hoffset, hlen]
    omega
  · exact not_sumFails_datagramWith (by rw [hclaimed, hlen]; rfl)

theorem udpDatagram_good (flow : Flow) (x y : UInt8)
    (hfits : 20 + (8 + payload.length) ≤ Flow.maxDatagram) :
    let views :=
      some (Transport.udp.datagramWith flow payload x y, Transport.udp.segment flow payload)
    ¬ UdpBadLength views ∧ ¬ UdpBadSum views := by
  have hlen : (Transport.udp.segment flow payload).length = 8 + payload.length :=
    Transport.udp.length_segment flow payload
  have hword : 8 + payload.length < 65536 := by
    simp only [Flow.maxDatagram] at hfits
    omega
  have hfield : (Transport.udp.segment flow payload).be16 4 = 8 + payload.length :=
    Bytes.word_be16Bytes hword
  constructor
  · simp only [UdpBadLength, hfield, hlen]
    omega
  · exact fun hbad => not_sumFails_datagramWith (by rw [hfield, hlen]) hbad.2

/-- A checker for the protocol passes what is built, and a checker for another one refuses it. -/
theorem classify_datagramWith (hfits : 20 + (t.headerSize + payload.length) ≤ Flow.maxDatagram)
    (t' : Transport) :
    t'.classify verify (some (t.datagramWith flow payload x y, t.segment flow payload))
      = if t' = t then .ok () else .error .notProtocol := by
  by_cases ht : t' = t
  · subst ht
    have hcarried : ¬ NotCarried t'.protocol.number
        (some (t'.datagramWith flow payload x y, t'.segment flow payload)) := by
      rw [notCarried_datagramWith]
      exact not_not.mpr rfl
    rw [if_pos rfl]
    cases t' with
    | tcp =>
        obtain ⟨hlengths, hsum⟩ := tcpSegment_good flow x y hfits
        exact (classify_tcp verify _).ok_iff.mpr ⟨hcarried, hlengths, fun h => hsum h.2⟩
    | udp =>
        obtain ⟨hlengths, hsum⟩ := udpDatagram_good flow x y hfits
        exact (classify_udp verify _).ok_iff.mpr ⟨hcarried, hlengths, fun h => hsum h.2⟩
  · have hother : t'.protocol.number ≠ t.protocol.number := by
      cases t <;> cases t' <;> simp_all [Transport.protocol, Protocol.number]
    rw [if_neg ht]
    exact classify_of_notCarried (notCarried_datagramWith.mpr hother)

end

/-! ## The packets that are built -/

namespace Owned

/-- The bytes from each mark to the end of the data. -/
def headers (o : Owned) : Option (Bytes × Bytes) :=
  o.frame.marks.map fun m =>
    (o.bytes.slice m.network o.frame.stop, o.bytes.slice m.transport o.frame.stop)

/-- A packet with a datagram marked between other bytes, of which the last ones before it may be
data. -/
def holding (before d behind : Bytes) (start : Nat) : Owned where
  bytes := before ++ d ++ behind
  frame := ⟨start, before.length + d.length, some ⟨before.length, before.length + 20⟩⟩

/-- The data of such a packet. -/
theorem data_holding (before front d behind : Bytes) :
    (holding (before ++ front) d behind before.length).data = front ++ d := by
  have hbetween := Bytes.slice_between before (front ++ d) behind
  have hstop : (before ++ front).length + d.length = before.length + (front ++ d).length := by
    rw [List.length_append, List.length_append, Nat.add_assoc]
  rw [Owned.data, holding, hstop, List.append_assoc before front d]
  exact hbetween

theorem headers_holding (before d behind : Bytes) (start : Nat) :
    (holding before d behind start).headers = some (d, d.drop 20) := by
  have hall := Bytes.slice_between before d behind
  have hrest : (before ++ d ++ behind).slice (before.length + 20) (before.length + d.length)
      = d.drop 20 := by
    rw [Bytes.slice, ← List.drop_drop]
    exact congrArg (List.drop 20) hall
  show some ((before ++ d ++ behind).slice before.length (before.length + d.length),
    (before ++ d ++ behind).slice (before.length + 20) (before.length + d.length)) = _
  rw [hall, hrest]

/-- A datagram is copied behind room for a link-layer header. -/
theorem datagram_eq {d : Bytes} (hfirst : d.head? = some 0x45) (hlen : 20 ≤ d.length)
    (hfits : d.length ≤ Flow.maxDatagram) :
    ∃ n, Owned.datagram d = some (holding (Bytes.zeros 28) d (Bytes.zeros n) 28)
      ∧ 28 + d.length + n ≤ maxBuffer := by
  cases d with
  | nil => cases hfirst
  | cons first rest =>
      obtain rfl : first = 0x45 := Option.some.inj hfirst
      set length := (0x45 :: rest : Bytes).length with hlength
      have hsize : allocationSize [28, length, 0] = .ok (28 + length) := by
        rw [allocationSize_three, if_pos, Nat.add_zero]
        simp only [Flow.maxDatagram, maxBuffer] at hfits ⊢
        omega
      -- the first byte says that the header has no options
      have hwords : 4 * ((0x45 : UInt8) &&& 0x0F).toNat = 20 := by decide
      have hmark : Frame.markHeader ⟨28, 28 + length, none⟩ 0 20
          = .ok ⟨28, 28 + length, some ⟨28, 28 + 20⟩⟩ := by
        rw [Frame.markHeader, if_pos]
        simp only [Frame.length]
        omega
      refine ⟨max (28 + length) minBuffer - (28 + length), ?_, ?_⟩
      · simp only [Owned.datagram, Owned.copy, ← hlength, hsize, hwords, defaultHeadroom, hmark,
          holding, Bytes.length_zeros]
      · simp only [Flow.maxDatagram, maxBuffer, minBuffer] at hfits ⊢
        omega

theorem encapsulate_holding (d behind : Bytes) :
    (holding (Bytes.zeros 28) d behind 28).resize .encapsulate
      = .ok (holding (Bytes.zeros 14 ++ ethernetHeader) d behind 14) := by
  have hpush : (holding (Bytes.zeros 28) d behind 28).push ethernetHeader.length
      = .ok (holding (Bytes.zeros 28) d behind 14) := rfl
  have hroom : 0 + ethernetHeader.length ≤ 28 + d.length - 14 := by
    show 0 + 14 ≤ _
    omega
  have hwrite :
      ((holding (Bytes.zeros 28) d behind 14).setWritable true).write .data 0 ethernetHeader
        = .ok ((holding (Bytes.zeros 14 ++ ethernetHeader) d behind 14).setWritable true) :=
    if_pos hroom
  show patched (((holding (Bytes.zeros 28) d behind 28).push ethernetHeader.length).map
    (·.setWritable true)) 0 ethernetHeader = _
  rw [hpush]
  simp only [patched, Except.map, hwrite]
  rfl

theorem pull_holding (d behind : Bytes) :
    (holding (Bytes.zeros 14 ++ ethernetHeader) d behind 14).adjust (.pull ethernetHeader.length)
      = .ok (holding (Bytes.zeros 14 ++ ethernetHeader) d behind 28) := by
  have hroom : 14 ≤ 28 + d.length - 14 := by omega
  have hpull : Frame.pull ⟨14, 28 + d.length, some ⟨28, 48⟩⟩ 14
      = .ok ⟨28, 28 + d.length, some ⟨28, 48⟩⟩ := if_pos hroom
  show (Adjustment.apply ⟨14, 28 + d.length, some ⟨28, 48⟩⟩ _ (.pull 14)).map _ = _
  rw [Adjustment.apply, hpull]
  rfl

end Owned

/-! ## Packets in a session -/

namespace Session

variable {s : Session} {packet : String} {o : Owned}

/-- Every checker for the protocol forwards the packet under a name, and every other one refuses it
because of its protocol. -/
structure Recognized (s : Session) (t : Transport) (packet : String) : Prop where
  verdict : ∃ h, s.packets.find? packet = some h ∧ ∀ c : Checker,
    (c.validate (s.pool.headerViews h)).verdict
      = if c.transport = t then .ok () else .error .notProtocol
  processed : ∀ checker c, s.checkers.find? checker = some c → ∃ log after,
    (s.step (.process checker packet)).2 = .processed (decide (c.transport = t)) log after

/-- The packet under a name has these data bytes. -/
def Shows (s : Session) (packet : String) (data : Bytes) : Prop :=
  (s.view packet).map (·.data) = some data

theorem StandsFor.shows {data : Bytes} (hp : s.StandsFor packet o) (ho : o.data = data) :
    s.Shows packet data := by
  obtain ⟨h, hf, rfl⟩ := hp
  rw [Shows, view, hf]
  exact congrArg some ho

theorem StandsFor.recognized {x y : UInt8} (hp : s.StandsFor packet o)
    (hfits : 20 + (t.headerSize + payload.length) ≤ Flow.maxDatagram)
    (ho : o.headers = some (t.datagramWith flow payload x y, t.segment flow payload)) :
    s.Recognized t packet := by
  obtain ⟨h, hf, rfl⟩ := hp
  have hverdict : ∀ c : Checker, (c.validate (s.pool.headerViews h)).verdict
      = if c.transport = t then .ok () else .error .notProtocol := by
    intro c
    have hviews : s.pool.headerViews h
        = some (t.datagramWith flow payload x y, t.segment flow payload) :=
      (s.pool.headerViews_eq h).trans ho
    rw [verdict_validate, hviews, classify_datagramWith hfits]
  refine ⟨⟨h, hf, hverdict⟩, fun checker c hc => ?_⟩
  have hc' := hverdict c
  by_cases ht : c.transport = t
  · rw [if_pos ht] at hc'
    have hrun : (c.validateTimes (s.pool.headerViews h) 0).verdict = .ok () := hc'
    simp only [Session.step, Session.process, withChecker, hc, withPacket_some hf, hrun,
      decide_eq_true ht]
    exact ⟨_, _, rfl⟩
  · rw [if_neg ht] at hc'
    have hrun : (c.validateTimes (s.pool.headerViews h) 0).verdict = .error .notProtocol := hc'
    simp only [Session.step, Session.process, withChecker, hc, withPacket_some hf, hrun,
      decide_eq_false ht]
    exact ⟨_, _, rfl⟩

end Session

theorem packet_eq_some {x y : UInt8}
    (hheader : flow.ipv4Header t.protocol.number (t.headerSize + payload.length)
      = some (flow.headerWith t.protocol.number (t.headerSize + payload.length) x y))
    {e : Encoder} (he : e.Documented) :
    t.packet flow payload e = some (t.datagramWith flow payload x y) := by
  rw [Transport.packet_eq he, hheader]
  rfl

/-- What is built for a payload is a datagram, if it is not too long. -/
theorem Owned.make_source (flow : Flow)
    (hfits : 20 + (t.headerSize + payload.length) ≤ Flow.maxDatagram) :
    ∃ x y n, (∀ {e : Encoder}, e.Documented →
        t.packet flow payload e = some (t.datagramWith flow payload x y))
      ∧ Owned.make (t.source flow payload)
        = .ok (Owned.holding (Bytes.zeros 28) (t.datagramWith flow payload x y) (Bytes.zeros n) 28)
      ∧ 28 + (t.datagramWith flow payload x y).length + n ≤ maxBuffer := by
  obtain ⟨x, y, hheader⟩ := flow.ipv4Header_eq t.protocol.number hfits
  have hlen := length_datagramWith t flow payload x y
  obtain ⟨n, hn, hmax⟩ : ∃ n, Owned.datagram (t.datagramWith flow payload x y) = some _ ∧ _ :=
    Owned.datagram_eq rfl (by omega) (by omega)
  have hmake : Owned.make (t.source flow payload)
      = Owned.make.orFault ((t.packet flow payload).bind Owned.datagram) := by
    cases t <;> rfl
  refine ⟨x, y, n, packet_eq_some hheader, ?_, hmax⟩
  rw [hmake, packet_eq_some hheader Encoder.standard_documented, Option.bind_some, hn]
  rfl

/-- **Builders and checkers agree.** Whatever has happened before, and whichever documented encoder is
used: for a flow and a payload that fits in a datagram, a packet of this datagram is made and
recognized. The checkers for its protocol forward it, whether or not they verify checksums, and the
others refuse it because of its protocol. That does not change when an Ethernet header is put in
front of it, nor when that header is pulled off again. -/
theorem built_packet_recognized (e : Encoder) (he : e.Documented) (t : Transport) (flow : Flow)
    (payload : Bytes) (hfits : 20 + (t.headerSize + payload.length) ≤ Flow.maxDatagram)
    (cs : List Command) (target : String) :
    let s := ({} : Session).run cs (.ofEncoder e)
    let made := s.step (.make target (t.source flow payload)) (.ofEncoder e)
    let framed := made.1.step (.resize target .encapsulate) (.ofEncoder e)
    let pulled := framed.1.step (.adjust target (.pull ethernetHeader.length)) (.ofEncoder e)
    ∃ d, t.packet flow payload e = some d
      ∧ (made.2 = .done ∧ made.1.Shows target d ∧ made.1.Recognized t target)
      ∧ ((∃ elsewhere, framed.2 = .moved elsewhere) ∧ framed.1.Shows target (ethernetHeader ++ d)
        ∧ framed.1.Recognized t target)
      ∧ (pulled.2 = .done ∧ pulled.1.Shows target d ∧ pulled.1.Recognized t target) := by
  intro s made framed pulled
  have hs : (({} : Session).run cs).Sound := Session.sound_empty.run cs
  obtain ⟨x, y, n, hbuilt, hmake, hmax⟩ := Owned.make_source flow hfits
  have hlimit : (Owned.holding (Bytes.zeros 28) (t.datagramWith flow payload x y)
      (Bytes.zeros n) 28).bytes.length ≤ maxBuffer := by
    simp only [Owned.holding, List.length_append, Bytes.length_zeros]
    exact hmax
  -- what a documented encoder does, the standard one does
  have hrun : s = ({} : Session).run cs := Session.run_ofEncoder he Session.sound_empty cs
  have hmade_eq : made = (({} : Session).run cs).step (.make target (t.source flow payload)) := by
    simp only [made, hrun, Session.step_ofEncoder he hs]
  have hmade := Session.standsFor_make hs hmake target
  rw [← hmade_eq] at hmade
  have hmade_sound : made.1.Sound := hmade_eq ▸ hs.step _
  have hframed_eq : framed = made.1.step (.resize target .encapsulate) :=
    Session.step_ofEncoder he hmade_sound _
  have hencapsulate := Owned.encapsulate_holding (t.datagramWith flow payload x y) (Bytes.zeros n)
  have hframed := hmade.resize hmade_sound hlimit hencapsulate
  rw [← hframed_eq] at hframed
  have hpull := Owned.pull_holding (t.datagramWith flow payload x y) (Bytes.zeros n)
  have hpulled := hframed.adjust hpull
  refine ⟨_, hbuilt he, ⟨?_, ?_, ?_⟩, ⟨?_, ?_, ?_⟩, ?_, ?_, ?_⟩
  · rw [hmade_eq]
    exact Session.done_make hmake target
  · exact hmade.shows (Owned.data_holding (Bytes.zeros 28) [] _ _)
  · exact hmade.recognized hfits (Owned.headers_holding _ _ _ _)
  · rw [hframed_eq]
    exact hmade.moved_resize hmade_sound hlimit hencapsulate
  · exact hframed.shows (Owned.data_holding (Bytes.zeros 14) ethernetHeader _ _)
  · exact hframed.recognized hfits (Owned.headers_holding _ _ _ _)
  · exact hframed.done_adjust hpull
  · exact hpulled.shows (Owned.data_holding (Bytes.zeros 14 ++ ethernetHeader) [] _ _)
  · exact hpulled.recognized hfits (Owned.headers_holding _ _ _ _)

/-- With the standard encoder, in a session in which the name of the packet is taken by another one
that shares its buffer. -/
theorem built_packet_recognized_udp :
    let cs : List Command := [.make "p" (.region "r" [1, 2]), .clone "p" "q"]
    let s := ({} : Session).run cs (.ofEncoder .standard)
    let made := s.step (.make "p" (Transport.udp.source {} [1, 2, 3])) (.ofEncoder .standard)
    let framed := made.1.step (.resize "p" .encapsulate) (.ofEncoder .standard)
    Encoder.standard.Documented
      ∧ 20 + (Transport.udp.headerSize + [1, 2, 3].length) ≤ Flow.maxDatagram
      ∧ made.1.Recognized .udp "p" ∧ framed.1.Recognized .udp "p"
      ∧ ∃ d, d.length = 31 ∧ framed.1.Shows "p" (ethernetHeader ++ d) := by
  intro cs s made framed
  have hfits : 20 + (Transport.udp.headerSize + [1, 2, 3].length) ≤ Flow.maxDatagram := by decide
  obtain ⟨d, hd, ⟨-, -, hmade⟩, ⟨-, hshows, hframed⟩, -⟩ :=
    built_packet_recognized .standard Encoder.standard_documented .udp {} [1, 2, 3] hfits cs "p"
  have hlength : (Transport.udp.packet {} [1, 2, 3]).map (·.length) = some 31 := by decide +kernel
  rw [hd] at hlength
  exact ⟨Encoder.standard_documented, hfits, hmade, hframed, d, Option.some.inj hlength, hshows⟩

end PacketPath
