import PacketPath.Datagram

set_option autoImplicit false

/-! # What encoders build

Packets are built by one setter after the other. Each setter of a documented encoder does what the
standard one does, and leaves as many bytes as there were (`SetAlike`); so what is built by any of
them in the same order is the same. It is told here as a whole: `Flow.tcpHeader` and `Flow.udpHeader`
are the headers that come out, behind which the payload stands.
-/

namespace PacketPath

variable {e : Encoder} {size : Nat} {f f' g g' : Bytes → Bytes}

/-! ## Setting alike -/

/-- Two ways to set something come to the same, and keep the length, where there is room for a header
of a size. -/
def SetAlike (size : Nat) (f g : Bytes → Bytes) : Prop :=
  ∀ b, size ≤ b.length → f b = g b ∧ (g b).length = b.length

theorem SetAlike.followed (h : SetAlike size f g) (h' : SetAlike size f' g') :
    SetAlike size (fun b => f' (f b)) (fun b => g' (g b)) := by
  intro b hb
  obtain ⟨hfirst, hlength⟩ := h b hb
  obtain ⟨hsecond, hlength'⟩ := h' (g b) (hlength ▸ hb)
  exact ⟨(congrArg f' hfirst).trans hsecond, hlength'.trans hlength⟩

/-- A way to set something that is known to write some bytes at a place. -/
theorem setAlike_overlay {pos : Nat} {patch : Bytes → Bytes}
    (hf : ∀ b, size ≤ b.length → f b = b.overlay pos (patch b))
    (hroom : ∀ b, pos + (patch b).length ≤ size) :
    SetAlike size f fun b => b.overlay pos (patch b) := fun b hb =>
  ⟨hf b hb, Bytes.length_overlay (Nat.le_trans (hroom b) hb)⟩

namespace Encoder.Documented

theorem setNumber_alike (he : e.Documented) (field : NumberField) {n : Nat} (hn : n < field.bound)
    (hroom : field.position + field.size ≤ size) :
    SetAlike size (e.setNumber field n) (standard.setNumber field n) :=
  setAlike_overlay (fun b hb => he.setNumber field n b hn (Nat.le_trans hroom hb))
    fun _ => by rwa [field.length_encode]

theorem setHeaderLength_alike (he : e.Documented) :
    SetAlike 20 (e.setHeaderLength 20) (standard.setHeaderLength 20) :=
  setAlike_overlay (fun b hb => he.setHeaderLength 20 b rfl (by decide) hb) fun _ => by simp

theorem raise_alike (he : e.Documented) (flag : TcpFlag) :
    SetAlike 20 (e.raise flag) (standard.raise flag) :=
  setAlike_overlay (fun b hb => he.raise flag b hb) fun _ => by simp

theorem setTcpHeader_alike (he : e.Documented) (flow : Flow) :
    SetAlike 20 (flow.setTcpHeader e) (flow.setTcpHeader .standard) := by
  have halike : SetAlike 20 _ _ := he.setNumber_alike .tcpSource flow.sourcePort.toNat_lt (by decide)
    |>.followed (he.setNumber_alike .tcpDestination flow.destinationPort.toNat_lt (by decide))
    |>.followed (he.setNumber_alike (n := 4224) .tcpSequence (by decide) (by decide))
    |>.followed (he.setNumber_alike (n := 8448) .tcpAcknowledgment (by decide) (by decide))
    |>.followed he.setHeaderLength_alike
    |>.followed (he.raise_alike .ack)
    |>.followed (he.raise_alike .psh)
    |>.followed (he.setNumber_alike (n := 64240) .tcpWindow (by decide) (by decide))
  exact halike

theorem setUdpHeader_alike (he : e.Documented) (flow : Flow) (length : Nat) :
    SetAlike 8 (flow.setUdpHeader e length) (flow.setUdpHeader .standard length) :=
  he.setNumber_alike .udpSource flow.sourcePort.toNat_lt (by decide)
    |>.followed (he.setNumber_alike .udpDestination flow.destinationPort.toNat_lt (by decide))
    |>.followed (he.setNumber_alike .udpLength (Nat.mod_lt _ (by decide)) (by decide))

theorem setEthernetHeader_alike (he : e.Documented) :
    SetAlike 14 (setEthernetHeader e) (setEthernetHeader .standard) :=
  (setAlike_overlay (he.setDestination gateway) fun _ => by decide)
    |>.followed (setAlike_overlay (he.setSource guest) fun _ => by decide)
    |>.followed (he.setNumber_alike .etherType (by decide) (by decide))

end Encoder.Documented

/-! ## Headers -/

namespace Flow

variable {flow : Flow} {payload : Bytes}

def ports (flow : Flow) : Bytes :=
  Bytes.be16Bytes flow.sourcePort.toNat ++ Bytes.be16Bytes flow.destinationPort.toNat

/-- A TCP header without a checksum. -/
def tcpHeader (flow : Flow) : Bytes :=
  flow.ports ++ Bytes.be32Bytes 4224 ++ Bytes.be32Bytes 8448 ++ [0x50, 0x18]
    ++ Bytes.be16Bytes 64240 ++ [0, 0, 0, 0]

/-- The header of a UDP datagram, without a checksum. -/
def udpHeader (flow : Flow) (length : Nat) : Bytes :=
  flow.ports ++ Bytes.be16Bytes length ++ [0, 0]

theorem setTcpHeader_zeros (flow : Flow) (rest : Bytes) :
    flow.setTcpHeader .standard (Bytes.zeros 20 ++ rest) = flow.tcpHeader ++ rest := by
  have hzeros : Bytes.zeros 20 = [0, 0, 0, 0, 0, 0, 0, 0, 0, 0, 0, 0, 0, 0, 0, 0, 0, 0, 0, 0] := rfl
  -- the setters are executed on the twenty bytes
  simp only [setTcpHeader, Encoder.standard, hzeros, NumberField.position, NumberField.encode,
    Bytes.be16Bytes, Bytes.be32Bytes, Bytes.overlay, Bytes.byte, TcpFlag.mask, List.cons_append,
    List.nil_append, List.take_succ_cons, List.take_zero, List.drop_succ_cons, List.drop_zero,
    List.length_cons, List.length_nil, Nat.reduceAdd, List.getD_cons_succ, List.getD_cons_zero]
  rfl

theorem setUdpHeader_zeros (flow : Flow) {length : Nat} (h : length < 65536) (rest : Bytes) :
    flow.setUdpHeader .standard length (Bytes.zeros 8 ++ rest) = flow.udpHeader length ++ rest := by
  rw [setUdpHeader, Nat.mod_eq_of_lt h]
  rfl

/-! ## Segments -/

/-- A segment without a checksum. -/
def unsummedTcp (flow : Flow) (payload : Bytes) : Bytes := flow.tcpHeader ++ payload

/-- A datagram without a checksum. -/
def unsummedUdp (flow : Flow) (payload : Bytes) : Bytes :=
  flow.udpHeader (8 + payload.length) ++ payload

theorem length_tcpHeader (flow : Flow) : flow.tcpHeader.length = 20 := rfl

theorem length_udpHeader (flow : Flow) (length : Nat) : (flow.udpHeader length).length = 8 := rfl

/-- The zeros behind a header make room for the payload. -/
theorem replace?_zeros (header payload : Bytes) :
    (header ++ Bytes.zeros payload.length).replace?
      (header.length, header.length + payload.length) payload = some (header ++ payload) := by
  have hall : (header ++ Bytes.zeros payload.length).length = header.length + payload.length := by
    rw [List.length_append, Bytes.length_zeros]
  have hnone : (Bytes.zeros payload.length).drop payload.length = [] :=
    List.drop_eq_nil_of_le (Nat.le_of_eq (Bytes.length_zeros _))
  rw [Bytes.replace?, if_pos ⟨Nat.le_add_right _ _, Nat.le_of_eq hall.symm, by omega⟩,
    Bytes.overlay_append rfl, hnone, List.append_nil]

/-- **A TCP segment** is its header and the payload, with the checksum filled in. -/
theorem tcpSegment_eq (he : e.Documented) (flow : Flow) (h : 20 + payload.length < 65536) :
    flow.tcpSegment payload e
      = some (withTcpChecksum flow.source flow.destination (flow.unsummedTcp payload)) := by
  have hroom : ∀ rest : Bytes, 20 ≤ (flow.tcpHeader ++ rest).length := fun rest => by
    rw [List.length_append, length_tcpHeader]
    exact Nat.le_add_right _ _
  have hheader : flow.setTcpHeader e (Bytes.zeros (20 + payload.length))
      = flow.tcpHeader ++ Bytes.zeros payload.length := by
    have henough : 20 ≤ (Bytes.zeros (20 + payload.length)).length := by
      rw [Bytes.length_zeros]
      exact Nat.le_add_right _ _
    rw [(he.setTcpHeader_alike flow _ henough).1, Bytes.zeros_add, setTcpHeader_zeros]
  -- the header claims five words
  have hwords : (flow.tcpHeader ++ Bytes.zeros payload.length).byte 12 = 0x50 := rfl
  have hplace : e.tcpPayload (flow.tcpHeader ++ Bytes.zeros payload.length)
      = (20, 20 + payload.length) := by
    rw [he.tcpPayload _ (hroom _), hwords, List.length_append, length_tcpHeader, Bytes.length_zeros]
    rfl
  have hfilled : e.fillTcpChecksum flow.source flow.destination (flow.tcpHeader ++ payload)
      = withTcpChecksum flow.source flow.destination (flow.tcpHeader ++ payload) :=
    he.fillTcpChecksum _ _ _ (hroom _) (by rwa [List.length_append, length_tcpHeader])
  have hreplaced := replace?_zeros flow.tcpHeader payload
  rw [length_tcpHeader] at hreplaced
  rw [tcpSegment]
  simp only [hheader, hplace]
  rw [hreplaced, Option.map_some, hfilled, unsummedTcp]

/-- **A UDP datagram** is its header and the payload, with the checksum filled in. -/
theorem udpDatagram_eq (he : e.Documented) (flow : Flow) (h : 8 + payload.length < 65536) :
    flow.udpDatagram payload e
      = some (withUdpChecksum flow.source flow.destination (flow.unsummedUdp payload)) := by
  have hroom : ∀ rest : Bytes, 8 ≤ (flow.udpHeader (8 + payload.length) ++ rest).length :=
    fun rest => by
      rw [List.length_append, length_udpHeader]
      exact Nat.le_add_right _ _
  have hlength : ∀ rest : Bytes, (flow.udpHeader (8 + payload.length) ++ rest).be16 4
      = 8 + payload.length := fun rest => Bytes.word_be16Bytes h
  have hheader : flow.setUdpHeader e (8 + payload.length) (Bytes.zeros (8 + payload.length))
      = flow.udpHeader (8 + payload.length) ++ Bytes.zeros payload.length := by
    have henough : 8 ≤ (Bytes.zeros (8 + payload.length)).length := by
      rw [Bytes.length_zeros]
      exact Nat.le_add_right _ _
    rw [(he.setUdpHeader_alike flow _ _ henough).1, Bytes.zeros_add 8, setUdpHeader_zeros flow h]
  have hplace : e.udpPayload (flow.udpHeader (8 + payload.length) ++ Bytes.zeros payload.length)
      = (8, 8 + payload.length) := by
    rw [he.udpPayload _ (hroom _), hlength]
  have hfilled : e.fillUdpChecksum flow.source flow.destination
      (flow.udpHeader (8 + payload.length) ++ payload)
        = withUdpChecksum flow.source flow.destination
          (flow.udpHeader (8 + payload.length) ++ payload) :=
    he.fillUdpChecksum _ _ _ (hroom _) (by rw [hlength, List.length_append, length_udpHeader])
  have hreplaced := replace?_zeros (flow.udpHeader (8 + payload.length)) payload
  rw [length_udpHeader] at hreplaced
  rw [udpDatagram]
  simp only [hheader, hplace]
  rw [hreplaced, Option.map_some, hfilled, unsummedUdp]

/-! ## Packets -/

theorem ipv4Header_tooLong (flow : Flow) (number : UInt8) {n : Nat} (h : maxDatagram < 20 + n) :
    flow.ipv4Header number n = none := if_neg (Nat.not_le.mpr h)

/-- A segment with its IPv4 header. If it is too long for one, it does not matter what there is of the
segment. -/
theorem withHeader_eq (flow : Flow) (number : UInt8) {n : Nat} {segment : Option Bytes} {b : Bytes}
    (hsegment : n < 65536 → segment = some b) :
    (segment >>= fun s => flow.ipv4Header number n >>= fun header => some (header ++ s))
      = (flow.ipv4Header number n).map (· ++ b) := by
  by_cases hfits : 20 + n ≤ maxDatagram
  · have hword : n < 65536 := by
      simp only [maxDatagram] at hfits
      omega
    rw [hsegment hword]
    cases flow.ipv4Header number n <;> rfl
  · -- without a header there is no packet, whether there is a segment or not
    rw [ipv4Header_tooLong flow number (Nat.lt_of_not_le hfits)]
    cases segment <;> rfl

/-- **A TCP packet** does not depend on the encoder, as long as that is a documented one. -/
theorem tcpPacket_eq (he : e.Documented) (flow : Flow) (payload : Bytes) :
    flow.tcpPacket payload e = (flow.ipv4Header 6 (20 + payload.length)).map
      (· ++ withTcpChecksum flow.source flow.destination (flow.unsummedTcp payload)) :=
  flow.withHeader_eq 6 (tcpSegment_eq he flow)

/-- **A UDP packet** does not depend on the encoder, as long as that is a documented one. -/
theorem udpPacket_eq (he : e.Documented) (flow : Flow) (payload : Bytes) :
    flow.udpPacket payload e = (flow.ipv4Header 17 (8 + payload.length)).map
      (· ++ withUdpChecksum flow.source flow.destination (flow.unsummedUdp payload)) :=
  flow.withHeader_eq 17 (udpDatagram_eq he flow)

theorem tcpPacket_standard (he : e.Documented) (flow : Flow) (payload : Bytes) :
    flow.tcpPacket payload e = flow.tcpPacket payload := by
  rw [tcpPacket_eq he, tcpPacket_eq Encoder.standard_documented]

theorem udpPacket_standard (he : e.Documented) (flow : Flow) (payload : Bytes) :
    flow.udpPacket payload e = flow.udpPacket payload := by
  rw [udpPacket_eq he, udpPacket_eq Encoder.standard_documented]

end Flow

end PacketPath
