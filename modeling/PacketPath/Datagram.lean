import PacketPath.Header.Encoder

set_option autoImplicit false

/-! # Building datagrams

IPv4 datagrams for one flow, written field by field. The IPv4 header is laid out here, and its own
checksum comes from the running accumulator. Ethernet headers and transport headers with their
checksums are the work of an encoder, whose setters are called one after the other on zeros, or on
the bytes that are there. A datagram of more than 65535 bytes has no length field, so it is not built
at all.
-/

namespace PacketPath

/-- The two ends of a conversation. -/
structure Flow where
  source : Ipv4Address := ⟨10, 0, 0, 5⟩
  destination : Ipv4Address := ⟨52, 10, 128, 69⟩
  sourcePort : UInt16 := 44490
  destinationPort : UInt16 := 443
deriving DecidableEq, Inhabited

namespace Flow

def maxDatagram : Nat := 65535

/-- An IPv4 header without options for `payloadLength` bytes of the numbered protocol, its
checksum field being zero: no fragments allowed, and 64 hops to live. -/
def unsummedHeader (flow : Flow) (protocol : UInt8) (payloadLength : Nat) : Bytes :=
  [0x45, 0] ++ Bytes.be16Bytes (20 + payloadLength) ++ [0, 1, 0x40, 0, 64, protocol, 0, 0]
    ++ flow.source.bytes ++ flow.destination.bytes

/-- The IPv4 header for `payloadLength` bytes, if the datagram is not too long. -/
def ipv4Header (flow : Flow) (protocol : UInt8) (payloadLength : Nat) : Option Bytes :=
  if 20 + payloadLength ≤ maxDatagram then
    let header := flow.unsummedHeader protocol payloadLength
    some (header.overlay 10 (Checksum.compute header).toStored.bytes)
  else none

/-- The header of a TCP segment without options, whose checksum is still missing: a data segment
(ACK and PSH) in the middle of an established connection. -/
def setTcpHeader (flow : Flow) (e : Encoder) (segment : Bytes) : Bytes :=
  let segment := e.setNumber .tcpSource flow.sourcePort.toNat segment
  let segment := e.setNumber .tcpDestination flow.destinationPort.toNat segment
  let segment := e.setNumber .tcpSequence 4224 segment
  let segment := e.setNumber .tcpAcknowledgment 8448 segment
  let segment := e.setHeaderLength 20 segment
  let segment := e.raise .ack segment
  let segment := e.raise .psh segment
  e.setNumber .tcpWindow 64240 segment

/-- The header of a UDP datagram, whose checksum is still missing. The length is cut to sixteen
bits. -/
def setUdpHeader (flow : Flow) (e : Encoder) (length : Nat) (datagram : Bytes) : Bytes :=
  let datagram := e.setNumber .udpSource flow.sourcePort.toNat datagram
  let datagram := e.setNumber .udpDestination flow.destinationPort.toNat datagram
  e.setNumber .udpLength (length % 65536) datagram

/-- A TCP segment, unless the encoder has another place for the payload than one of its size. -/
def tcpSegment (flow : Flow) (payload : Bytes) (e : Encoder) : Option Bytes :=
  let segment := flow.setTcpHeader e (Bytes.zeros (20 + payload.length))
  (segment.replace? (e.tcpPayload segment) payload).map
    (e.fillTcpChecksum flow.source flow.destination)

/-- A UDP datagram, unless the encoder has another place for the payload than one of its size. -/
def udpDatagram (flow : Flow) (payload : Bytes) (e : Encoder) : Option Bytes :=
  let length := 8 + payload.length
  let datagram := flow.setUdpHeader e length (Bytes.zeros length)
  (datagram.replace? (e.udpPayload datagram) payload).map
    (e.fillUdpChecksum flow.source flow.destination)

/-- A TCP segment with its IPv4 header, if it is not too long for one. -/
def tcpPacket (flow : Flow) (payload : Bytes) (e : Encoder := .standard) : Option Bytes := do
  let segment ← flow.tcpSegment payload e
  let header ← flow.ipv4Header 6 (20 + payload.length)
  return header ++ segment

/-- A UDP datagram with its IPv4 header, if it is not too long for one. -/
def udpPacket (flow : Flow) (payload : Bytes) (e : Encoder := .standard) : Option Bytes := do
  let datagram ← flow.udpDatagram payload e
  let header ← flow.ipv4Header 17 (8 + payload.length)
  return header ++ datagram

end Flow

/-! ## Ethernet headers -/

/-- The link-layer address of a guest. -/
def guest : LinkAddress := ⟨#v[0xA8, 0x40, 0x25, 0xF7, 0x00, 0x01]⟩

/-- The link-layer address of the gateway of a guest. -/
def gateway : LinkAddress := ⟨#v[0xA8, 0x40, 0x25, 0xF7, 0x00, 0xFE]⟩

/-- The size of an Ethernet header. -/
def ethernetHeaderSize : Nat := 14

/-- Makes an Ethernet header of some bytes, which carries IPv4 from a guest to its gateway. -/
def setEthernetHeader (e : Encoder) (b : Bytes) : Bytes :=
  e.setNumber .etherType 0x0800 (e.setSource guest (e.setDestination gateway b))

/-- What an Ethernet header that carries IPv4 from a guest to its gateway looks like. -/
def ethernetHeader : Bytes :=
  [0xA8, 0x40, 0x25, 0xF7, 0x00, 0xFE, 0xA8, 0x40, 0x25, 0xF7, 0x00, 0x01, 0x08, 0x00]

/-- The fields of an Ethernet header take all of its bytes. -/
theorem setEthernetHeader_standard {b : Bytes} (h : b.length ≤ ethernetHeaderSize) :
    setEthernetHeader .standard b = ethernetHeader := by
  have hsix : 6 = gateway.bytes.length := rfl
  have htwelve : 12 = (gateway.bytes ++ guest.bytes).length := rfl
  have hfirst : b.overlay 0 gateway.bytes = gateway.bytes ++ b.drop 6 := rfl
  have hsecond : (gateway.bytes ++ b.drop 6).overlay 6 guest.bytes
      = (gateway.bytes ++ guest.bytes) ++ b.drop 12 := by
    rw [Bytes.overlay_append hsix, List.drop_drop]
    rfl
  have hthird : ((gateway.bytes ++ guest.bytes) ++ b.drop 12).overlay 12 [0x08, 0x00]
      = ethernetHeader := by
    have hnone : b.drop 14 = [] := List.drop_eq_nil_of_le h
    rw [Bytes.overlay_append htwelve, List.drop_drop]
    show _ ++ b.drop 14 = _
    rw [hnone]
    rfl
  show ((b.overlay 0 gateway.bytes).overlay 6 guest.bytes).overlay 12 [0x08, 0x00] = _
  rw [hfirst, hsecond, hthird]

end PacketPath
