import PacketPath.Checksum
import PacketPath.Header.Address

set_option autoImplicit false

/-! # Encoders

What builders of packets take over from outside: an encoder knows where the fields of Ethernet, TCP
and UDP headers are, and how transport checksums are computed. It is a parameter of everything that
builds packets. What builders rely on is that it behaves as documented (`Encoder.Documented`):
numbers are stored in network order at the positions that the formats give them, and a checksum is
the complement of the one's complement sum over pseudo-header and segment.

`Encoder.standard` is an encoder that does this.
-/

namespace PacketPath

/-! ## Fields -/

/-- A field that holds a number. -/
inductive NumberField
  | tcpSource
  | tcpDestination
  | tcpSequence
  | tcpAcknowledgment
  | tcpWindow
  | udpSource
  | udpDestination
  | udpLength
  | etherType
deriving DecidableEq

namespace NumberField

/-- Where the field starts in its header. -/
def position : NumberField → Nat
  | tcpSource | udpSource => 0
  | tcpDestination | udpDestination => 2
  | tcpSequence | udpLength => 4
  | tcpAcknowledgment => 8
  | tcpWindow => 14
  | etherType => 12

/-- The number of its bytes. -/
def size : NumberField → Nat
  | tcpSequence | tcpAcknowledgment => 4
  | _ => 2

/-- The field holds the numbers below this one. -/
def bound : NumberField → Nat
  | tcpSequence | tcpAcknowledgment => 4294967296
  | _ => 65536

/-- A number in the bytes of the field, high byte first. -/
def encode : NumberField → Nat → Bytes
  | tcpSequence, n | tcpAcknowledgment, n => Bytes.be32Bytes n
  | _, n => Bytes.be16Bytes n

theorem length_encode (field : NumberField) (n : Nat) : (field.encode n).length = field.size := by
  cases field <;> rfl

end NumberField

/-- A link-layer address. -/
structure LinkAddress where
  octets : Vector UInt8 6
deriving DecidableEq

def LinkAddress.bytes (a : LinkAddress) : Bytes := a.octets.toList

/-- A flag of a TCP header. -/
inductive TcpFlag
  | ack
  | psh
deriving DecidableEq

/-- The bit of a flag in its byte. -/
def TcpFlag.mask : TcpFlag → UInt8
  | ack => 0x10
  | psh => 0x08

/-! ## Transport checksums -/

/-- What a transport checksum covers besides the segment: both addresses, a zero byte, the protocol
and the length of the segment. -/
def pseudoHeader (source destination : Ipv4Address) (protocol : UInt8) (length : Nat) : Bytes :=
  source.bytes ++ destination.bytes ++ [0, protocol] ++ Bytes.be16Bytes length

/-- The checksum of a segment that has its checksum field at a position: the complement of the sum
over pseudo-header and segment, the field itself counting as zero. -/
def segmentChecksum (source destination : Ipv4Address) (protocol : UInt8) (position : Nat)
    (segment : Bytes) : Nat :=
  checksumField (pseudoHeader source destination protocol segment.length
    ++ segment.overlay position [0, 0])

/-- The segment with its TCP checksum filled in. -/
def withTcpChecksum (source destination : Ipv4Address) (segment : Bytes) : Bytes :=
  segment.overlay 16 (Bytes.be16Bytes (segmentChecksum source destination 6 16 segment))

/-- The segment with its UDP checksum filled in. A checksum of zero is stored as its other
representation, since a zero field means that there is no checksum. -/
def withUdpChecksum (source destination : Ipv4Address) (segment : Bytes) : Bytes :=
  let field := segmentChecksum source destination 17 6 segment
  segment.overlay 6 (Bytes.be16Bytes (if field = 0 then 65535 else field))

/-! ## Encoders -/

/-- The operations of an encoder. Each gets the bytes of a header, or of a segment with its header
in front. -/
structure Encoder where
  setNumber : NumberField → Nat → Bytes → Bytes
  /-- Stores where an Ethernet frame is going to. -/
  setDestination : LinkAddress → Bytes → Bytes
  /-- Stores where an Ethernet frame comes from. -/
  setSource : LinkAddress → Bytes → Bytes
  /-- Stores the length of a TCP header. -/
  setHeaderLength : Nat → Bytes → Bytes
  raise : TcpFlag → Bytes → Bytes
  /-- The positions between which the payload of a TCP segment lies. -/
  tcpPayload : Bytes → Nat × Nat
  /-- The positions between which the payload of a UDP datagram lies. -/
  udpPayload : Bytes → Nat × Nat
  fillTcpChecksum (source destination : Ipv4Address) : Bytes → Bytes
  fillUdpChecksum (source destination : Ipv4Address) : Bytes → Bytes

namespace Encoder

/-- What is known of an encoder, for bytes that have room for the field and values that fit it. -/
structure Documented (e : Encoder) : Prop where
  setNumber : ∀ (field : NumberField) n b, n < field.bound →
    field.position + field.size ≤ b.length →
    e.setNumber field n b = b.overlay field.position (field.encode n)
  setDestination : ∀ (a : LinkAddress) b, 14 ≤ b.length → e.setDestination a b = b.overlay 0 a.bytes
  setSource : ∀ (a : LinkAddress) b, 14 ≤ b.length → e.setSource a b = b.overlay 6 a.bytes
  /-- The length is stored in words, in the high half of its byte. -/
  setHeaderLength : ∀ n b, n % 4 = 0 → n ≤ 60 → 20 ≤ b.length →
    e.setHeaderLength n b = b.overlay 12 [UInt8.ofNat (n / 4 * 16) ||| (b.byte 12 &&& 0x0F)]
  raise : ∀ (flag : TcpFlag) b, 20 ≤ b.length →
    e.raise flag b = b.overlay 13 [b.byte 13 ||| flag.mask]
  /-- The payload of a segment is what stands behind the header that it claims to have. -/
  tcpPayload : ∀ b, 20 ≤ b.length →
    e.tcpPayload b = (4 * (b.byte 12 >>> 4).toNat, b.length)
  /-- The payload of a datagram ends where the datagram claims to end. -/
  udpPayload : ∀ b, 8 ≤ b.length → e.udpPayload b = (8, b.be16 4)
  fillTcpChecksum : ∀ source destination b, 20 ≤ b.length → b.length < 65536 →
    e.fillTcpChecksum source destination b = withTcpChecksum source destination b
  fillUdpChecksum : ∀ source destination b, 8 ≤ b.length → b.length = b.be16 4 →
    e.fillUdpChecksum source destination b = withUdpChecksum source destination b

/-- Every field is written over the bytes that were there. -/
def standard : Encoder where
  setNumber field n b := b.overlay field.position (field.encode n)
  setDestination a b := b.overlay 0 a.bytes
  setSource a b := b.overlay 6 a.bytes
  setHeaderLength n b := b.overlay 12 [UInt8.ofNat (n / 4 * 16) ||| (b.byte 12 &&& 0x0F)]
  raise flag b := b.overlay 13 [b.byte 13 ||| flag.mask]
  tcpPayload b := (4 * (b.byte 12 >>> 4).toNat, b.length)
  udpPayload b := (8, b.be16 4)
  fillTcpChecksum := withTcpChecksum
  fillUdpChecksum := withUdpChecksum

theorem standard_documented : standard.Documented where
  setNumber _ _ _ _ _ := rfl
  setDestination _ _ _ := rfl
  setSource _ _ _ := rfl
  setHeaderLength _ _ _ _ _ := rfl
  raise _ _ _ := rfl
  tcpPayload _ _ := rfl
  udpPayload _ _ := rfl
  fillTcpChecksum _ _ _ _ _ := rfl
  fillUdpChecksum _ _ _ _ _ := rfl

end Encoder

end PacketPath
