import PacketPath.Checksum
import PacketPath.Header.Basic
import PacketPath.Header.Address
import PacketPath.Header.Protocol

set_option autoImplicit false

/-! # IPv4 headers

The fixed twenty bytes of an IPv4 header and what they say. Options are not examined. The
pseudo-header is what transport checksums cover in addition to the segment.
-/

namespace PacketPath

/-- The fixed part of an IPv4 header, as it stands in the packet. -/
structure Ipv4Header where
  bytes : Bytes
deriving DecidableEq

namespace Ipv4Header

def size : Nat := 20

/-- Views the front of a byte string as an IPv4 header. -/
def read (b : Bytes) : Except ReadError Ipv4Header := (readFront size b).map (⟨·⟩)

def version (h : Ipv4Header) : UInt8 := (h.bytes.byte 0 &&& 0xF0) >>> 4

/-- The header length in bytes, options included. -/
def headerLength (h : Ipv4Header) : Nat := 4 * (h.bytes.byte 0 &&& 0x0F).toNat

/-- The length of the datagram, as the header claims it. -/
def totalLength (h : Ipv4Header) : Nat := h.bytes.be16 2

def serviceByte (h : Ipv4Header) : UInt8 := h.bytes.byte 1

def identification (h : Ipv4Header) : Bytes := h.bytes.slice 4 6

/-- The two bytes of fragment flags and offset. -/
def fragment (h : Ipv4Header) : Bytes := h.bytes.slice 6 8

def timeToLive (h : Ipv4Header) : UInt8 := h.bytes.byte 8

def checksumBytes (h : Ipv4Header) : Bytes := h.bytes.slice 10 12

def protocol (h : Ipv4Header) : Protocol := .ofNumber (h.bytes.byte 9)

def source (h : Ipv4Header) : Ipv4Address := .atPosition h.bytes 12

def destination (h : Ipv4Header) : Ipv4Address := .atPosition h.bytes 16

/-- The pseudo-header for a segment of `length` bytes: both addresses, a zero byte, the
protocol and the length in sixteen bits. -/
def pseudoHeader (h : Ipv4Header) (length : Nat) : Bytes :=
  h.source.bytes ++ h.destination.bytes ++ [0, h.bytes.byte 9] ++ Bytes.be16Bytes length

def pseudoSum (h : Ipv4Header) (length : Nat) : Checksum := .compute (h.pseudoHeader length)

end Ipv4Header

end PacketPath
