import PacketPath.Header.Basic

set_option autoImplicit false

/-! # TCP headers -/

namespace PacketPath

/-- The fixed twenty bytes of a TCP header, as they stand in the packet. -/
structure TcpHeader where
  bytes : Bytes
deriving DecidableEq

namespace TcpHeader

def size : Nat := 20

/-- Views the front of a byte string as a TCP header. -/
def read (b : Bytes) : Except ReadError TcpHeader := (readFront size b).map (⟨·⟩)

def sourcePort (h : TcpHeader) : Nat := h.bytes.be16 0

def destinationPort (h : TcpHeader) : Nat := h.bytes.be16 2

/-- The data offset: the header length in bytes, options included. -/
def headerLength (h : TcpHeader) : Nat := 4 * (h.bytes.byte 12 >>> 4).toNat

def flags (h : TcpHeader) : UInt8 := h.bytes.byte 13

def checksumBytes (h : TcpHeader) : Bytes := h.bytes.slice 16 18

end TcpHeader

end PacketPath
