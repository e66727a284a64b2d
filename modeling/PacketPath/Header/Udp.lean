import PacketPath.Header.Basic

set_option autoImplicit false

/-! # UDP headers -/

namespace PacketPath

/-- The eight bytes of a UDP header, as they stand in the packet. -/
structure UdpHeader where
  bytes : Bytes
deriving DecidableEq

namespace UdpHeader

def size : Nat := 8

/-- Views the front of a byte string as a UDP header. -/
def read (b : Bytes) : Except ReadError UdpHeader := (readFront size b).map (⟨·⟩)

def sourcePort (h : UdpHeader) : Nat := h.bytes.be16 0

def destinationPort (h : UdpHeader) : Nat := h.bytes.be16 2

/-- The length of header and payload, as the header claims it. -/
def length (h : UdpHeader) : Nat := h.bytes.be16 4

def checksumBytes (h : UdpHeader) : Bytes := h.bytes.slice 6 8

/-- A checksum field of zero means that the sender computed none. -/
def hasChecksum (h : UdpHeader) : Bool := h.bytes.be16 6 != 0

end UdpHeader

end PacketPath
