import PacketPath.Header.Ipv4
import PacketPath.Header.Tcp
import PacketPath.Header.Udp

set_option autoImplicit false

/-! # Checking transport headers

Whether the TCP or UDP segment behind an IPv4 header is well formed: the lengths must agree
with each other and with the bytes that are there, and the checksum over pseudo-header and
segment must verify when it is asked for. The first test that fails gives the reason.
-/

namespace PacketPath

/-- Why a packet fails a check. -/
inductive DropReason
  /-- There is no network header, or it does not carry the protocol that is checked. -/
  | notProtocol
  /-- A length field is too small or claims more bytes than there are. -/
  | badLength
  | badChecksum
deriving DecidableEq, Inhabited

namespace DropReason

/-- The reasons in the order in which they are reported. -/
def all : List DropReason := [notProtocol, badLength, badChecksum]

/-- The place of a reason in that order. -/
def index : DropReason → Fin 3
  | notProtocol => 0
  | badLength => 1
  | badChecksum => 2

theorem mem_all (r : DropReason) : r ∈ all := by cases r <;> decide

end DropReason

/-- The transport protocols that can be checked. -/
inductive Transport
  | tcp
  | udp
deriving DecidableEq, Inhabited

namespace Transport

def protocol : Transport → Protocol
  | tcp => .tcp
  | udp => .udp

/-- The element class of a checker for the protocol. -/
def className (t : Transport) : String := "Check" ++ t.protocol.describe ++ "Header"

/-- The text by which a checker for the protocol reports a reason. -/
def reasonText (t : Transport) : DropReason → String
  | .notProtocol => "not " ++ t.protocol.describe
  | .badLength => "bad packet length"
  | .badChecksum => "bad " ++ t.protocol.describe ++ " checksum"

/-- Whether pseudo-header and segment sum to a valid checksum. -/
def sumVerifies (ip : Ipv4Header) (segment : Bytes) : Bool :=
  ((ip.pseudoSum segment.length).addBytes segment).isValid

/-- Checks a TCP segment, whose length follows from the IP header. The bytes of `rest` after
that length do not matter. -/
def checkTcp (ip : Ipv4Header) (rest : Bytes) (verify : Bool) : Except DropReason Unit :=
  if ip.totalLength < ip.headerLength then .error .badLength
  else
    let length := ip.totalLength - ip.headerLength
    match TcpHeader.read rest with
    | .error _ => .error .badLength
    | .ok header =>
      if header.headerLength < TcpHeader.size ∨ length < header.headerLength ∨ rest.length < length then
        .error .badLength
      else if verify && !sumVerifies ip (rest.take length) then .error .badChecksum
      else .ok ()

/-- Checks a UDP datagram, whose length its own header gives. A datagram sent without a checksum
passes whatever its payload. -/
def checkUdp (ip : Ipv4Header) (rest : Bytes) (verify : Bool) : Except DropReason Unit :=
  match UdpHeader.read rest with
  | .error _ => .error .badLength
  | .ok header =>
    if header.length < UdpHeader.size ∨ rest.length < header.length then .error .badLength
    else if header.hasChecksum && verify && !sumVerifies ip (rest.take header.length) then
      .error .badChecksum
    else .ok ()

/-- Checks the bytes `rest` behind an IPv4 header; with `verify` the checksum as well. -/
def check : Transport → Ipv4Header → Bytes → Bool → Except DropReason Unit
  | tcp => checkTcp
  | udp => checkUdp

/-- Classifies a packet by its bytes from the network mark and from the transport mark on, if
there are marks. -/
def classify (t : Transport) (verify : Bool) : Option (Bytes × Bytes) → Except DropReason Unit
  | none => .error .notProtocol
  | some (network, rest) =>
    match Ipv4Header.read network with
    | .error _ => .error .notProtocol
    | .ok ip =>
      if ip.version = 4 ∧ ip.protocol = t.protocol then t.check ip rest verify
      else .error .notProtocol

end Transport

end PacketPath
