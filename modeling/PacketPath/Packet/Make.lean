import PacketPath.Datagram
import PacketPath.Packet.Pool

set_option autoImplicit false

/-! # Making packets

A packet is made in a fresh buffer of zeros, around a copy of given bytes, or around an imported
region, which is not copied. A fresh buffer is just as large as asked for, except that a small one is
filled up behind the packet. Datagrams of a flow are made with their IPv4 header marked.

All of this needs memory, and an encoder for datagrams; both come from the environment.
-/

namespace PacketPath

/-- A way to make a packet. -/
inductive Source
  /-- Zeros, with room around them. -/
  | zeros (headroom length tailroom : Nat)
  /-- A copy of bytes, with room around it. -/
  | copy (headroom : Nat) (bytes : Bytes) (tailroom : Nat)
  /-- A region owned by someone else. -/
  | region (name : String) (bytes : Bytes)
  /-- A TCP datagram of a flow. -/
  | tcp (flow : Flow) (payload : Bytes)
  /-- A UDP datagram of a flow. -/
  | udp (flow : Flow) (payload : Bytes)
  /-- Bytes that start with an IPv4 header. -/
  | ipv4 (bytes : Bytes)

/-- Zeros, with the room in front that nobody has to ask for. -/
def Source.plainZeros (length : Nat) : Source := .zeros defaultHeadroom length 0

/-- A copy of bytes, with the same room in front. -/
def Source.plainCopy (bytes : Bytes) : Source := .copy defaultHeadroom bytes 0

/-- Why a packet is not made. -/
inductive MakeError
  | alloc (cause : AllocError)
  /-- The bytes are no datagram. -/
  | fault
deriving DecidableEq

namespace Pool

/-- Adds a buffer with a frame in it, and gives the handle on it. -/
def addPacket (p : Pool) (bytes : Bytes) (storage : Storage) (start stop : Nat) : Pool × Handle :=
  let (p, id) := p.add bytes storage
  (p, { buffer := id, frame := ⟨start, stop, none⟩, writable := true })

/-- Makes a packet of zeros. -/
def makeZeros (p : Pool) (headroom length tailroom : Nat) (env : Environment := .standard) :
    Except AllocError (Pool × Handle) :=
  match env.room minBuffer [headroom, length, tailroom] with
  | .error e => .error e
  | .ok size => .ok (p.addPacket (Bytes.zeros size) .heap headroom (headroom + length))

/-- Makes a packet that holds a copy of bytes. -/
def makeCopy (p : Pool) (headroom : Nat) (bytes : Bytes) (tailroom : Nat)
    (env : Environment := .standard) : Except AllocError (Pool × Handle) :=
  match env.room minBuffer [headroom, bytes.length, tailroom] with
  | .error e => .error e
  | .ok size =>
    let around := Bytes.zeros size
    .ok (p.addPacket (around.overlay headroom bytes) .heap headroom (headroom + bytes.length))

/-- Makes a packet of an imported region: all of it is data. -/
def importRegion (p : Pool) (name : String) (bytes : Bytes) : Pool × Handle :=
  p.addPacket bytes (.imported name) 0 bytes.length

/-- Makes a packet of bytes that start with an IPv4 header, which is marked by its own length
field. -/
def makeIpv4 (p : Pool) (bytes : Bytes) (env : Environment := .standard) :
    Option (Pool × Handle) :=
  match bytes, p.makeCopy defaultHeadroom bytes 0 env with
  | first :: _, .ok (p, h) =>
    match h.frame.markHeader 0 (4 * (first &&& 0x0F).toNat) with
    | .ok frame => some (p, { h with frame := frame, writable := false })
    | .error _ => none
  | _, _ => none

/-- Makes a packet. Where it cannot be made the pool stays as it is. -/
def make (p : Pool) (source : Source) (env : Environment := .standard) :
    Except MakeError (Pool × Handle) :=
  match source with
  | .zeros headroom length tailroom => (p.makeZeros headroom length tailroom env).mapError .alloc
  | .copy headroom bytes tailroom => (p.makeCopy headroom bytes tailroom env).mapError .alloc
  | .region name bytes => .ok (p.importRegion name bytes)
  | .tcp flow payload =>
    orFault ((flow.tcpPacket payload env.encoder).bind fun bytes => p.makeIpv4 bytes env)
  | .udp flow payload =>
    orFault ((flow.udpPacket payload env.encoder).bind fun bytes => p.makeIpv4 bytes env)
  | .ipv4 bytes => orFault (p.makeIpv4 bytes env)
where
  orFault : Option (Pool × Handle) → Except MakeError (Pool × Handle)
    | some made => .ok made
    | none => .error .fault

end Pool

end PacketPath
