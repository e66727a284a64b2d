import PacketPath.Packet.View
import PacketPath.Session.Command

set_option autoImplicit false

/-! # Packets with buffers of their own

The packets of a program that never shares: each carries its bytes along, and a clone is a copy of
all of them. There are no handles, counts or pools here, and no operation can find a buffer in use.
Nothing is copied to make a packet writable, so that cannot fail either; only room that is missing
needs a larger buffer, which may be refused.

This is what shared buffers are compared with. What an operation does to a frame or to annotations
has nothing to do with sharing, and is the same on both sides.
-/

namespace PacketPath

/-- A packet that is alone on its bytes. -/
structure Owned where
  bytes : Bytes
  frame : Frame
  annotations : Annotations := {}
  writable : Bool := false
deriving DecidableEq

namespace Owned

/-! ## Making -/

/-- A copy of bytes with room around it, in a buffer that is not too small. -/
def copy (headroom : Nat) (bytes : Bytes) (tailroom : Nat) : Except AllocError Owned :=
  match allocationSize [headroom, bytes.length, tailroom] with
  | .error e => .error e
  | .ok size =>
    let behind := max size minBuffer - (headroom + bytes.length)
    .ok {
      bytes := Bytes.zeros headroom ++ bytes ++ Bytes.zeros behind
      frame := ⟨headroom, headroom + bytes.length, none⟩
      writable := true }

/-- A datagram with its IPv4 header marked, by the length field of that header. -/
def datagram (bytes : Bytes) : Option Owned :=
  match bytes, copy defaultHeadroom bytes 0 with
  | first :: _, .ok o =>
    match o.frame.markHeader 0 (4 * (first &&& 0x0F).toNat) with
    | .ok frame => some { o with frame := frame, writable := false }
    | .error _ => none
  | _, _ => none

def make : Source → Except MakeError Owned
  | .zeros headroom length tailroom =>
    (copy headroom (Bytes.zeros length) tailroom).mapError .alloc
  | .copy headroom bytes tailroom => (copy headroom bytes tailroom).mapError .alloc
  | .region _ bytes => .ok { bytes := bytes, frame := ⟨0, bytes.length, none⟩, writable := true }
  | .tcp flow payload => orFault ((flow.tcpPacket payload).bind datagram)
  | .udp flow payload => orFault ((flow.udpPacket payload).bind datagram)
  | .ipv4 bytes => orFault (datagram bytes)
where
  orFault : Option Owned → Except MakeError Owned
    | some o => .ok o
    | none => .error .fault

/-! ## Changing -/

/-- The packet after it may, or may no longer, be written to. -/
def setWritable (o : Owned) (writable : Bool) : Owned := { o with writable := writable }

def tailroom (o : Owned) : Nat := o.bytes.length - o.frame.stop

/-- Adds zeros in front of the buffer and behind it. -/
def grow (o : Owned) (front back : Nat) : Except ResizeError Owned :=
  match allocationSize [front, o.bytes.length, back] with
  | .error e => .error (.alloc e)
  | .ok _ => .ok { o with
      bytes := Bytes.zeros front ++ o.bytes ++ Bytes.zeros back
      frame := o.frame.shift front }

/-- Adds `n` bytes before the data to it. -/
def openFront (o : Owned) (n : Nat) : Owned :=
  { o with frame := { o.frame with start := o.frame.start - n } }

/-- Adds `n` bytes behind the data to it. -/
def openBack (o : Owned) (n : Nat) : Owned :=
  { o with frame := { o.frame with stop := o.frame.stop + n } }

/-- Puts room for `n` bytes before the data. -/
def push (o : Owned) (n : Nat) : Except ResizeError Owned :=
  if n ≤ o.frame.start then .ok (o.openFront n)
  else (o.grow (growth n) 0).map (·.openFront n)

/-- Puts room for `n` bytes behind the data. -/
def put (o : Owned) (n : Nat) : Except ResizeError Owned :=
  if n ≤ o.tailroom then .ok (o.openBack n)
  else (o.grow 0 (growth n)).map (·.openBack n)

/-- Replaces the bytes from position `pos` of a region on. -/
def write (o : Owned) (region : Region) (pos : Nat) (patch : Bytes) : Except WriteError Owned :=
  if !o.writable then .error .notWritable
  else
    match o.frame.span? o.bytes.length region with
    | none => .error .noHeader
    | some (first, last) =>
      if pos + patch.length ≤ last - first then
        .ok { o with bytes := o.bytes.overlay (first + pos) patch }
      else .error .outOfRegion

def data (o : Owned) : Bytes := o.bytes.slice o.frame.start o.frame.stop

/-- Overwrites data bytes of a packet that was resized, and lets nobody write any more. -/
def patched (r : Except ResizeError Owned) (pos : Nat) (patch : Bytes) : Except ResizeError Owned :=
  match r with
  | .error _ => .error .fault
  | .ok o =>
    match o.write .data pos patch with
    | .ok o => .ok (o.setWritable false)
    | .error _ => .error .fault

/-- An operation that takes a packet and gives back another one. -/
def resize (o : Owned) : Resizing → Except ResizeError Owned
  | .uniqueify => .ok (o.setWritable true)
  | .push n => (o.push n).map (·.setWritable true)
  | .put n => (o.put n).map (·.setWritable true)
  | .pushShared n => (o.push n).map (·.setWritable false)
  | .putShared n => (o.put n).map (·.setWritable false)
  | .encapsulate =>
    patched ((o.push ethernetHeader.length).map (·.setWritable true)) 0 ethernetHeader
  | .flipBit offset bit =>
    if bit < 8 then
      patched (.ok (o.setWritable true)) offset [o.data.byte offset ^^^ (1 <<< bit)]
    else .error .fault
  | .overwrite position bytes => patched (.ok (o.setWritable true)) position bytes

/-- Moves the window or the marks. -/
def adjust (o : Owned) (how : Adjustment) : Except Reply Owned :=
  (how.apply o.frame o.bytes.length).map fun frame => { o with frame := frame }

/-- Changes annotations. They are kept as those of a handle are, on no buffer in particular. -/
def annotate (o : Owned) (how : Annotating) : Except Reply Owned :=
  (how.apply { buffer := 0, frame := o.frame, annotations := o.annotations }).map fun h =>
    { o with frame := h.frame, annotations := h.annotations }

/-! ## Observing -/

/-- What can be read about the headers of a packet, if they are marked. -/
def header (o : Owned) : Option HeaderView :=
  o.frame.marks.map fun m =>
    { networkOffset := (m.network : Int) - o.frame.start
      networkLength := m.transport - m.network
      transportOffset := (m.transport : Int) - o.frame.start
      network := o.bytes.slice (min m.network o.frame.stop) o.frame.stop
      transport := o.bytes.slice (min m.transport o.frame.stop) o.frame.stop }

/-- What can be read of a packet. It is never shared. -/
def view (o : Owned) : PacketView where
  writable := o.writable
  headroom := o.frame.start
  length := o.frame.length
  tailroom := o.tailroom
  bufferLength := o.bytes.length
  shared := false
  uses := 1
  data := o.data
  buffer := o.bytes
  header := o.header

end Owned

end PacketPath
