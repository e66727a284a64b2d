import PacketPath.Datagram
import PacketPath.Packet.Write

set_option autoImplicit false

/-! # Room around packets

Operations that make a packet writable or give it more room. They use the buffer as it is when the
handle is alone on it and the room is there, and otherwise move the handle to a copy of the buffer,
with zeros added where room was missing. If that copy cannot be allocated, because it would be too
large or because the environment has no memory for it, the handle is gone.
-/

namespace PacketPath

/-- Why a packet could not be resized. In every case its handle is gone. -/
inductive ResizeError
  | alloc (cause : AllocError)
  /-- The packet cannot take the change that was asked for. -/
  | fault
deriving DecidableEq

/-- What becomes of a packet that is resized: the pool afterwards, and the new handle. -/
abbrev Resized := Pool × Except ResizeError Handle

namespace Pool

/-- Moves a handle to a copy of its buffer of its own, with `front` zeros before it and `back`
zeros behind it. -/
def relocate (p : Pool) (h : Handle) (front back : Nat) (env : Environment := .standard) :
    Resized :=
  let old := p.bytes h.buffer
  match env.room 0 [front, old.length, back] with
  | .error e => (p.release h.buffer, .error (.alloc e))
  | .ok _ =>
    let (p, id) := p.add (Bytes.zeros front ++ old ++ Bytes.zeros back) .heap
    (p.release h.buffer,
      .ok { h with buffer := id, frame := h.frame.shift front, cloned := false, writable := true })

/-- Changes the frame of a resized packet; if that fails the handle is released. -/
def reframe (r : Resized) (f : Pool → Handle → Option Frame) : Resized :=
  match r with
  | (p, .error e) => (p, .error e)
  | (p, .ok h) =>
    match f p h with
    | some frame => (p, .ok { h with frame := frame })
    | none => (p.release h.buffer, .error .fault)

/-- Adds `n` bytes before the data. -/
def expandFront (n : Nat) (r : Resized) : Resized := reframe r fun _ h => h.frame.expandFront? n

/-- Adds `n` bytes behind the data. -/
def expandBack (n : Nat) (r : Resized) : Resized :=
  reframe r fun p h => h.frame.expandBack? (p.limit h) n

/-- Makes a packet writable. -/
def uniqueify (p : Pool) (h : Handle) (env : Environment := .standard) : Resized :=
  if p.exclusive h then (p, .ok { h with writable := true }) else p.relocate h 0 0 env

/-- Puts room for `n` bytes before the data, and makes the packet writable. -/
def push (p : Pool) (h : Handle) (n : Nat) (env : Environment := .standard) : Resized :=
  if n ≤ h.frame.start then expandFront n (p.uniqueify h env)
  else expandFront n (p.relocate h (growth n) 0 env)

/-- Puts room for `n` bytes behind the data, and makes the packet writable. -/
def put (p : Pool) (h : Handle) (n : Nat) (env : Environment := .standard) : Resized :=
  if n ≤ p.tailroom h then expandBack n (p.uniqueify h env)
  else expandBack n (p.relocate h 0 (growth n) env)

/-- Gives up the right to write. -/
def demote (r : Resized) : Resized := (r.1, r.2.map Handle.toShared)

/-- Puts room for `n` bytes before the data. The buffer stays shared if the room is there, and the
packet shows whatever bytes are in it. -/
def pushShared (p : Pool) (h : Handle) (n : Nat) (env : Environment := .standard) : Resized :=
  demote (if n ≤ h.frame.start then expandFront n (p, .ok h) else p.push h n env)

/-- Puts room for `n` bytes behind the data. The buffer stays shared if the room is there, and the
packet shows whatever bytes are in it. -/
def putShared (p : Pool) (h : Handle) (n : Nat) (env : Environment := .standard) : Resized :=
  demote (if n ≤ p.tailroom h then expandBack n (p, .ok h) else p.put h n env)

/-! ## Changes in a writable packet -/

/-- Overwrites data bytes of a resized packet and gives up the right to write. What cannot be
overwritten, or could not be resized, is a fault. -/
def overwriteData (r : Resized) (pos : Nat) (patch : Bytes) : Resized :=
  match r with
  | (p, .error _) => (p, .error .fault)
  | (p, .ok h) =>
    match p.write h .data pos patch with
    | .ok p => (p, .ok h.toShared)
    | .error _ => (p.release h.buffer, .error .fault)

/-- The first data bytes of a resized packet. -/
def dataFront (r : Resized) (n : Nat) : Bytes :=
  match r with
  | (_, .error _) => []
  | (p, .ok h) => ((p.view? h .data).getD []).take n

/-- Puts an Ethernet header before the data: room for it, in which its fields are set. -/
def encapsulate (p : Pool) (h : Handle) (env : Environment := .standard) : Resized :=
  let r := p.push h ethernetHeaderSize env
  overwriteData r 0 (setEthernetHeader env.encoder (dataFront r ethernetHeaderSize))

/-- With the standard encoder, the header is the same whatever bytes were there. -/
theorem encapsulate_eq (p : Pool) (h : Handle) :
    p.encapsulate h = overwriteData (p.push h ethernetHeader.length) 0 ethernetHeader := by
  have hlen : (dataFront (p.push h ethernetHeaderSize) ethernetHeaderSize).length
      ≤ ethernetHeaderSize := by
    unfold dataFront
    split
    · exact Nat.zero_le _
    · exact List.length_take_le _ _
  show overwriteData (p.push h ethernetHeaderSize) 0 (setEthernetHeader .standard _) = _
  rw [setEthernetHeader_standard hlen]
  rfl

/-- Overwrites data bytes, copying the buffer first if someone else could see that. -/
def overwrite (p : Pool) (h : Handle) (pos : Nat) (bytes : Bytes)
    (env : Environment := .standard) : Resized :=
  overwriteData (p.uniqueify h env) pos bytes

/-- Flips one bit of a data byte, copying the buffer first if someone else could see that. -/
def flipBit (p : Pool) (h : Handle) (offset : Nat) (bit : UInt8) (env : Environment := .standard) :
    Resized :=
  let old := Bytes.byte ((p.view? h .data).getD []) offset
  if bit < 8 then p.overwrite h offset [old ^^^ (1 <<< bit)] env
  -- a byte has no such bit: the packet is given up once it is writable
  else overwriteData (reframe (p.uniqueify h env) fun _ _ => none) offset []

end Pool

end PacketPath
