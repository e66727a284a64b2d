import PacketPath.Annotation.Basic
import PacketPath.Packet.Environment
import PacketPath.Packet.Frame
import PacketPath.Registry

set_option autoImplicit false

/-! # Shared buffers

Packet bytes live in buffers that several handles may address. A pool holds the live buffers with
the number of handles on each. A buffer whose last handle is gone leaves the pool; if its region was
imported, that is when it is handed back, and the pool keeps the list of these releases.

A handle has a window, marks and annotations of its own. It remembers whether it was made as a
clone, and whether it may write: a writable handle is one that an operation has just found, or made,
to be alone on its buffer.
-/

namespace PacketPath

/-- Where the storage of a buffer comes from. -/
inductive Storage
  | heap
  /-- A region owned by someone else, under the name it was imported by. -/
  | imported (name : String)
deriving DecidableEq

abbrev BufferId := Nat

/-- Bytes with the number of handles that address them. -/
structure Buffer where
  bytes : Bytes
  storage : Storage
  uses : Nat
deriving DecidableEq

/-- The handing back of an imported region. -/
structure Release where
  name : String
  length : Nat
deriving DecidableEq

/-- A fresh buffer of zeros, if it is not too large and there is memory for it. -/
def Buffer.allocate (size : Nat) (env : Environment := .standard) : Except AllocError Buffer :=
  (env.room 0 [size]).map fun size => ⟨Bytes.zeros size, .heap, 1⟩

/-- The buffer with as many of the given bytes at its front as it has room for. -/
def Buffer.fill (b : Buffer) (front : Bytes) : Buffer :=
  { b with bytes := b.bytes.overlay 0 (front.take b.bytes.length) }

/-- An imported buffer, without the address of its region. -/
def Buffer.describe (b : Buffer) : String :=
  "ExternalBuf \x7b ptr: PTR, len: " ++ b.bytes.length.repr ++ " \x7d"

/-- What is handed back when a buffer leaves the pool. -/
def Buffer.handedBack (b : Buffer) : List Release :=
  match b.storage with
  | .heap => []
  | .imported name => [⟨name, b.bytes.length⟩]

/-- A packet as its holder sees it. -/
structure Handle where
  buffer : BufferId
  frame : Frame
  annotations : Annotations := {}
  cloned : Bool := false
  writable : Bool := false
deriving DecidableEq

structure Pool where
  buffers : Registry BufferId Buffer := .empty
  /-- The number that the next buffer gets. -/
  next : BufferId := 0
  /-- The regions handed back so far, oldest first. -/
  releases : List Release := []

namespace Pool

instance : Inhabited Pool := ⟨{}⟩

/-! ## Buffers -/

/-- The bytes of a buffer; a buffer that is not in the pool has none. -/
def bytes (p : Pool) (id : BufferId) : Bytes := ((p.buffers.find? id).map (·.bytes)).getD []

/-- The number of handles on a buffer. -/
def uses (p : Pool) (id : BufferId) : Nat := ((p.buffers.find? id).map (·.uses)).getD 0

/-- Adds a buffer with one handle on it. -/
def add (p : Pool) (bytes : Bytes) (storage : Storage) : Pool × BufferId :=
  ({ p with buffers := p.buffers.insert p.next ⟨bytes, storage, 1⟩, next := p.next + 1 }, p.next)

/-- Counts one more handle on a buffer. -/
def retain (p : Pool) (id : BufferId) : Pool :=
  match p.buffers.find? id with
  | some b => { p with buffers := p.buffers.insert id { b with uses := b.uses + 1 } }
  | none => p

/-- Counts one handle less on a buffer; without handles it leaves the pool. -/
def release (p : Pool) (id : BufferId) : Pool :=
  match p.buffers.find? id with
  | some b =>
    if b.uses ≤ 1 then
      { p with buffers := p.buffers.erase id, releases := p.releases ++ b.handedBack }
    else { p with buffers := p.buffers.insert id { b with uses := b.uses - 1 } }
  | none => p

/-- Replaces the bytes of a buffer. -/
def setBytes (p : Pool) (id : BufferId) (bytes : Bytes) : Pool :=
  match p.buffers.find? id with
  | some b => { p with buffers := p.buffers.insert id { b with bytes := bytes } }
  | none => p

/-! ## Handles -/

/-- Whether bytes may be visible through another handle: always for a clone, and otherwise while
there is another handle on the buffer. -/
def shared (p : Pool) (h : Handle) : Bool := h.cloned || 1 < p.uses h.buffer

/-- Whether nobody else can observe a write. -/
def exclusive (p : Pool) (h : Handle) : Bool := !h.cloned && p.uses h.buffer == 1

/-- The length of the whole buffer of a handle. -/
def limit (p : Pool) (h : Handle) : Nat := (p.bytes h.buffer).length

/-- The number of bytes behind the data of a handle. -/
def tailroom (p : Pool) (h : Handle) : Nat := p.limit h - h.frame.stop

/-- The bytes of a region, if it is marked. -/
def view? (p : Pool) (h : Handle) (region : Region) : Option Bytes :=
  (h.frame.span? (p.limit h) region).map fun (first, last) =>
    (p.bytes h.buffer).slice first last

/-- Another handle on the same bytes, with the same window, marks and annotations. -/
def clone (p : Pool) (h : Handle) : Pool × Handle :=
  (p.retain h.buffer, { h with cloned := true, writable := false })

/-- Whether two handles address the same storage. Buffers without bytes cannot be told apart. -/
def sameStorage (p : Pool) (a b : Handle) : Bool :=
  a.buffer == b.buffer || (p.limit a == 0 && p.limit b == 0)

end Pool

namespace Handle

/-- The handle as one that may be shared, and may no longer write. -/
def toShared (h : Handle) : Handle := { h with writable := false }

/-- Resets the annotations and forgets the header marks. -/
def clearAnnotations (h : Handle) : Handle :=
  { h with annotations := {}, frame := h.frame.clearMarks }

end Handle

end PacketPath
