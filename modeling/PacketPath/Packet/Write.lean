import PacketPath.Packet.Pool

set_option autoImplicit false

/-! # Writing packet bytes

Bytes are written through a writable handle, into a region of its frame and nowhere else.
-/

namespace PacketPath

/-- Why bytes are not written. -/
inductive WriteError
  | notWritable
  /-- The region is a header, and none is marked. -/
  | noHeader
  /-- The bytes do not fit in the region. -/
  | outOfRegion
  /-- The handle is not alone on its buffer, or the region is not inside it. -/
  | fault
deriving DecidableEq

namespace Pool

/-- Whether the bytes of a handle may be changed: nobody else has the buffer, and the positions are
inside it. -/
def mayChange (p : Pool) (h : Handle) (first last : Nat) : Bool :=
  p.exclusive h && decide (first ≤ last ∧ last ≤ p.limit h)

/-- Replaces the bytes from position `pos` of a region on. -/
def write (p : Pool) (h : Handle) (region : Region) (pos : Nat) (patch : Bytes) :
    Except WriteError Pool :=
  if !h.writable then .error .notWritable
  else
    match h.frame.span? (p.limit h) region with
    | none => .error .noHeader
    | some (first, last) =>
      if !p.mayChange h first last then .error .fault
      else if pos + patch.length ≤ last - first then
        .ok (p.setBytes h.buffer ((p.bytes h.buffer).overlay (first + pos) patch))
      else .error .outOfRegion

end Pool

end PacketPath
