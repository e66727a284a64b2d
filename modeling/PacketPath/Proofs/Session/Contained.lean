import PacketPath.Proofs.Packet.Guarded
import PacketPath.Proofs.Session.Ownership
import PacketPath.Proofs.Session.Releases

set_option autoImplicit false

/-! # Packets inside their buffers

The window and the marks of every live packet, under a name or in a sink, lie inside its buffer, and
in order. It follows that nothing that is done to a packet next leaves the sizes of a machine or the
bytes of the buffer, even where it is asked for with sizes that no buffer has (`Contained.safe`).

Buffers are as large as the packet layer allocates them, or as the regions that were imported.
-/

namespace PacketPath

/-- How the live packets of a session lie in their buffers, where some regions were imported. -/
structure Contained (s : Session) (imported : List ImportedRegion) : Prop where
  window : ∀ a h, s.handleAt a = some h →
    h.frame.start ≤ h.frame.stop ∧ h.frame.stop ≤ s.pool.limit h
  marks : ∀ a h m, s.handleAt a = some h → h.frame.marks = some m →
    m.network ≤ m.transport ∧ m.transport ≤ s.pool.limit h
  /-- Headroom, data and tailroom make up the buffer. -/
  divided : ∀ a h, s.handleAt a = some h →
    h.frame.start + h.frame.length + s.pool.tailroom h = s.pool.limit h
  /-- No guard stops an operation on a packet whose buffer is as small as any slice is. -/
  safe : ∀ a h, s.handleAt a = some h → s.pool.limit h ≤ Guarded.maxSigned →
    Guarded.Safe s.pool h
  heap_le : ∀ id b, s.pool.buffers.find? id = some b → b.storage = .heap →
    b.bytes.length ≤ maxBuffer
  /-- Other buffers keep the length that they were imported with. -/
  sized : ∀ a h, s.handleAt a = some h → s.pool.limit h ≤ maxBuffer
    ∨ ∃ r ∈ imported, r.buffer = h.buffer ∧ r.length = s.pool.limit h

open Session in
theorem contained_of_settled {s : Session} {l : List ImportedRegion} (hs : s.Settled l) :
    Contained s l := by
  have hfits : ∀ a h, s.handleAt a = some h → h.frame.Fits (s.pool.limit h) := by
    intro a h ha
    exact (hs.sound.focusAt ha).fits h List.mem_cons_self
  refine ⟨?_, ?_, ?_, ?_, ?_, ?_⟩
  · intro a h ha
    exact ⟨(hfits a h ha).1, (hfits a h ha).2.1⟩
  · intro a h m ha hm
    exact (hfits a h ha).2.2 m hm
  · intro a h ha
    obtain ⟨hwindow, hstop, -⟩ := hfits a h ha
    rw [Frame.length, Pool.tailroom]
    omega
  · intro a h ha hl
    exact Guarded.safe_of_sound (hs.sound.focusAt ha) hl
  · intro id b hb
    exact (Pool.Sound.wellFormed hs.sound id b hb).heap_le
  · intro a h ha
    obtain ⟨b, hb⟩ := (hs.sound.focusAt ha).found List.mem_cons_self
    have hlimit : s.pool.limit h = b.bytes.length := by
      rw [Pool.limit, Pool.bytes, hb]
      rfl
    rw [hlimit]
    cases hstorage : b.storage with
    | heap => exact .inl ((Pool.Sound.wellFormed hs.sound _ b hb).heap_le hstorage)
    | imported name => exact .inr ⟨_, hs.settles.mem_of_imported hb hstorage, rfl, rfl⟩

/-- **Packets stay inside their buffers.** After any commands, in any order and on any packets,
checkers and sinks, whatever sizes they ask for and whatever they answered. -/
theorem contained_run (cs : List Command) :
    Contained (({} : Session).run cs) (({} : Session).imports cs) :=
  contained_of_settled (Session.settled_empty.run cs)

end PacketPath
