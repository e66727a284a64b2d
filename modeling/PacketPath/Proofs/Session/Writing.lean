import PacketPath.Proofs.Packet.Guarded
import PacketPath.Proofs.Session.Resizing

set_option autoImplicit false

/-! # Writing through a packet

What a write into one region of a packet changes. The regions are stretches of one buffer and
overlap each other: a header may start in the headroom, and the whole buffer is a region too. So a
write into one of them shows in the others, and it shows there exactly where they overlap. It
shows nowhere else: the packet has the buffer to itself.
-/

namespace PacketPath

/-! ## Regions that are read -/

namespace PacketView

/-- What is read of a region, if it is marked. -/
def region? (v : PacketView) : Region → Option Bytes
  | .data => some v.data
  | .buffer => some v.buffer
  | .network => v.header.map (·.network)
  | .transport => v.header.map (·.transport)

/-- Where in the buffer a region starts. A header that lies behind the data starts at its end. -/
def start? (v : PacketView) : Region → Option Nat
  | .data => some v.headroom
  | .buffer => some 0
  | .network => v.header.map fun w => header v w.networkOffset
  | .transport => v.header.map fun w => header v w.transportOffset
where
  header (v : PacketView) (offset : Int) : Nat :=
    min (v.headroom + offset).toNat (v.headroom + v.length)

/-- What is read of a packet besides bytes. -/
def withoutBytes (v : PacketView) : PacketView :=
  { v with
    data := []
    buffer := []
    header := v.header.map fun w => { w with network := [], transport := [] } }

end PacketView

/-- How a packet looks after the bytes from position `pos` of its buffer on were replaced. -/
structure Overwritten (pos : Nat) (patch : Bytes) (v v' : PacketView) : Prop where
  buffer : v'.buffer = v.buffer.overlay pos patch
  /-- Every region shows the patch where it overlaps with it, and what it showed elsewhere. -/
  shown : ∀ region first bytes, v.start? region = some first → v.region? region = some bytes →
    ∃ bytes', v'.region? region = some bytes' ∧ bytes'.length = bytes.length
      ∧ ∀ i < bytes.length, bytes'[i]? =
        if pos ≤ first + i ∧ first + i < pos + patch.length then patch[first + i - pos]?
        else bytes[i]?
  rest : v'.withoutBytes = v.withoutBytes

/-- What a write into the packet `h` does, which is under a name of a session. -/
structure Writing (s : Session) (packet : String) (h : Handle) : Prop where
  /-- The bytes that may be changed are those that are read. -/
  spans : ∀ region,
    Guarded.viewMut? s.pool h region = some ((s.pool.observe h).region? region)
  /-- They stand in the buffer from where the region starts, and there they are changed. -/
  located : ∀ region bytes, (s.pool.observe h).region? region = some bytes →
    ∃ first, (s.pool.observe h).start? region = some first
      ∧ bytes = (s.pool.observe h).buffer.slice first (first + bytes.length)
      ∧ Guarded.boundsMut? s.pool h region = some (some (first, first + bytes.length))
  absent : ∀ region pos patch, (s.pool.observe h).region? region = none →
    s.step (.write packet region pos patch) = (s, .nothing)
  refused : ∀ region pos patch bytes, (s.pool.observe h).region? region = some bytes →
    bytes.length < pos + patch.length →
    s.step (.write packet region pos patch) = (s, .outOfRegion)
  /-- Of the session only the pool is another one, and only through `h` is that seen. -/
  written : ∀ region pos patch first bytes, (s.pool.observe h).start? region = some first →
    (s.pool.observe h).region? region = some bytes → pos + patch.length ≤ bytes.length →
    ∃ q, s.step (.write packet region pos patch) = ({ s with pool := q }, .done)
      ∧ Overwritten (first + pos) patch (s.pool.observe h) (q.observe h)
      ∧ ∀ a k, a ≠ .packet packet → s.handleAt a = some k → q.observe k = s.pool.observe k

namespace Pool

variable {p q : Pool} {h : Handle} {others : List Handle} {region : Region} {pos : Nat}
  {patch : Bytes}

theorem region?_observe (p : Pool) (h : Handle) (region : Region) :
    (p.observe h).region? region = p.view? h region := by
  have hheader : (p.observe h).header = p.observeHeader h := rfl
  cases region with
  | data => rfl
  | buffer =>
      show some (p.bytes h.buffer) = some ((p.bytes h.buffer).slice 0 (p.bytes h.buffer).length)
      rw [Bytes.slice, List.take_length, List.drop_zero]
  | network | transport =>
      rw [PacketView.region?, hheader, observeHeader_eq, view?, Frame.span?, Owned.header, owned,
        Option.map_map, Option.map_map]
      rfl

theorem start?_observe (hf : h.frame.Fits (p.limit h)) (region : Region) :
    (p.observe h).start? region = (h.frame.span? (p.limit h) region).map (·.1) := by
  have hheader : (p.observe h).header = p.observeHeader h := rfl
  have hstop : h.frame.start + h.frame.length = h.frame.stop := Nat.add_sub_cancel' hf.1
  have hmark : ∀ mark : Nat, (h.frame.start + ((mark : Int) - h.frame.start)).toNat = mark :=
    fun mark => by omega
  cases region with
  | data | buffer => rfl
  | network | transport =>
      rw [PacketView.start?, hheader, observeHeader_eq, Frame.span?, Owned.header, owned,
        Option.map_map, Option.map_map]
      refine congrArg (Option.map · h.frame.marks) (funext fun m => ?_)
      show min (h.frame.start + (_ - (h.frame.start : Int))).toNat (h.frame.start + h.frame.length)
        = _
      rw [hmark, hstop]
      rfl

/-- A region is read and written between the same positions, which are inside the buffer. -/
theorem span?_of_region? {bytes : Bytes} (hf : h.frame.Fits (p.limit h))
    (hr : (p.observe h).region? region = some bytes) :
    ∃ first, h.frame.span? (p.limit h) region = some (first, first + bytes.length)
      ∧ (p.observe h).start? region = some first ∧ first + bytes.length ≤ p.limit h
      ∧ bytes = (p.bytes h.buffer).slice first (first + bytes.length) := by
  rw [region?_observe, view?] at hr
  obtain ⟨⟨first, last⟩, hspan, rfl⟩ := Option.map_eq_some_iff.mp hr
  obtain ⟨hle, hlast⟩ := hf.span hspan
  have hend : first + ((p.bytes h.buffer).slice first last).length = last := by
    rw [Bytes.length_slice hlast, Nat.add_sub_cancel' hle]
  refine ⟨first, by rw [hend, hspan], ?_, by rwa [hend], by rw [hend]⟩
  rw [start?_observe hf, hspan]
  rfl

/-- A write through a writable handle is refused for want of a header or of room only. -/
theorem write_of_writable (hs : p.Sound (h :: others)) (hw : h.writable = true) (region : Region)
    (pos : Nat) (patch : Bytes) :
    p.write h region pos patch = match h.frame.span? (p.limit h) region with
      | none => .error .noHeader
      | some (first, last) =>
        if pos + patch.length ≤ last - first then
          .ok (p.setBytes h.buffer ((p.bytes h.buffer).overlay (first + pos) patch))
        else .error .outOfRegion := by
  unfold Pool.write
  rw [hw]
  cases hspan : h.frame.span? (p.limit h) region with
  | none => rfl
  | some span =>
      simp only [hs.mayChange hw hspan, Bool.not_true, Bool.false_eq_true, if_false]

/-- In a buffer of the same length, with as many handles on it, only bytes can look different. -/
theorem withoutBytes_congr (hl : q.limit h = p.limit h)
    (hu : q.uses h.buffer = p.uses h.buffer) :
    (q.observe h).withoutBytes = (p.observe h).withoutBytes := by
  have hheader : ∀ p : Pool, (p.observe h).withoutBytes.header
      = h.frame.marks.map fun m =>
        { networkOffset := (m.network : Int) - h.frame.start
          networkLength := m.transport - m.network
          transportOffset := (m.transport : Int) - h.frame.start
          network := [], transport := [] } := by
    intro p
    show (p.observeHeader h).map _ = _
    rw [observeHeader_eq, Owned.header, Option.map_map]
    rfl
  have htailroom : q.tailroom h = p.tailroom h := by rw [tailroom, tailroom, hl]
  have hshared : q.shared h = p.shared h := by rw [shared, shared, hu]
  rw [PacketView.withoutBytes, PacketView.withoutBytes, PacketView.mk.injEq]
  refine ⟨rfl, rfl, rfl, htailroom, hl, hshared, hu, rfl, rfl, ?_⟩
  exact (hheader q).trans (hheader p).symm

/-- A stretch of the buffer was replaced, whichever region it was written through. -/
theorem overwritten (hs : p.Sound (h :: others)) (hfit : pos + patch.length ≤ p.limit h) :
    Overwritten pos patch (p.observe h)
      ((p.setBytes h.buffer ((p.bytes h.buffer).overlay pos patch)).observe h) := by
  obtain ⟨b, hb⟩ := hs.found List.mem_cons_self
  have hframe : h.frame.Fits (p.limit h) := hs.fits h List.mem_cons_self
  set q := p.setBytes h.buffer ((p.bytes h.buffer).overlay pos patch) with hq
  have hbytes : q.bytes h.buffer = (p.bytes h.buffer).overlay pos patch := by
    rw [hq, bytes_setBytes hb, if_pos rfl]
  have hlimit : q.limit h = p.limit h := limit_setBytes hb (Bytes.length_overlay hfit) h
  refine ⟨hbytes, fun region first bytes hfirst hregion => ?_,
    withoutBytes_congr hlimit (uses_setBytes _)⟩
  obtain ⟨first', hspan, hstart, hend, hold⟩ := span?_of_region? hframe hregion
  obtain rfl : first' = first := Option.some.inj (hstart.symm.trans hfirst)
  -- the region is between the same positions as before, so its bytes are those of the new buffer
  refine ⟨(q.bytes h.buffer).slice first' (first' + bytes.length), ?_, ?_, fun i hi => ?_⟩
  · rw [region?_observe, view?, hlimit, hspan]
    rfl
  · rw [Bytes.length_slice (hend.trans_eq hlimit.symm), Nat.add_sub_cancel_left]
  · have hin : first' + i < first' + bytes.length := Nat.add_lt_add_left hi first'
    have hwas : bytes[i]? = (p.bytes h.buffer)[first' + i]? := by
      rw [hold, Bytes.getElem?_slice hin]
    rw [Bytes.getElem?_slice hin, hbytes, Bytes.getElem?_overlay hfit, hwas]

end Pool

namespace Session

variable {s : Session} {packet : String} {h : Handle}

theorem Sound.writing (hs : s.Sound) (hf : s.packets.find? packet = some h)
    (hw : h.writable = true) : Writing s packet h := by
  have hlive : s.pool.Sound (h :: s.others packet) := hs.focus hf
  have hframe : h.frame.Fits (s.pool.limit h) := hs.fits hf
  have hex : s.pool.exclusive h = true := hlive.exclusive h List.mem_cons_self hw
  have hwrite := Pool.write_of_writable hlive hw
  refine ⟨fun region => ?_, fun region bytes hr => ?_, fun region pos patch hr => ?_,
    fun region pos patch bytes hr hlarge => ?_,
    fun region pos patch first bytes hfirst hr hroom => ?_⟩
  · rw [Guarded.viewMut?_eq hframe hex, Pool.region?_observe]
  · obtain ⟨first, hspan, hstart, -, hbytes⟩ := Pool.span?_of_region? hframe hr
    exact ⟨first, hstart, hbytes, by rw [Guarded.boundsMut?_eq hframe hex, hspan]⟩
  · replace hwrite := hwrite region pos patch
    rw [Pool.region?_observe, Pool.view?, Option.map_eq_none_iff] at hr
    rw [hr] at hwrite
    simp only [Session.step, Session.write, withPacket_some hf, hwrite]
  · replace hwrite := hwrite region pos patch
    obtain ⟨first, hspan, -⟩ := Pool.span?_of_region? hframe hr
    have hbeyond : ¬ pos + patch.length ≤ first + bytes.length - first := by omega
    rw [hspan] at hwrite
    simp only [Session.step, Session.write, withPacket_some hf, hwrite, if_neg hbeyond]
  · replace hwrite := hwrite region pos patch
    obtain ⟨first', hspan, hstart, hend, -⟩ := Pool.span?_of_region? hframe hr
    obtain rfl : first' = first := Option.some.inj (hstart.symm.trans hfirst)
    have hinside : pos + patch.length ≤ first' + bytes.length - first' := by omega
    rw [hspan] at hwrite
    simp only [if_pos hinside] at hwrite
    refine ⟨_, ?_, Pool.overwritten hlive (by omega), fun a k hne ha => ?_⟩
    · simp only [Session.step, Session.write, withPacket_some hf, hwrite]
    · obtain ⟨-, hkeeps, -⟩ := Pool.write_leaves hlive hwrite
      exact hkeeps.observe_congr (mem_others_iff.mpr ⟨a, hne, ha⟩) (Pool.uses_setBytes _)

end Session

/-- **A write changes one stretch of one buffer**, through whichever region it is made, and is seen
by nobody else. In any session, for any packet that may be written to. -/
theorem write_contained (cs : List Command) (packet : String) (h : Handle)
    (hf : (({} : Session).run cs).packets.find? packet = some h) (hw : h.writable = true) :
    Writing (({} : Session).run cs) packet h :=
  (Session.sound_empty.run cs).writing hf hw

/-- A header was pulled, and its last byte is written together with the first byte of the data. The
clone of another packet, in a large region, does not see that. -/
theorem write_contained_pulledHeader :
    let cs : List Command := [.make "p" (.copy 4 [1, 2, 3, 4, 5] 0), .adjust "p" (.markHeader 0 3),
      .adjust "p" (.pull 3), .make "o" (.region "r" (Bytes.zeros 131073)), .clone "o" "c"]
    let s := ({} : Session).run cs
    let after := s.step (.write "p" .network 2 [8, 9])
    ∃ h k, s.packets.find? "p" = some h ∧ s.packets.find? "c" = some k
      ∧ after.2 = .done
      ∧ Overwritten 6 [8, 9] (s.pool.observe h) (after.1.pool.observe h)
      ∧ (s.view "p").map (·.data) = some [4, 5] ∧ (after.1.view "p").map (·.data) = some [9, 5]
      ∧ after.1.pool.observe k = s.pool.observe k := by
  intro cs s after
  obtain ⟨h, hf⟩ : ∃ h, s.packets.find? "p" = some h := ⟨_, rfl⟩
  obtain ⟨k, hk⟩ : ∃ k, s.packets.find? "c" = some k := ⟨_, rfl⟩
  have hwritable : (s.packets.find? "p").map (·.writable) = some true := by decide +kernel
  have hstart : (s.packets.find? "p").map (fun h => (s.pool.observe h).start? .network)
      = some (some 4) := by decide +kernel
  have hregion : (s.packets.find? "p").map (fun h => (s.pool.observe h).region? .network)
      = some (some [1, 2, 3, 4, 5]) := by decide +kernel
  have hbefore : (s.view "p").map (·.data) = some [4, 5] := by decide +kernel
  have hafter : (after.1.view "p").map (·.data) = some [9, 5] := by decide +kernel
  rw [hf, Option.map_some, Option.some_inj] at hwritable hstart hregion
  obtain ⟨q, hstep, hview, hothers⟩ := (write_contained cs "p" h hf hwritable).written
    .network 2 [8, 9] 4 _ hstart hregion (by decide)
  have hpool : after.1.pool = q := congrArg (fun r => r.1.pool) hstep
  rw [hpool]
  exact ⟨h, k, hf, hk, congrArg Prod.snd hstep, hview, hbefore, hafter,
    hothers (.packet "c") k (by decide) hk⟩

end PacketPath
