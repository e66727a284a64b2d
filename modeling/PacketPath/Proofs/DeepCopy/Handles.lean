import PacketPath.Proofs.DeepCopy.Owned
import PacketPath.Proofs.Pool.Making

set_option autoImplicit false

/-! # Handles seen as packets of their own

`Pool.owned` forgets which buffer a handle is on and who else is there, and keeps the bytes. Each
operation on a handle does to that packet what the operation of the same name does to a packet with
its own buffer, and fails in the same cases: whether a buffer had to be copied cannot be seen.

The copies that only sharing makes are of buffers that exist already. They fail only if a buffer is
larger than any that is allocated, which imported regions may be.
-/

namespace PacketPath

/-- What a handle stands for: its frame and annotations, and the bytes of its buffer. -/
def Pool.owned (p : Pool) (h : Handle) : Owned :=
  ⟨p.bytes h.buffer, h.frame, h.annotations, h.writable⟩

/-- The packet that an operation gives back. -/
def Resized.owned (r : Resized) : Except ResizeError Owned := r.2.map r.1.owned

/-! ## Growing -/

@[simp] theorem Frame.shift_zero (f : Frame) : f.shift 0 = f := by
  obtain ⟨start, stop, marks⟩ := f
  cases marks <;> rfl

/-- As many bytes as there are behind the data can be added to it. -/
theorem Frame.Fits.stop_add_le {f : Frame} {limit n : Nat} (hf : f.Fits limit)
    (hn : n ≤ limit - f.stop) : f.stop + n ≤ limit := by
  have := hf.2.1
  omega

namespace Owned

variable {o o' : Owned} {front back : Nat}

/-- Without growing, a buffer of permitted size can always be had. -/
theorem grow_zero (hl : o.bytes.length ≤ maxBuffer) : o.grow 0 0 = .ok o := by
  have hsize : allocationSize [0, o.bytes.length, 0] = .ok o.bytes.length := by
    rw [allocationSize_three, Nat.zero_add, Nat.add_zero, if_pos hl]
  simp only [grow, hsize, Frame.shift_zero, Bytes.zeros, List.replicate_zero, List.nil_append,
    List.append_nil]

theorem grow_eq_ok (hg : o.grow front back = .ok o') :
    o'.frame = o.frame.shift front ∧ o'.bytes.length = front + o.bytes.length + back
      ∧ o'.bytes.length ≤ maxBuffer := by
  unfold grow at hg
  split at hg
  · cases hg
  · next size hsize =>
    obtain ⟨-, hle⟩ := allocationSize_eq_ok hsize
    simp only [total] at hle
    cases hg
    simp only [List.length_append, Bytes.length_zeros, true_and]
    omega

/-- What is added when `n` bytes do not fit before the data has room for them. -/
theorem le_start_of_grow {n : Nat} (hg : o.grow (growth n) 0 = .ok o') : n ≤ o'.frame.start := by
  obtain ⟨hframe, hlen, hle⟩ := grow_eq_ok hg
  have hn : n ≤ growth n := le_growth (by omega)
  rw [hframe]
  simp only [Frame.shift]
  omega

/-- What is added when `n` bytes do not fit behind the data has room for them. -/
theorem stop_add_le_of_grow {n : Nat} (hf : o.frame.Fits o.bytes.length)
    (hg : o.grow 0 (growth n) = .ok o') : o'.frame.stop + n ≤ o'.bytes.length := by
  obtain ⟨hframe, hlen, hle⟩ := grow_eq_ok hg
  have hn : n ≤ growth n := le_growth (by omega)
  have hstop := hf.2.1
  rw [hframe, Frame.shift_zero]
  omega

end Owned

namespace Pool

variable {p q : Pool} {h g : Handle} {others : List Handle} {r : Resized}

theorem owned_congr (hq : q.bytes h.buffer = p.bytes h.buffer) : q.owned h = p.owned h := by
  rw [owned, owned, hq]

/-! ## Reading -/

theorem observeHeader_eq (p : Pool) (h : Handle) : p.observeHeader h = (p.owned h).header := by
  cases hm : h.frame.marks with
  | none =>
      simp only [observeHeader, Frame.networkOffset, hm, Owned.header, owned, Option.map_none]
      rfl
  | some m =>
      simp only [observeHeader, view?, Frame.span?, Frame.networkOffset, Frame.networkLength,
        Frame.transportOffset, hm, Owned.header, owned, Option.map_some]
      rfl

/-- What is read through a handle depends on sharing in two fields only. -/
theorem observe_eq (p : Pool) (h : Handle) :
    p.observe h = { (p.owned h).view with shared := p.shared h, uses := p.uses h.buffer } := by
  rw [observe, observeHeader_eq]
  rfl

/-! ## Making -/

theorem owned_addPacket (p : Pool) (bytes : Bytes) (storage : Storage) (start stop : Nat) :
    (p.addPacket bytes storage start stop).1.owned (p.addPacket bytes storage start stop).2
      = { bytes := bytes, frame := ⟨start, stop, none⟩, writable := true } := by
  have hnew : (p.add bytes storage).1.bytes p.next = bytes := by rw [bytes_add, if_pos rfl]
  show Owned.mk ((p.add bytes storage).1.bytes p.next) ⟨start, stop, none⟩ {} true = _
  rw [hnew]

/-- The packet that was made, if one was made. -/
def made {ε : Type} (r : Except ε (Pool × Handle)) : Except ε Owned := r.map fun r => r.1.owned r.2

theorem makeCopy_made (p : Pool) (headroom : Nat) (bytes : Bytes) (tailroom : Nat) :
    made (p.makeCopy headroom bytes tailroom) = Owned.copy headroom bytes tailroom := by
  unfold makeCopy Owned.copy
  rw [Environment.standard_room]
  cases hsize : allocationSize [headroom, bytes.length, tailroom] with
  | error e => rfl
  | ok size =>
      obtain ⟨rfl, -⟩ := allocationSize_eq_ok hsize
      have hroom : headroom + bytes.length
          ≤ max (total [headroom, bytes.length, tailroom]) minBuffer := by
        simp only [total]
        omega
      simp only [made, Except.map, owned_addPacket, Bytes.overlay_zeros hroom]

/-- A packet of zeros is one that holds a copy of zeros. -/
theorem makeZeros_made (p : Pool) (headroom length tailroom : Nat) :
    made (p.makeZeros headroom length tailroom)
      = Owned.copy headroom (Bytes.zeros length) tailroom := by
  have hzeros : ∀ size, headroom + length ≤ size → Bytes.zeros size
      = Bytes.zeros headroom ++ Bytes.zeros length ++ Bytes.zeros (size - (headroom + length)) := by
    intro size hle
    simp only [Bytes.zeros, List.replicate_append_replicate]
    congr 1
    omega
  unfold makeZeros Owned.copy
  rw [Bytes.length_zeros, Environment.standard_room]
  cases hsize : allocationSize [headroom, length, tailroom] with
  | error e => rfl
  | ok size =>
      obtain ⟨rfl, -⟩ := allocationSize_eq_ok hsize
      have hroom : headroom + length ≤ max (total [headroom, length, tailroom]) minBuffer := by
        simp only [total]
        omega
      simp only [made, Except.map, owned_addPacket]
      rw [← hzeros _ hroom]

theorem makeIpv4_made (p : Pool) (bytes : Bytes) :
    (p.makeIpv4 bytes).map (fun r => r.1.owned r.2) = Owned.datagram bytes := by
  have hcopy := makeCopy_made p defaultHeadroom bytes 0
  unfold makeIpv4 Owned.datagram
  rw [← hcopy]
  cases bytes with
  | nil => rfl
  | cons first rest =>
      cases p.makeCopy defaultHeadroom (first :: rest) 0 with
      | error e => rfl
      | ok r =>
          simp only [made, Except.map, owned]
          cases r.2.frame.markHeader 0 (4 * (first &&& 0x0F).toNat) with
          | error e => rfl
          | ok frame => rfl

/-- **Making does not depend on the pool.** -/
theorem make_made (p : Pool) (source : Source) : made (p.make source) = Owned.make source := by
  -- whichever way a failure is reported, the packet is taken out of the result after it or before
  have hfault : ∀ r : Option (Pool × Handle),
      made (make.orFault r) = Owned.make.orFault (r.map fun r => r.1.owned r.2) := by
    intro r
    cases r <;> rfl
  have halloc : ∀ r : Except AllocError (Pool × Handle),
      made (r.mapError MakeError.alloc) = (made r).mapError MakeError.alloc := by
    intro r
    cases r <;> rfl
  have hdatagram : ∀ b : Option Bytes,
      made (make.orFault (b.bind fun bytes => p.makeIpv4 bytes)) = Owned.make.orFault (b.bind Owned.datagram) := by
    intro b
    rw [hfault]
    cases b with
    | none => rfl
    | some bytes => rw [Option.bind_some, Option.bind_some, makeIpv4_made]
  cases source with
  | zeros headroom length tailroom => rw [make, Owned.make, halloc, makeZeros_made]
  | copy headroom bytes tailroom => rw [make, Owned.make, halloc, makeCopy_made]
  | region name bytes =>
      simp only [make, Owned.make, made, importRegion, Except.map, owned_addPacket]
  | tcp flow payload => exact hdatagram _
  | udp flow payload => exact hdatagram _
  | ipv4 bytes => exact hdatagram (some bytes)

/-! ## Writing -/

theorem write_owned (hs : p.Sound (h :: others)) (region : Region) (pos : Nat) (patch : Bytes) :
    (p.write h region pos patch).map (fun q => q.owned h)
      = (p.owned h).write region pos patch := by
  obtain ⟨b, hb⟩ := hs.found List.mem_cons_self
  have hw : (p.owned h).writable = h.writable := rfl
  have hspan : (p.owned h).frame.span? (p.owned h).bytes.length region
      = h.frame.span? (p.limit h) region := rfl
  unfold Pool.write Owned.write
  rw [hw, hspan]
  split
  · rfl
  · next hwritable =>
    cases hregion : h.frame.span? (p.limit h) region with
    | none => rfl
    | some span =>
        obtain ⟨first, last⟩ := span
        have hmay := hs.mayChange (by simpa using hwritable) hregion
        simp only [hmay, Bool.not_true, Bool.false_eq_true, if_false]
        split
        · simp only [Except.map, owned, bytes_setBytes hb, if_true]
        · rfl

/-! ## Moving to a buffer of its own -/

theorem relocate_owned (hs : p.Sound (h :: others)) (front back : Nat) :
    Resized.owned (p.relocate h front back)
      = ((p.owned h).grow front back).map (·.setWritable true) := by
  unfold relocate Owned.grow
  simp only [owned, Environment.standard_room_zero]
  cases allocationSize [front, (p.bytes h.buffer).length, back] with
  | error e => rfl
  | ok size =>
      set bytes := Bytes.zeros front ++ p.bytes h.buffer ++ Bytes.zeros back
      -- the old buffer, which is released, is not the new one
      have hne : h.buffer ≠ p.next := Nat.ne_of_lt (hs.buffer_lt_next List.mem_cons_self)
      have hnew : ((p.add bytes .heap).1.release h.buffer).bytes p.next = bytes := by
        rw [bytes_release_of_ne hne, bytes_add, if_pos rfl]
      show Except.ok (Owned.mk (((p.add bytes .heap).1.release h.buffer).bytes p.next)
        (h.frame.shift front) h.annotations true) = _
      rw [hnew]
      rfl

theorem uniqueify_owned (hs : p.Sound (h :: others)) (hl : p.limit h ≤ maxBuffer) :
    Resized.owned (p.uniqueify h) = .ok ((p.owned h).setWritable true) := by
  unfold uniqueify
  split
  · rfl
  · -- a copy is made, but nothing of it can be seen
    rw [relocate_owned hs, Owned.grow_zero (o := p.owned h) hl]
    rfl

/-! ## Taking room into the data -/

theorem expandFront_owned {o : Owned} {n : Nat} (hr : Resized.owned r = .ok o)
    (hn : n ≤ o.frame.start) : Resized.owned (expandFront n r) = .ok (o.openFront n) := by
  obtain ⟨q, e | g⟩ := r
  · cases hr
  · have hg : q.owned g = o := Except.ok.inj hr
    subst hg
    have hstart : n ≤ g.frame.start := hn
    simp only [expandFront, reframe, Frame.expandFront?, if_pos hstart]
    rfl

theorem expandBack_owned {o : Owned} {n : Nat} (hr : Resized.owned r = .ok o)
    (hn : o.frame.stop + n ≤ o.bytes.length) :
    Resized.owned (expandBack n r) = .ok (o.openBack n) := by
  obtain ⟨q, e | g⟩ := r
  · cases hr
  · have hg : q.owned g = o := Except.ok.inj hr
    subst hg
    have hstop : g.frame.stop + n ≤ q.limit g := hn
    simp only [expandBack, reframe, Frame.expandBack?, if_pos hstop]
    rfl

/-- What has failed stays so. -/
theorem reframe_owned_error {e : ResizeError} (hr : Resized.owned r = .error e)
    (f : Pool → Handle → Option Frame) : Resized.owned (reframe r f) = .error e := by
  obtain ⟨q, e' | g⟩ := r
  · exact hr
  · cases hr

theorem demote_owned (r : Resized) :
    Resized.owned (demote r) = (Resized.owned r).map (·.setWritable false) := by
  obtain ⟨q, e | g⟩ := r <;> rfl

theorem push_owned (hs : p.Sound (h :: others)) (hl : p.limit h ≤ maxBuffer) (n : Nat) :
    Resized.owned (p.push h n) = ((p.owned h).push n).map (·.setWritable true) := by
  unfold Pool.push Owned.push
  by_cases hn : n ≤ (p.owned h).frame.start
  · rw [if_pos hn, if_pos (show n ≤ h.frame.start from hn)]
    exact expandFront_owned (uniqueify_owned hs hl) hn
  · rw [if_neg hn, if_neg (show ¬ n ≤ h.frame.start from hn)]
    -- the buffer grows by as much as it would if it were not shared
    have hmoved := relocate_owned hs (growth n) 0
    cases hg : (p.owned h).grow (growth n) 0 with
    | error e =>
        rw [hg] at hmoved
        exact reframe_owned_error hmoved _
    | ok o =>
        rw [hg] at hmoved
        have hroom : n ≤ o.frame.start := Owned.le_start_of_grow hg
        exact expandFront_owned hmoved hroom

theorem put_owned (hs : p.Sound (h :: others)) (hl : p.limit h ≤ maxBuffer) (n : Nat) :
    Resized.owned (p.put h n) = ((p.owned h).put n).map (·.setWritable true) := by
  have hfits : (p.owned h).frame.Fits (p.owned h).bytes.length := hs.fits h List.mem_cons_self
  unfold Pool.put Owned.put
  by_cases hn : n ≤ (p.owned h).tailroom
  · rw [if_pos hn, if_pos (show n ≤ p.tailroom h from hn)]
    exact expandBack_owned (uniqueify_owned hs hl) (hfits.stop_add_le hn)
  · rw [if_neg hn, if_neg (show ¬ n ≤ p.tailroom h from hn)]
    have hmoved := relocate_owned hs 0 (growth n)
    cases hg : (p.owned h).grow 0 (growth n) with
    | error e =>
        rw [hg] at hmoved
        exact reframe_owned_error hmoved _
    | ok o =>
        rw [hg] at hmoved
        have hroom : o.frame.stop + n ≤ o.bytes.length := Owned.stop_add_le_of_grow hfits hg
        exact expandBack_owned hmoved hroom

/-- Without a buffer of its own a packet can be pushed to just as well. -/
theorem pushShared_owned (hs : p.Sound (h :: others)) (hl : p.limit h ≤ maxBuffer) (n : Nat) :
    Resized.owned (p.pushShared h n) = ((p.owned h).push n).map (·.setWritable false) := by
  unfold pushShared
  rw [demote_owned]
  by_cases hn : n ≤ (p.owned h).frame.start
  · -- the room is taken in place: no byte is written, so no copy is needed
    have hself : Resized.owned (p, .ok h) = .ok (p.owned h) := rfl
    rw [if_pos (show n ≤ h.frame.start from hn), expandFront_owned hself hn, Owned.push, if_pos hn]
  · rw [if_neg (show ¬ n ≤ h.frame.start from hn), push_owned hs hl]
    cases (p.owned h).push n <;> rfl

theorem putShared_owned (hs : p.Sound (h :: others)) (hl : p.limit h ≤ maxBuffer) (n : Nat) :
    Resized.owned (p.putShared h n) = ((p.owned h).put n).map (·.setWritable false) := by
  have hfits : (p.owned h).frame.Fits (p.owned h).bytes.length := hs.fits h List.mem_cons_self
  unfold putShared
  rw [demote_owned]
  by_cases hn : n ≤ (p.owned h).tailroom
  · have hself : Resized.owned (p, .ok h) = .ok (p.owned h) := rfl
    rw [if_pos (show n ≤ p.tailroom h from hn), expandBack_owned hself (hfits.stop_add_le hn),
      Owned.put, if_pos hn]
  · rw [if_neg (show ¬ n ≤ p.tailroom h from hn), put_owned hs hl]
    cases (p.owned h).put n <;> rfl

/-! ## Writing into a packet that was resized -/

theorem overwriteData_owned (hs : r.1.Sound (Resized.survivors r others)) (pos : Nat)
    (patch : Bytes) :
    Resized.owned (overwriteData r pos patch) = Owned.patched (Resized.owned r) pos patch := by
  obtain ⟨q, e | g⟩ := r
  · rfl
  · have hwrite := write_owned hs .data pos patch
    have hr : Resized.owned (q, .ok g) = .ok (q.owned g) := rfl
    simp only [overwriteData, Owned.patched, hr]
    rw [← hwrite]
    cases q.write g .data pos patch <;> rfl

theorem flipBit_owned (hs : p.Sound (h :: others)) (hl : p.limit h ≤ maxBuffer) (offset : Nat)
    (bit : UInt8) :
    Resized.owned (p.flipBit h offset bit) = (p.owned h).resize (.flipBit offset bit) := by
  have hown := uniqueify_leaves hs
  unfold flipBit Owned.resize
  simp only
  by_cases hbit : bit < 8
  · rw [if_pos hbit, if_pos hbit, overwrite, overwriteData_owned hown.sound, uniqueify_owned hs hl]
    rfl
  · rw [if_neg hbit, if_neg hbit]
    cases hr : p.uniqueify h with
    | mk q r => cases r <;> rfl

end Pool

/-- **Resizing does not depend on sharing**: neither the packet that it gives, nor whether and how
it fails. -/
theorem Resizing.apply_owned {p : Pool} {h : Handle} {others : List Handle}
    (hs : p.Sound (h :: others)) (hl : p.limit h ≤ maxBuffer) (how : Resizing) :
    Resized.owned (how.apply p h) = (p.owned h).resize how := by
  cases how with
  | uniqueify => exact Pool.uniqueify_owned hs hl
  | push n => exact Pool.push_owned hs hl n
  | put n => exact Pool.put_owned hs hl n
  | pushShared n => exact Pool.pushShared_owned hs hl n
  | putShared n => exact Pool.putShared_owned hs hl n
  | encapsulate =>
      have hpush := Pool.push_leaves hs ethernetHeader.length
      rw [Resizing.apply, Pool.encapsulate_eq, Pool.overwriteData_owned hpush.sound,
        Pool.push_owned hs hl, Owned.resize]
  | flipBit offset bit => exact Pool.flipBit_owned hs hl offset bit
  | overwrite position bytes =>
      have hown := Pool.uniqueify_leaves hs
      rw [Resizing.apply, Pool.overwrite, Pool.overwriteData_owned hown.sound,
        Pool.uniqueify_owned hs hl, Owned.resize]

end PacketPath
