import PacketPath.Proofs.Pool.Making

set_option autoImplicit false

/-! # How pools evolve

Whatever an operation does to a pool, it does by a few changes: a buffer is added, a handle on one
is counted or no longer counted, or its bytes are replaced by as many others. `Pool.Evolves` is a
sequence of such changes, with the regions that came in through it. What all changes keep, every
operation keeps.
-/

namespace PacketPath

/-- An imported region: the buffer that was made of it, and what it was imported as. -/
structure ImportedRegion where
  buffer : BufferId
  name : String
  length : Nat
deriving DecidableEq

/-- The handing back of a region. -/
def ImportedRegion.release (r : ImportedRegion) : Release := ⟨r.name, r.length⟩

/-- The region that a new buffer of `length` bytes is, if it was imported. -/
def Storage.regions (buffer : BufferId) (length : Nat) : Storage → List ImportedRegion
  | .heap => []
  | .imported name => [⟨buffer, name, length⟩]

/-- The region that a packet is made of, if it is imported. -/
def Source.regions (buffer : BufferId) : Source → List ImportedRegion
  | .region name bytes => [⟨buffer, name, bytes.length⟩]
  | _ => []

namespace Pool

/-- From the pool `p` changes lead to another one, and meanwhile some regions are imported. -/
inductive Evolves (p : Pool) : List ImportedRegion → Pool → Prop
  | refl : Evolves p [] p
  | add {rs : List ImportedRegion} {q : Pool} (bytes : Bytes) (storage : Storage) : Evolves p rs q →
      Evolves p (rs ++ storage.regions q.next bytes.length) (q.add bytes storage).1
  | retain {rs : List ImportedRegion} {q : Pool} (id : BufferId) : Evolves p rs q →
      Evolves p rs (q.retain id)
  | release {rs : List ImportedRegion} {q : Pool} (id : BufferId) : Evolves p rs q →
      Evolves p rs (q.release id)
  | setBytes {rs : List ImportedRegion} {q : Pool} (id : BufferId) (bytes : Bytes)
      (hl : bytes.length = (q.bytes id).length) : Evolves p rs q → Evolves p rs (q.setBytes id bytes)

variable {p q r : Pool} {rs rs' : List ImportedRegion} {h g : Handle} {id : BufferId} {x : Resized}

/-! ## Buffers that are gone -/

theorem find?_retain_eq_none {i : BufferId} (hnone : p.buffers.find? id = none) :
    (p.retain i).buffers.find? id = none := by
  cases hi : p.buffers.find? i with
  | none => simpa only [Pool.retain, hi] using hnone
  | some b =>
      rw [find?_retain hi, hnone, if_neg]
      rintro rfl
      rw [hnone] at hi
      cases hi

theorem find?_release_eq_none {i : BufferId} (hnone : p.buffers.find? id = none) :
    (p.release i).buffers.find? id = none := by
  by_contra hn
  obtain ⟨c, hc⟩ := Option.ne_none_iff_exists'.mp hn
  obtain ⟨b, hb, -⟩ := find?_of_release hc
  rw [hnone] at hb
  cases hb

theorem find?_setBytes_eq_none {i : BufferId} {bytes : Bytes}
    (hnone : p.buffers.find? id = none) : (p.setBytes i bytes).buffers.find? id = none := by
  cases hi : p.buffers.find? i with
  | none => simpa only [Pool.setBytes, hi] using hnone
  | some b =>
      rw [find?_setBytes hi, hnone, if_neg]
      rintro rfl
      rw [hnone] at hi
      cases hi

/-! ## What was handed back -/

theorem releases_retain (p : Pool) (id : BufferId) : (p.retain id).releases = p.releases := by
  unfold retain
  split <;> rfl

theorem releases_setBytes (p : Pool) (id : BufferId) (bytes : Bytes) :
    (p.setBytes id bytes).releases = p.releases := by
  unfold setBytes
  split <;> rfl

theorem releases_le_release (p : Pool) (id : BufferId) :
    p.releases <+: (p.release id).releases := by
  unfold release
  split
  · split
    · exact List.prefix_append _ _
    · exact List.prefix_rfl
  · exact List.prefix_rfl

/-! ## Sequences of changes -/

namespace Evolves

theorem trans (hpq : p.Evolves rs q) (hqr : q.Evolves rs' r) : p.Evolves (rs ++ rs') r := by
  induction hqr with
  | refl => rwa [List.append_nil]
  | add bytes storage _ ih =>
      rw [← List.append_assoc]
      exact ih.add bytes storage
  | retain id _ ih => exact ih.retain id
  | release id _ ih => exact ih.release id
  | setBytes id bytes hl _ ih => exact ih.setBytes id bytes hl

/-- Changes by which no region comes in. -/
theorem followed (hpq : p.Evolves rs q) (hqr : q.Evolves [] r) : p.Evolves rs r := by
  have := hpq.trans hqr
  rwa [List.append_nil] at this

/-- A buffer on the heap is no region. -/
theorem allocate (hpq : p.Evolves rs q) (bytes : Bytes) : p.Evolves rs (q.add bytes .heap).1 := by
  have := hpq.add bytes .heap
  rwa [Storage.regions, List.append_nil] at this

/-! ## What changes keep -/

theorem next_le (hpq : p.Evolves rs q) : p.next ≤ q.next := by
  induction hpq with
  | refl => exact Nat.le_refl _
  | add bytes storage _ ih => exact Nat.le_succ_of_le ih
  | retain id _ ih => rwa [next_retain]
  | release id _ ih => rwa [next_release]
  | setBytes id bytes hl _ ih => rwa [next_setBytes]

/-- A buffer that has left the pool does not come back. -/
theorem find?_eq_none (hpq : p.Evolves rs q) (hid : id < p.next)
    (hnone : p.buffers.find? id = none) : q.buffers.find? id = none := by
  induction hpq with
  | refl => exact hnone
  | add bytes storage hq ih =>
      -- the new buffer has a number that had not been given before
      rw [find?_add, if_neg (Nat.ne_of_gt (Nat.lt_of_lt_of_le hid hq.next_le)), ih]
  | retain i _ ih => exact find?_retain_eq_none ih
  | release i _ ih => exact find?_release_eq_none ih
  | setBytes i bytes hl _ ih => exact find?_setBytes_eq_none ih

/-- What was handed back stays on record. -/
theorem releases_le (hpq : p.Evolves rs q) : p.releases <+: q.releases := by
  induction hpq with
  | refl => exact List.prefix_rfl
  | add bytes storage _ ih => exact ih
  | retain id _ ih => rwa [releases_retain]
  | release id _ ih => exact ih.trans (releases_le_release _ id)
  | setBytes id bytes hl _ ih => rwa [releases_setBytes]

end Evolves

/-! ## Operations -/

theorem evolves_relocate (front back : Nat) : p.Evolves [] (p.relocate h front back).1 := by
  unfold relocate
  simp only
  split
  · exact Evolves.refl.release _
  · exact (Evolves.refl.allocate _).release _

theorem evolves_reframe {f : Pool → Handle → Option Frame} (hx : p.Evolves rs x.1) :
    p.Evolves rs (reframe x f).1 := by
  obtain ⟨q, e | g⟩ := x
  · exact hx
  · unfold reframe
    simp only
    split
    · exact hx
    · exact hx.release _

theorem evolves_uniqueify : p.Evolves [] (p.uniqueify h).1 := by
  unfold uniqueify
  split
  · exact .refl
  · exact evolves_relocate 0 0

theorem evolves_push (n : Nat) : p.Evolves [] (p.push h n).1 := by
  unfold push
  split
  · exact evolves_reframe evolves_uniqueify
  · exact evolves_reframe (evolves_relocate _ _)

theorem evolves_put (n : Nat) : p.Evolves [] (p.put h n).1 := by
  unfold put
  split
  · exact evolves_reframe evolves_uniqueify
  · exact evolves_reframe (evolves_relocate _ _)

/-- What is written is as long as what it replaces. -/
theorem evolves_write {region : Region} {pos : Nat} {patch : Bytes}
    (hq : p.write h region pos patch = .ok q) : p.Evolves [] q := by
  obtain ⟨-, first, last, -, hle, hlim, hroom, rfl⟩ := write_eq_ok hq
  refine Evolves.refl.setBytes _ _ (Bytes.length_overlay ?_)
  rw [Pool.limit] at hlim
  omega

theorem evolves_overwriteData (hx : p.Evolves rs x.1) (pos : Nat) (patch : Bytes) :
    p.Evolves rs (overwriteData x pos patch).1 := by
  obtain ⟨q, e | g⟩ := x
  · exact hx
  · unfold overwriteData
    simp only
    split
    · next q' hq' => exact hx.followed (evolves_write hq')
    · exact hx.release _

theorem evolves_pushShared (n : Nat) : p.Evolves [] (p.pushShared h n).1 := by
  show p.Evolves [] (if n ≤ h.frame.start then expandFront n (p, .ok h) else p.push h n).1
  split
  · exact evolves_reframe .refl
  · exact evolves_push n

theorem evolves_putShared (n : Nat) : p.Evolves [] (p.putShared h n).1 := by
  show p.Evolves [] (if n ≤ p.tailroom h then expandBack n (p, .ok h) else p.put h n).1
  split
  · exact evolves_reframe .refl
  · exact evolves_put n

theorem evolves_flipBit (offset : Nat) (bit : UInt8) :
    p.Evolves [] (p.flipBit h offset bit).1 := by
  unfold flipBit
  simp only
  split
  · exact evolves_overwriteData evolves_uniqueify offset _
  · exact evolves_overwriteData (evolves_reframe evolves_uniqueify) offset _

theorem evolves_resize (how : Resizing) : p.Evolves [] (how.apply p h).1 := by
  cases how with
  | uniqueify => exact evolves_uniqueify
  | push n => exact evolves_push n
  | put n => exact evolves_put n
  | pushShared n => exact evolves_pushShared n
  | putShared n => exact evolves_putShared n
  | encapsulate => exact evolves_overwriteData (evolves_push _) 0 _
  | flipBit offset bit => exact evolves_flipBit offset bit
  | overwrite position bytes => exact evolves_overwriteData evolves_uniqueify position bytes

theorem evolves_clone : p.Evolves [] (p.clone h).1 := Evolves.refl.retain _

/-! ## Making -/

theorem makeCopy_eq_ok {headroom tailroom : Nat} {bytes : Bytes}
    (hm : p.makeCopy headroom bytes tailroom = .ok (q, h)) :
    ∃ bytes, q = (p.add bytes .heap).1 ∧ h.buffer = p.next := by
  unfold makeCopy at hm
  split at hm
  · cases hm
  · cases hm
    exact ⟨_, rfl, rfl⟩

theorem makeZeros_eq_ok {headroom length tailroom : Nat}
    (hm : p.makeZeros headroom length tailroom = .ok (q, h)) :
    ∃ bytes, q = (p.add bytes .heap).1 ∧ h.buffer = p.next := by
  unfold makeZeros at hm
  split at hm
  · cases hm
  · cases hm
    exact ⟨_, rfl, rfl⟩

theorem makeIpv4_eq_some {bytes : Bytes} (hm : p.makeIpv4 bytes = some (q, h)) :
    ∃ bytes, q = (p.add bytes .heap).1 ∧ h.buffer = p.next := by
  unfold makeIpv4 at hm
  split at hm
  · next q' h' hcopy =>
    split at hm
    · cases hm
      exact makeCopy_eq_ok (h := h') hcopy
    · cases hm
  · cases hm

/-- A made packet is on a new buffer, which is a region if it was imported. -/
theorem make_eq_ok {source : Source} (hm : p.make source = .ok (q, h)) :
    p.Evolves (source.regions p.next) q ∧ h.buffer = p.next := by
  have hheap : (∃ bytes, q = (p.add bytes .heap).1 ∧ h.buffer = p.next) →
      p.Evolves [] q ∧ h.buffer = p.next := by
    rintro ⟨bytes, rfl, hb⟩
    exact ⟨Evolves.refl.allocate bytes, hb⟩
  cases source with
  | zeros headroom length tailroom => exact hheap (makeZeros_eq_ok (mapError_eq_ok hm))
  | copy headroom bytes tailroom => exact hheap (makeCopy_eq_ok (mapError_eq_ok hm))
  | region name bytes =>
      cases hm
      exact ⟨Evolves.refl.add bytes (.imported name), rfl⟩
  | tcp flow payload =>
      obtain ⟨datagram, -, hd⟩ := Option.bind_eq_some_iff.mp (orFault_eq_ok hm)
      exact hheap (makeIpv4_eq_some hd)
  | udp flow payload =>
      obtain ⟨datagram, -, hd⟩ := Option.bind_eq_some_iff.mp (orFault_eq_ok hm)
      exact hheap (makeIpv4_eq_some hd)
  | ipv4 bytes => exact hheap (makeIpv4_eq_some (orFault_eq_ok hm))

end Pool

end PacketPath
