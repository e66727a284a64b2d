import PacketPath.Packet.Pool.Lemmas
import PacketPath.Packet.Resize
import Mathlib.Data.List.Basic
import Mathlib.Tactic.Basic

set_option autoImplicit false

/-! # Pools that account for their handles

A pool does not know which handles exist: it only counts them. `Pool.Sound p live` says that the
counts are right for the list `live` of all live handles, and what follows the discipline of clones
and writable handles: no two originals on one buffer, and nobody beside a writable handle.

The list has no order. Each operation of a pool is described as an exchange in it: some handles at
the front leave, others take their place, and the rest sees no difference (`Pool.Keeps`).
-/

namespace PacketPath

/-! ## Counting handles -/

/-- The number of handles on a buffer. -/
def handlesOn (live : List Handle) (id : BufferId) : Nat := live.countP (·.buffer == id)

/-- The number of handles on a buffer that are no clones. -/
def originalsOn (live : List Handle) (id : BufferId) : Nat :=
  live.countP fun h => h.buffer == id && !h.cloned

variable {live live' : List Handle} {h g : Handle} {id : BufferId}

theorem handlesOn_cons (h : Handle) (live : List Handle) (id : BufferId) :
    handlesOn (h :: live) id = handlesOn live id + if h.buffer = id then 1 else 0 := by
  simp only [handlesOn, List.countP_cons, beq_iff_eq]

theorem originalsOn_cons (h : Handle) (live : List Handle) (id : BufferId) :
    originalsOn (h :: live) id
      = originalsOn live id + if h.buffer = id ∧ h.cloned = false then 1 else 0 := by
  simp only [originalsOn, List.countP_cons, Bool.and_eq_true, beq_iff_eq, Bool.not_eq_true']

theorem handlesOn_cons_congr (hb : g.buffer = h.buffer) :
    handlesOn (g :: live) id = handlesOn (h :: live) id := by
  simp only [handlesOn_cons, hb]

theorem originalsOn_cons_congr (hb : g.buffer = h.buffer) (hc : g.cloned = h.cloned) :
    originalsOn (g :: live) id = originalsOn (h :: live) id := by
  simp only [originalsOn_cons, hb, hc]

theorem originalsOn_cons_of_cloned (hc : g.cloned = true) :
    originalsOn (g :: live) id = originalsOn live id := by
  rw [originalsOn_cons, if_neg (by simp [hc]), Nat.add_zero]

theorem handlesOn_perm (hp : live.Perm live') (id : BufferId) :
    handlesOn live id = handlesOn live' id := hp.countP_eq _

theorem originalsOn_perm (hp : live.Perm live') (id : BufferId) :
    originalsOn live id = originalsOn live' id := hp.countP_eq _

theorem originalsOn_le_handlesOn (live : List Handle) (id : BufferId) :
    originalsOn live id ≤ handlesOn live id := by
  refine List.countP_mono_left fun h _ hh => ?_
  rw [Bool.and_eq_true] at hh
  exact hh.1

theorem handlesOn_pos_iff : 0 < handlesOn live id ↔ ∃ h ∈ live, h.buffer = id := by
  simp only [handlesOn, List.countP_pos_iff, beq_iff_eq]

theorem originalsOn_pos_iff :
    0 < originalsOn live id ↔ ∃ h ∈ live, h.buffer = id ∧ h.cloned = false := by
  simp only [originalsOn, List.countP_pos_iff, Bool.and_eq_true, beq_iff_eq, Bool.not_eq_true']

/-- What holds of every buffer in a pool. -/
structure Buffer.WellFormed (b : Buffer) : Prop where
  inUse : 0 < b.uses
  heap_le : b.storage = .heap → b.bytes.length ≤ maxBuffer

namespace Pool

/-! ## The invariant -/

/-- The pool accounts for the live handles. -/
structure Sound (p : Pool) (live : List Handle) : Prop where
  /-- A buffer counts the live handles on it. -/
  uses_eq : ∀ id, p.uses id = handlesOn live id
  originals_le : ∀ id, originalsOn live id ≤ 1
  /-- A writable handle is an original, and alone on its buffer. -/
  exclusive : ∀ h ∈ live, h.writable = true → p.exclusive h = true
  fits : ∀ h ∈ live, h.frame.Fits (p.limit h)
  /-- The numbers from `next` on have not been given to buffers. -/
  fresh : ∀ id, p.next ≤ id → p.buffers.find? id = none
  wellFormed : ∀ id b, p.buffers.find? id = some b → b.WellFormed

/-- Between two states of a pool, no byte changes that some handles can see. -/
def Keeps (p q : Pool) (live : List Handle) : Prop :=
  ∀ h ∈ live, q.bytes h.buffer = p.bytes h.buffer

variable {p q r : Pool} {b : Buffer}

theorem Keeps.refl (p : Pool) (live : List Handle) : p.Keeps p live := fun _ _ => rfl

theorem Keeps.trans (hpq : p.Keeps q live) (hqr : q.Keeps r live) : p.Keeps r live :=
  fun h hh => (hqr h hh).trans (hpq h hh)

theorem exclusive_iff : p.exclusive h = true ↔ h.cloned = false ∧ p.uses h.buffer = 1 := by
  simp only [Pool.exclusive, Bool.and_eq_true, Bool.not_eq_true', beq_iff_eq]

/-- Whether a handle is alone depends on its buffer and on how it was made only. -/
theorem exclusive_congr (hb : g.buffer = h.buffer) (hc : g.cloned = h.cloned) :
    p.exclusive g = p.exclusive h := by
  rw [Pool.exclusive, Pool.exclusive, hb, hc]

/-- A write that keeps the length of a buffer changes no lengths. -/
theorem limit_setBytes (hb : p.buffers.find? h.buffer = some b) {bytes : Bytes}
    (hl : bytes.length = p.limit h) (g : Handle) :
    (p.setBytes h.buffer bytes).limit g = p.limit g := by
  rw [Pool.limit, bytes_setBytes hb]
  split
  · next hi => rw [hl, Pool.limit, Pool.limit, hi]
  · rfl

theorem sound_empty : ({} : Pool).Sound [] where
  uses_eq := fun _ => rfl
  originals_le := fun _ => Nat.zero_le 1
  exclusive := fun _ hh => absurd hh List.not_mem_nil
  fits := fun _ hh => absurd hh List.not_mem_nil
  fresh := fun _ _ => rfl
  wellFormed := fun _ _ hb => nomatch hb

namespace Sound

theorem perm (hs : p.Sound live) (hp : live.Perm live') : p.Sound live' where
  uses_eq := fun id => (hs.uses_eq id).trans (handlesOn_perm hp id)
  originals_le := fun id => originalsOn_perm hp id ▸ hs.originals_le id
  exclusive := fun h hh => hs.exclusive h (hp.mem_iff.mpr hh)
  fits := fun h hh => hs.fits h (hp.mem_iff.mpr hh)
  fresh := hs.fresh
  wellFormed := hs.wellFormed

theorem uses_pos (hs : p.Sound live) (hh : h ∈ live) : 0 < p.uses h.buffer := by
  rw [hs.uses_eq]
  exact handlesOn_pos_iff.mpr ⟨h, hh, rfl⟩

/-- The buffer of a live handle is in the pool. -/
theorem found (hs : p.Sound live) (hh : h ∈ live) : ∃ b, p.buffers.find? h.buffer = some b := by
  have hu := hs.uses_pos hh
  cases hf : p.buffers.find? h.buffer with
  | none =>
      rw [Pool.uses, hf] at hu
      cases hu
  | some b => exact ⟨b, rfl⟩

theorem buffer_lt_next (hs : p.Sound live) (hh : h ∈ live) : h.buffer < p.next := by
  obtain ⟨b, hb⟩ := hs.found hh
  by_contra hn
  rw [hs.fresh _ (Nat.le_of_not_lt hn)] at hb
  cases hb

/-- Nobody else is on the buffer of an exclusive handle. -/
theorem alone (hs : p.Sound (h :: live)) (he : p.exclusive h = true) (hg : g ∈ live) :
    g.buffer ≠ h.buffer := by
  intro hgh
  have hu := hs.uses_eq h.buffer
  rw [(exclusive_iff.mp he).2, handlesOn_cons, if_pos rfl] at hu
  have hpos : 0 < handlesOn live h.buffer := handlesOn_pos_iff.mpr ⟨g, hg, hgh⟩
  omega

/-- The handles beside an exclusive one are on other buffers. -/
theorem ne_of_exclusive (hs : p.Sound (h :: live)) (hg : g ∈ live) (he : p.exclusive g = true) :
    h.buffer ≠ g.buffer := by
  intro hhg
  have hu := hs.uses_eq g.buffer
  have hpos : 0 < handlesOn live g.buffer := handlesOn_pos_iff.mpr ⟨g, hg, rfl⟩
  rw [(exclusive_iff.mp he).2, handlesOn_cons, if_pos hhg] at hu
  omega

/-! ## What the other handles see -/

theorem keeps_add (hs : p.Sound live) (bytes : Bytes) (storage : Storage) :
    p.Keeps (p.add bytes storage).1 live := by
  intro g hg
  rw [bytes_add, if_neg (Nat.ne_of_gt (hs.buffer_lt_next hg))]

theorem keeps_release (hs : p.Sound (h :: live)) : p.Keeps (p.release h.buffer) live := by
  intro g hg
  by_cases hne : h.buffer = g.buffer
  · rw [← hne]
    -- the other handle on the buffer keeps it in the pool
    refine bytes_release_self ?_
    have hpos : 0 < handlesOn live h.buffer := handlesOn_pos_iff.mpr ⟨g, hg, hne.symm⟩
    rw [hs.uses_eq, handlesOn_cons, if_pos rfl]
    omega
  · exact bytes_release_of_ne hne

/-- A write through an exclusive handle is seen by nobody else. -/
theorem keeps_setBytes (hs : p.Sound (h :: live)) (he : p.exclusive h = true) (bytes : Bytes) :
    p.Keeps (p.setBytes h.buffer bytes) live := by
  obtain ⟨b, hb⟩ := hs.found List.mem_cons_self
  intro g hg
  rw [bytes_setBytes hb, if_neg (hs.alone he hg).symm]

/-! ## Exchanging handles -/

/-- A handle may change in place, as long as it stays on its buffer and inside it. -/
theorem exchange (hs : p.Sound (h :: live)) (hb : g.buffer = h.buffer) (hc : g.cloned = h.cloned)
    (hw : g.writable = true → p.exclusive h = true) (hf : g.frame.Fits (p.limit h)) :
    p.Sound (g :: live) where
  uses_eq := by
    intro id
    rw [hs.uses_eq, handlesOn_cons_congr hb]
  originals_le := by
    intro id
    rw [originalsOn_cons_congr hb hc]
    exact hs.originals_le id
  exclusive := by
    intro k hk hkw
    rcases List.mem_cons.mp hk with rfl | hk
    · rw [exclusive_congr hb hc]
      exact hw hkw
    · exact hs.exclusive k (List.mem_cons_of_mem _ hk) hkw
  fits := by
    intro k hk
    rcases List.mem_cons.mp hk with rfl | hk
    · rw [Pool.limit, hb]
      exact hf
    · exact hs.fits k (List.mem_cons_of_mem _ hk)
  fresh := hs.fresh
  wellFormed := hs.wellFormed

/-- A new buffer, and the first handle on it. -/
theorem add (hs : p.Sound live) {bytes : Bytes} {storage : Storage} (hb : g.buffer = p.next)
    (hc : g.cloned = false) (hf : g.frame.Fits bytes.length)
    (hl : storage = .heap → bytes.length ≤ maxBuffer) :
    (p.add bytes storage).1.Sound (g :: live) := by
  have hnone : p.uses p.next = 0 := by rw [Pool.uses, hs.fresh _ (Nat.le_refl _)]; rfl
  have hne : ∀ h ∈ live, p.next ≠ h.buffer := fun h hh => Nat.ne_of_gt (hs.buffer_lt_next hh)
  refine ⟨?_, ?_, ?_, ?_, ?_, ?_⟩
  · intro id
    rw [uses_add, handlesOn_cons, hb, ← hs.uses_eq]
    split
    · -- nobody was on the number before
      next hid => rw [← hid, hnone]
    · rfl
  · intro id
    have h₁ := hs.originals_le id
    rw [originalsOn_cons, hb]
    split
    · next hid =>
      -- an original that was on the number before would have been counted there
      have h₂ := originalsOn_le_handlesOn live id
      rw [← hs.uses_eq, ← hid.1, hnone] at h₂
      rw [← hid.1]
      omega
    · exact h₁
  · intro h hh hw
    rcases List.mem_cons.mp hh with rfl | hh
    · exact exclusive_iff.mpr ⟨hc, by rw [uses_add, if_pos hb.symm]⟩
    · rw [exclusive_iff, uses_add, if_neg (hne h hh), ← exclusive_iff]
      exact hs.exclusive h hh hw
  · intro h hh
    rcases List.mem_cons.mp hh with rfl | hh
    · rwa [Pool.limit, bytes_add, if_pos hb.symm]
    · rw [Pool.limit, hs.keeps_add _ _ h hh]
      exact hs.fits h hh
  · intro id hid
    have hlt : p.next < id := hid
    rw [find?_add, if_neg (Nat.ne_of_lt hlt)]
    exact hs.fresh id (Nat.le_of_lt hlt)
  · intro id b hf
    rw [find?_add] at hf
    split at hf
    · cases hf
      exact ⟨Nat.one_pos, hl⟩
    · exact hs.wellFormed id b hf

/-- A handle goes; the last one takes its buffer along. -/
theorem release (hs : p.Sound (h :: live)) : (p.release h.buffer).Sound live := by
  obtain ⟨b, hb⟩ := hs.found List.mem_cons_self
  -- the count is right whether the buffer stays or leaves, since a missing one counts as zero
  have huses : ∀ id, (p.release h.buffer).uses id = handlesOn live id := by
    intro id
    have hid := hs.uses_eq id
    rw [handlesOn_cons] at hid
    by_cases hne : h.buffer = id
    · subst hne
      rw [uses_release_self, hid, if_pos rfl, Nat.add_sub_cancel]
    · rw [uses_release_of_ne hne, hid, if_neg hne, Nat.add_zero]
  refine ⟨huses, ?_, ?_, ?_, ?_, ?_⟩
  · intro id
    have := hs.originals_le id
    rw [originalsOn_cons] at this
    omega
  · intro g hg hw
    have he := hs.exclusive g (List.mem_cons_of_mem _ hg) hw
    have hne : h.buffer ≠ g.buffer := hs.ne_of_exclusive hg he
    rw [exclusive_iff] at he ⊢
    exact ⟨he.1, by rw [uses_release_of_ne hne, he.2]⟩
  · intro g hg
    rw [Pool.limit, hs.keeps_release g hg]
    exact hs.fits g (List.mem_cons_of_mem _ hg)
  · intro id hid
    -- releasing brings no buffer into the pool
    by_contra hn
    obtain ⟨c, hc⟩ := Option.ne_none_iff_exists'.mp hn
    obtain ⟨b', hb', -, -⟩ := find?_of_release hc
    have hid' : p.next ≤ id := by rwa [next_release] at hid
    rw [hs.fresh id hid'] at hb'
    cases hb'
  · intro id c hc
    obtain ⟨b', hb', hcb, hpos⟩ := find?_of_release hc
    obtain ⟨hu, hl⟩ := hs.wellFormed id b' hb'
    rw [hcb]
    exact ⟨hpos hu, hl⟩

/-- A second handle on a buffer: neither it nor the first may write. -/
theorem clone (hs : p.Sound (h :: live)) :
    (p.clone h).1.Sound ((p.clone h).2 :: h.toShared :: live) := by
  obtain ⟨b, hb⟩ := hs.found List.mem_cons_self
  have hlim : ∀ g : Handle, (p.retain h.buffer).limit g = p.limit g := by
    intro g
    rw [Pool.limit, Pool.limit, bytes_retain]
  refine ⟨?_, ?_, ?_, ?_, ?_, ?_⟩
  · intro id
    have hto : handlesOn (h.toShared :: live) id = p.uses id := by
      rw [hs.uses_eq]
      exact handlesOn_cons_congr rfl
    have hcl : handlesOn ((p.clone h).2 :: h.toShared :: live) id
        = handlesOn (h :: h.toShared :: live) id := handlesOn_cons_congr rfl
    show (p.retain h.buffer).uses id = _
    rw [hcl, handlesOn_cons, hto, uses_retain hb]
    split <;> rfl
  · intro id
    have hto : originalsOn (h.toShared :: live) id = originalsOn (h :: live) id :=
      originalsOn_cons_congr rfl rfl
    rw [originalsOn_cons_of_cloned rfl, hto]
    exact hs.originals_le id
  · -- neither of the two is writable, and no other writable handle is on their buffer
    intro g hg hw
    rcases List.mem_cons.mp hg with rfl | hg
    · cases hw
    rcases List.mem_cons.mp hg with rfl | hg
    · cases hw
    have he := hs.exclusive g (List.mem_cons_of_mem _ hg) hw
    have hne : h.buffer ≠ g.buffer := hs.ne_of_exclusive hg he
    rw [exclusive_iff] at he ⊢
    exact ⟨he.1, by rw [Pool.clone, uses_retain hb, if_neg hne, he.2]⟩
  · intro g hg
    show g.frame.Fits ((p.retain h.buffer).limit g)
    rw [hlim]
    rcases List.mem_cons.mp hg with rfl | hg
    · exact hs.fits h List.mem_cons_self
    rcases List.mem_cons.mp hg with rfl | hg
    · exact hs.fits h List.mem_cons_self
    · exact hs.fits g (List.mem_cons_of_mem _ hg)
  · intro id hid
    have hid' : p.next ≤ id := by rwa [Pool.clone, next_retain] at hid
    show (p.retain h.buffer).buffers.find? id = none
    rw [find?_retain hb, if_neg, hs.fresh id hid']
    intro hi
    rw [hi, hs.fresh id hid'] at hb
    cases hb
  · intro id c hc
    replace hc : (p.retain h.buffer).buffers.find? id = some c := hc
    rw [find?_retain hb] at hc
    split at hc
    · cases hc
      exact ⟨Nat.succ_pos _, (hs.wellFormed _ b hb).heap_le⟩
    · exact hs.wellFormed id c hc

/-- New bytes, as many as before, in the buffer of a handle. -/
theorem setBytes (hs : p.Sound (h :: live)) {bytes : Bytes}
    (hl : bytes.length = p.limit h) : (p.setBytes h.buffer bytes).Sound (h :: live) := by
  obtain ⟨b, hb⟩ := hs.found List.mem_cons_self
  have hlim := limit_setBytes hb hl
  refine ⟨?_, hs.originals_le, ?_, ?_, ?_, ?_⟩
  · intro id
    rw [uses_setBytes, hs.uses_eq]
  · intro g hg hw
    rw [exclusive_iff, uses_setBytes, ← exclusive_iff]
    exact hs.exclusive g hg hw
  · intro g hg
    rw [hlim]
    exact hs.fits g hg
  · intro id hid
    have hid' : p.next ≤ id := by rwa [next_setBytes] at hid
    rw [find?_setBytes hb, if_neg, hs.fresh id hid']
    intro hi
    rw [hi, hs.fresh id hid'] at hb
    cases hb
  · intro id c hc
    rw [find?_setBytes hb] at hc
    split at hc
    · cases hc
      obtain ⟨hu, hle⟩ := hs.wellFormed _ b hb
      refine ⟨hu, fun hh => ?_⟩
      have hbl : p.limit h = b.bytes.length := by rw [Pool.limit, Pool.bytes, hb]; rfl
      rw [hl, hbl]
      exact hle hh
    · exact hs.wellFormed id c hc

end Sound

end Pool

end PacketPath
