import PacketPath.Proofs.Session.History

set_option autoImplicit false

/-! # Who owns a buffer

Copy-on-write is safe because a handle that may write is alone on its buffer, and because the counts
by which handles judge whether they are alone are right. `Ownership` states this of a session
and the history of how it came about; it holds after every run.

A handle counts as shared while another one is on its buffer, and a clone always does: the last
clone on a buffer does not become its owner, and is copied before it is written to.
-/

namespace PacketPath

/-- How the live handles of a session own and share their buffers. -/
structure Ownership (s : Session) (o : History) : Prop where
  /-- The history knows the live handles. -/
  remembered : ∀ a, (o.originAt a).isSome = (s.handleAt a).isSome
  /-- A writable handle is no clone, and there is no other handle on its buffer. -/
  writable_alone : ∀ a h, s.handleAt a = some h → h.writable = true →
    h.cloned = false ∧ ∀ b g, s.handleAt b = some g → g.buffer = h.buffer → b = a
  /-- No write finds that a writable handle shares its buffer. -/
  write_sound : ∀ packet region position bytes,
    (s.step (.write packet region position bytes)).2 ≠ .fault
  /-- The same holds of a handle that is made writable in the middle of a command. -/
  owned_exclusive : ∀ a h, s.handleAt a = some h → ∀ how : Resizing, how.owns = true →
    ∀ q g, how.apply s.pool h = (q, .ok g) → g.writable = true ∧ q.exclusive g = true
  /-- Of the handles on a buffer, at most one is no clone. -/
  one_original : ∀ a b h g, s.handleAt a = some h → s.handleAt b = some g →
    g.buffer = h.buffer → h.cloned = false → g.cloned = false → b = a
  /-- A use count is the number of live handles on the buffer. -/
  uses_eq : ∀ a h, s.handleAt a = some h → s.pool.uses h.buffer = handlesOn s.handles h.buffer
  /-- A handle is shared if it is a clone that was not copied since, or not alone. -/
  shared_iff : ∀ a h, s.handleAt a = some h → (s.pool.shared h = true ↔
    o.originAt a = some .clone ∨ ∃ b g, b ≠ a ∧ s.handleAt b = some g ∧ g.buffer = h.buffer)
  /-- An original is shared exactly as long as there is a clone on its buffer. -/
  original_shared_iff : ∀ a h, s.handleAt a = some h → o.originAt a = some .original →
    (s.pool.shared h = true ↔
      ∃ b g, s.handleAt b = some g ∧ g.buffer = h.buffer ∧ o.originAt b = some .clone)
  /-- A clone is copied before it is written to, even if it is alone. -/
  clone_copied : ∀ a h, s.handleAt a = some h → o.originAt a = some .clone →
    s.pool.shared h = true ∧ ∀ how : Resizing, how.owns = true →
      ∀ q g, how.apply s.pool h = (q, .ok g) → ∀ b k, s.handleAt b = some k → k.buffer ≠ g.buffer

namespace Session

variable {s : Session} {o : History} {h g : Handle} {a b : Place}

/-- The account with the handle at a place in front. -/
theorem Sound.focusAt (hs : s.Sound) (ha : s.handleAt a = some h) :
    s.pool.Sound (h :: s.elsewhere a) :=
  Pool.Sound.perm hs (handles_perm_elsewhere ha)

/-- Two places with handles on one buffer are one place, if one of the handles is exclusive. -/
theorem Sound.eq_of_exclusive (hs : s.Sound) (ha : s.handleAt a = some h)
    (hex : s.pool.exclusive h = true) (hb : s.handleAt b = some g) (hgh : g.buffer = h.buffer) :
    b = a := by
  by_contra hne
  have hmem : g ∈ s.elsewhere a := mem_elsewhere_iff.mpr ⟨b, hne, hb⟩
  exact (hs.focusAt ha).alone hex hmem hgh

theorem Sound.eq_of_original (hs : s.Sound) (ha : s.handleAt a = some h)
    (hb : s.handleAt b = some g) (hgh : g.buffer = h.buffer) (hc : h.cloned = false)
    (hgc : g.cloned = false) : b = a := by
  by_contra hne
  have hmem : g ∈ s.elsewhere a := mem_elsewhere_iff.mpr ⟨b, hne, hb⟩
  have hpos : 0 < originalsOn (s.elsewhere a) h.buffer :=
    originalsOn_pos_iff.mpr ⟨g, hmem, hgh, hgc⟩
  have hle := (hs.focusAt ha).originals_le h.buffer
  rw [originalsOn_cons, if_pos ⟨rfl, hc⟩] at hle
  omega

/-- There is more than one handle on a buffer if another place has one. -/
theorem Sound.one_lt_uses_iff (hs : s.Sound) (ha : s.handleAt a = some h) :
    1 < s.pool.uses h.buffer ↔ ∃ b g, b ≠ a ∧ s.handleAt b = some g ∧ g.buffer = h.buffer := by
  have huses := (hs.focusAt ha).uses_eq h.buffer
  rw [handlesOn_cons, if_pos rfl] at huses
  have hpos : 1 < s.pool.uses h.buffer ↔ 0 < handlesOn (s.elsewhere a) h.buffer := by omega
  rw [hpos, handlesOn_pos_iff]
  constructor
  · rintro ⟨g, hg, hgh⟩
    obtain ⟨b, hne, hb⟩ := mem_elsewhere_iff.mp hg
    exact ⟨b, g, hne, hb, hgh⟩
  · rintro ⟨b, g, hne, hb, hgh⟩
    exact ⟨g, mem_elsewhere_iff.mpr ⟨b, hne, hb⟩, hgh⟩

theorem Sound.shared_iff (hs : s.Sound) (ha : s.handleAt a = some h) :
    s.pool.shared h = true ↔
      h.cloned = true ∨ ∃ b g, b ≠ a ∧ s.handleAt b = some g ∧ g.buffer = h.buffer := by
  rw [Pool.shared, Bool.or_eq_true, decide_eq_true_iff, hs.one_lt_uses_iff ha]

theorem Sound.write_ne_fault (hs : s.Sound) (packet : String) (region : Region) (position : Nat)
    (bytes : Bytes) : (s.write packet region position bytes).2 ≠ .fault := by
  unfold Session.write
  cases hf : s.packets.find? packet with
  | none =>
      rw [withPacket_none hf]
      nofun
  | some h =>
      have hne := Pool.write_ne_fault (hs.focus hf) region position bytes
      rw [withPacket_some hf]
      split
      · nofun
      · nofun
      · nofun
      · nofun
      · next hfault => exact absurd hfault hne

end Session

open Session in
/-- A session that accounts for its handles, with the history that its handles remember. -/
theorem ownership_of_sound {s : Session} {o : History} (hs : s.Sound) (ht : o.Tracks s) :
    Ownership s o := by
  have hclone : ∀ {a h}, s.handleAt a = some h → (o.originAt a = some .clone ↔ h.cloned = true) := by
    intro a h ha
    rw [ht.originAt, ha, Option.map_some, Option.some_inj, Handle.origin_eq_clone_iff]
  refine ⟨?_, ?_, ?_, ?_, ?_, ?_, ?_, ?_, ?_⟩
  · intro a
    rw [ht.originAt, Option.isSome_map]
  · intro a h ha hw
    have hex := (hs.focusAt ha).exclusive h List.mem_cons_self hw
    exact ⟨(Pool.exclusive_iff.mp hex).1, fun b g hb hgh => hs.eq_of_exclusive ha hex hb hgh⟩
  · intro packet region position bytes
    exact hs.write_ne_fault packet region position bytes
  · intro a h ha how ho q g happly
    refine ⟨Resizing.writable_of_owns (p := s.pool) (h := h) ho ?_, ?_⟩
    · rw [happly]
    · exact Resizing.exclusive_of_owns (hs.focusAt ha) ho happly
  · intro a b h g ha hb hgh hc hgc
    exact hs.eq_of_original ha hb hgh hc hgc
  · intro a h _
    exact Pool.Sound.uses_eq hs h.buffer
  · intro a h ha
    rw [hclone ha]
    exact hs.shared_iff ha
  · intro a h ha hoa
    have hc : h.cloned = false := by
      rw [ht.originAt, ha, Option.map_some, Option.some_inj] at hoa
      by_contra hne
      rw [Handle.origin_eq_clone_iff.mpr (by simpa using hne)] at hoa
      cases hoa
    rw [hs.shared_iff ha]
    constructor
    · rintro (hcl | ⟨b, g, hne, hb, hgh⟩)
      · rw [hc] at hcl
        cases hcl
      · refine ⟨b, g, hb, hgh, (hclone hb).mpr ?_⟩
        -- two originals on one buffer are at one place
        by_contra hgc
        exact hne (hs.eq_of_original ha hb hgh hc (by simpa using hgc))
    · rintro ⟨b, g, hb, hgh, hob⟩
      refine .inr ⟨b, g, ?_, hb, hgh⟩
      rintro rfl
      rw [hoa] at hob
      cases hob
  · intro a h ha hoa
    have hc := (hclone ha).mp hoa
    refine ⟨(hs.shared_iff ha).mpr (.inl hc), fun how ho q g happly b k hb hkg => ?_⟩
    -- the copy has the next number, which is none that a live handle is on
    have hnext := Resizing.buffer_of_cloned (hs.focusAt ha) hc ho happly
    have hlt := Pool.Sound.buffer_lt_next hs (mem_handles_iff.mpr ⟨b, hb⟩)
    rw [hkg, hnext] at hlt
    exact Nat.lt_irrefl _ hlt

/-- **Ownership in every run.** After any commands, in any order and on any packets, checkers and
sinks, whatever they answered. -/
theorem ownership_run (cs : List Command) :
    Ownership (({} : Session).run cs) (({} : History).run {} cs) :=
  ownership_of_sound (Session.sound_empty.run cs) (History.tracks_empty.run Session.sound_empty cs)

end PacketPath
