import PacketPath.Proofs.Session.Contained
import PacketPath.Proofs.Session.Resizing

set_option autoImplicit false

/-! # Making a packet writable

What happens to a packet that is made writable, and what the other packets see of it. A packet that
is not shared is writable where it is. A shared one leaves its buffer for a copy, unless the buffer
is too large to be copied, which only imported regions are; then it is gone. Either way it is no
longer on the old buffer, and whoever is left there is one less.
-/

namespace PacketPath

namespace Pool

variable {p : Pool} {h g k : Handle} {others : List Handle} {r : Resized}

/-! ## The copy -/

/-- A copy is a new buffer. -/
theorem relocate_buffer {front back : Nat} (hg : (p.relocate h front back).2 = .ok g) :
    g.buffer = p.next := by
  unfold relocate at hg
  simp only at hg
  split at hg
  · cases hg
  · cases hg
    rfl

/-- Making an exclusive handle writable changes nothing else. -/
theorem uniqueify_inPlace (hex : p.exclusive h = true) :
    p.uniqueify h = (p, .ok { h with writable := true }) := if_pos hex

theorem uniqueify_eq_relocate (hex : ¬ p.exclusive h = true) :
    p.uniqueify h = p.relocate h 0 0 := if_neg hex

/-- Of a buffer that is shared, one of permitted size is copied. -/
theorem uniqueify_copied (hs : p.Sound (h :: others)) (hex : ¬ p.exclusive h = true) :
    Resized.owned (p.uniqueify h) = if p.limit h ≤ maxBuffer then
        .ok ((p.owned h).setWritable true)
      else .error (.alloc (.tooLarge (saturate (p.limit h)))) := by
  have hmoved := relocate_owned hs 0 0
  rw [Owned.grow_eq, Nat.zero_add, Nat.add_zero, Owned.widened_zero,
    show (p.owned h).bytes.length = p.limit h from rfl] at hmoved
  rw [uniqueify_eq_relocate hex, hmoved]
  split <;> rfl

/-! ## Who is left behind -/

/-- A handle that has left the buffer of another one is no longer counted there. -/
theorem uses_of_leaves (hs : p.Sound (h :: others)) (hl : Resized.Leaves r p h others)
    (hg : ∀ g, r.2 = .ok g → g.buffer ≠ k.buffer) :
    p.uses k.buffer = r.1.uses k.buffer + if h.buffer = k.buffer then 1 else 0 := by
  have hsurvivors : handlesOn (Resized.survivors r others) k.buffer
      = handlesOn others k.buffer := by
    obtain ⟨q, e | g⟩ := r
    · rfl
    · exact (handlesOn_cons g others k.buffer).trans (by rw [if_neg (hg g rfl), Nat.add_zero])
  rw [hs.uses_eq, handlesOn_cons, hl.sound.uses_eq, hsurvivors]

end Pool

/-- How a packet looks once it has a buffer of its own that it may write to. -/
def PacketView.alone (v : PacketView) : PacketView :=
  { v with writable := true, shared := false, uses := 1 }

/-- What the handle `k` at the place `a` sees when another one has left its buffer. -/
structure LeftBehind (s : Session) (o : History) (a : Place) (k : Handle) (after : Session) :
    Prop where
  stays : after.handleAt a = some k
  shared : s.pool.shared k = true
  uses : s.pool.uses k.buffer = after.pool.uses k.buffer + 1
  /-- It is no longer shared exactly if it was no clone, and is now the only one there. -/
  unshared_iff : after.pool.shared k = false ↔ o.originAt a = some .original
    ∧ ∀ b g, after.handleAt b = some g → g.buffer = k.buffer → b = a
  rest : after.pool.observe k = { s.pool.observe k with
    shared := after.pool.shared k, uses := after.pool.uses k.buffer }

/-- What has become of a session in which the packet `h` was made writable. -/
structure Uniqueified (s : Session) (o : History) (imported : List ImportedRegion)
    (packet : String) (h : Handle) (after : Session × Reply) : Prop where
  /-- A packet that is not shared is made writable where it is. -/
  kept : s.pool.shared h = false → ∃ elsewhere,
    after = (s.update packet { h with writable := true }, .moved elsewhere)
  /-- For a shared one, this fails exactly if its buffer is too large to be copied. -/
  refused_iff : s.pool.shared h = true →
    ((∃ e, after.2 = .allocFailed e) ↔ maxBuffer < s.pool.limit h)
  /-- Then the packet is gone. Its buffer is an imported region. -/
  refused : ∀ e, after.2 = .allocFailed e →
    e = .tooLarge (min (s.pool.limit h) maxSize) ∧ after.1.packets.find? packet = none
      ∧ ∃ r ∈ imported, r.buffer = h.buffer ∧ r.length = s.pool.limit h
  /-- Otherwise it goes to a buffer on which nobody was, and is what it was. -/
  copied : s.pool.shared h = true → s.pool.limit h ≤ maxBuffer → ∃ g elsewhere,
    after.1.packets.find? packet = some g ∧ after.2 = .moved elsewhere
      ∧ (∀ a k, s.handleAt a = some k → k.buffer ≠ g.buffer)
      ∧ after.1.pool.observe g = (s.pool.observe h).alone ∧ g.annotations = h.annotations
  left : ∀ a k, a ≠ .packet packet → s.handleAt a = some k → k.buffer = h.buffer →
    LeftBehind s o a k after.1
  /-- On other buffers nothing is seen. -/
  apart : ∀ a k, a ≠ .packet packet → s.handleAt a = some k → k.buffer ≠ h.buffer →
    after.1.handleAt a = some k ∧ after.1.pool.observe k = s.pool.observe k
  /-- A second time nothing is copied. -/
  again : ∀ g, after.1.packets.find? packet = some g → ∃ elsewhere,
    after.1.step (.resize packet .uniqueify) = (after.1.update packet g, .moved elsewhere)

namespace Session

variable {s : Session} {o : History} {l : List ImportedRegion} {packet : String} {h g k : Handle}
  {a : Place}

/-- The number of the next buffer is none that a live handle is on. -/
theorem Sound.buffer_ne_next (hs : s.Sound) (ha : s.handleAt a = some k) :
    k.buffer ≠ s.pool.next :=
  Nat.ne_of_lt (Pool.Sound.buffer_lt_next hs (mem_handles_iff.mpr ⟨a, ha⟩))

section

variable (hs : s.Sound) (hf : s.packets.find? packet = some h)

include hs hf

/-- What is left for another handle on the buffer, if all that has changed there is the count. -/
theorem Sound.leftBehind {after : Session} (hafter : after.Sound) (ht : o.Tracks s)
    (hne : a ≠ .packet packet) (ha : s.handleAt a = some k) (hk : k.buffer = h.buffer)
    (hstays : after.handleAt a = some k) (hbytes : after.pool.bytes k.buffer = s.pool.bytes k.buffer)
    (huses : s.pool.uses k.buffer = after.pool.uses k.buffer + 1) : LeftBehind s o a k after := by
  have hshared : s.pool.shared k = true :=
    (hs.shared_iff ha).mpr (.inr ⟨.packet packet, h, hne.symm, hf, hk.symm⟩)
  have horigin : o.originAt a = some .original ↔ k.cloned = false := by
    rw [ht.originAt, ha, Option.map_some, Option.some_inj, Handle.origin_eq_original_iff]
  refine ⟨hstays, hshared, huses, ?_, ?_⟩
  · have hiff := hafter.shared_iff hstays
    rw [← Bool.not_eq_true, hiff, horigin, not_or, Bool.not_eq_true]
    refine and_congr_right fun _ => ⟨fun hnone b g hb hgk => ?_, ?_⟩
    · by_contra hba
      exact hnone ⟨b, g, hba, hb, hgk⟩
    · rintro hsole ⟨b, g, hba, hb, hgk⟩
      exact hba (hsole b g hb hgk)
  · have hkeeps : s.pool.Keeps after.pool [k] := by
      intro g hg
      rw [List.mem_singleton.mp hg]
      exact hbytes
    exact hkeeps.observe_eq List.mem_cons_self

theorem Sound.not_exclusive (hsh : s.pool.shared h = true) : ¬ s.pool.exclusive h = true := by
  intro hex
  rw [((hs.focus hf).shared_eq_false_iff List.mem_cons_self).mpr hex] at hsh
  cases hsh

/-- A shared packet with a buffer of permitted size is copied. -/
theorem Sound.uniqueify_granted (hsh : s.pool.shared h = true) (hle : s.pool.limit h ≤ maxBuffer) :
    ∃ g elsewhere, (s.step (.resize packet .uniqueify)).1.packets.find? packet = some g
      ∧ (s.step (.resize packet .uniqueify)).2 = .moved elsewhere
      ∧ (∀ a k, s.handleAt a = some k → k.buffer ≠ g.buffer)
      ∧ (s.step (.resize packet .uniqueify)).1.pool.observe g = (s.pool.observe h).alone
      ∧ g.annotations = h.annotations := by
  have hex := hs.not_exclusive hf hsh
  have howned : Resized.owned (Resizing.uniqueify.apply s.pool h) = _ :=
    Pool.uniqueify_copied (hs.focus hf) hex
  rw [if_pos hle] at howned
  obtain ⟨g, elsewhere, hfound, hreply, hview, hannotations, happly⟩ :=
    hs.step_resize_of_owns hf rfl howned
  refine ⟨g, elsewhere, hfound, hreply, fun a k ha => ?_, ?_, hannotations⟩
  · have hg : (s.pool.relocate h 0 0).2 = .ok g := by
      rw [← Pool.uniqueify_eq_relocate hex]
      exact congrArg Prod.snd happly
    rw [Pool.relocate_buffer hg]
    exact hs.buffer_ne_next ha
  · rw [hview, Pool.observe_eq s.pool h]
    rfl

/-- One with a larger buffer is gone. -/
theorem Sound.uniqueify_refused (hsh : s.pool.shared h = true)
    (hlarge : maxBuffer < s.pool.limit h) :
    (s.step (.resize packet .uniqueify)).1.packets.find? packet = none
      ∧ (s.step (.resize packet .uniqueify)).2
        = .allocFailed (.tooLarge (min (s.pool.limit h) maxSize)) := by
  have howned : Resized.owned (Resizing.uniqueify.apply s.pool h) = _ :=
    Pool.uniqueify_copied (hs.focus hf) (hs.not_exclusive hf hsh)
  rw [if_neg (Nat.not_le.mpr hlarge)] at howned
  exact step_resize_of_refused hf howned

theorem Sound.uniqueify_left (ht : o.Tracks s) (hne : a ≠ .packet packet)
    (ha : s.handleAt a = some k) (hk : k.buffer = h.buffer) :
    LeftBehind s o a k (s.step (.resize packet .uniqueify)).1 := by
  have hlive : s.pool.Sound (h :: s.others packet) := hs.focus hf
  have hmem : k ∈ s.others packet := mem_others_iff.mpr ⟨a, hne, ha⟩
  have hex : ¬ s.pool.exclusive h = true := fun hex => hlive.alone hex hmem hk
  have hleaves := Pool.uniqueify_leaves hlive
  -- the packet is now on a new buffer, or gone
  have hgone : ∀ g, (s.pool.uniqueify h).2 = .ok g → g.buffer ≠ k.buffer := by
    intro g hg
    rw [Pool.uniqueify_eq_relocate hex] at hg
    rw [Pool.relocate_buffer hg]
    exact (hs.buffer_ne_next ha).symm
  have hpool : (s.step (.resize packet .uniqueify)).1.pool = (s.pool.uniqueify h).1 :=
    pool_step_resize hf
  have hstays : (s.step (.resize packet .uniqueify)).1.handleAt a = some k :=
    (handleAt_step_resize_of_ne hf hne).trans ha
  refine hs.leftBehind hf (hs.step (.resize packet .uniqueify)) ht hne ha hk hstays ?_ ?_
  · rw [hpool]
    exact hleaves.keeps k hmem
  · rw [hpool, Pool.uses_of_leaves hlive hleaves hgone, if_pos hk.symm]

theorem Sound.uniqueify_apart (hne : a ≠ .packet packet) (ha : s.handleAt a = some k)
    (hk : k.buffer ≠ h.buffer) :
    (s.step (.resize packet .uniqueify)).1.handleAt a = some k
      ∧ (s.step (.resize packet .uniqueify)).1.pool.observe k = s.pool.observe k := by
  have hlive : s.pool.Sound (h :: s.others packet) := hs.focus hf
  have hmem : k ∈ s.others packet := mem_others_iff.mpr ⟨a, hne, ha⟩
  have hleaves := Pool.uniqueify_leaves hlive
  have helsewhere : ∀ g, (s.pool.uniqueify h).2 = .ok g → g.buffer ≠ k.buffer := by
    intro g hg
    rcases hleaves.placed g hg with ⟨hb, -⟩ | ⟨hb, -⟩
    · rw [hb]
      exact hk.symm
    · rw [hb]
      exact (hs.buffer_ne_next ha).symm
  have huses := Pool.uses_of_leaves hlive hleaves helsewhere
  rw [if_neg hk.symm, Nat.add_zero] at huses
  refine ⟨(handleAt_step_resize_of_ne hf hne).trans ha, ?_⟩
  rw [pool_step_resize hf]
  exact hleaves.keeps.observe_congr hmem huses.symm

/-- What was made writable is exclusive, so that it is found so a second time. -/
theorem Sound.uniqueify_again
    (hg : (s.step (.resize packet .uniqueify)).1.packets.find? packet = some g) :
    ∃ elsewhere, (s.step (.resize packet .uniqueify)).1.step (.resize packet .uniqueify)
      = ((s.step (.resize packet .uniqueify)).1.update packet g, .moved elsewhere) := by
  have hlive : s.pool.Sound (h :: s.others packet) := hs.focus hf
  rcases happly : Resizing.uniqueify.apply s.pool h with ⟨q, e | g'⟩
  · -- a packet that is gone is under no name
    rw [find?_step_resize_of_error hf happly] at hg
    cases hg
  · obtain ⟨hfound, hpool, -⟩ := step_resize_of_ok hf happly
    obtain rfl : g' = g := Option.some.inj (hfound.symm.trans hg)
    have howns : Resizing.uniqueify.owns = true := rfl
    have hex : q.exclusive g' = true := Resizing.exclusive_of_owns hlive howns happly
    have hw : g'.writable = true := Resizing.writable_of_owns howns (congrArg Prod.snd happly)
    have hsame : Resizing.uniqueify.apply q g' = (q, .ok g') := by
      rw [Resizing.apply, Pool.uniqueify_inPlace hex, ← hw]
    rw [← hpool] at hsame
    exact ⟨_, step_resize_inPlace hg hsame⟩

end

theorem Settled.uniqueified (hs : s.Settled l) (ht : o.Tracks s)
    (hf : s.packets.find? packet = some h) :
    Uniqueified s o l packet h (s.step (.resize packet .uniqueify)) := by
  have hshared : s.pool.shared h = false ↔ s.pool.exclusive h = true :=
    (hs.sound.focus hf).shared_eq_false_iff List.mem_cons_self
  have hkept : s.pool.shared h = false → s.step (.resize packet .uniqueify)
      = (s.update packet { h with writable := true }, .moved (s.movedElsewhere h _)) :=
    fun hsh => step_resize_inPlace hf (Pool.uniqueify_inPlace (hshared.mp hsh))
  -- for a shared packet, the size of the buffer decides
  have hfails : s.pool.shared h = true →
      ((∃ e, (s.step (.resize packet .uniqueify)).2 = .allocFailed e)
        ↔ maxBuffer < s.pool.limit h) := by
    refine fun hsh => ⟨fun ⟨e, he⟩ => ?_, fun hlarge => ?_⟩
    · by_contra hle
      obtain ⟨g, elsewhere, -, hreply, -⟩ :=
        hs.sound.uniqueify_granted hf hsh (Nat.le_of_not_lt hle)
      rw [hreply] at he
      cases he
    · exact ⟨_, (hs.sound.uniqueify_refused hf hsh hlarge).2⟩
  refine ⟨fun hsh => ⟨_, hkept hsh⟩, hfails, fun e he => ?_, hs.sound.uniqueify_granted hf,
    fun a k hne ha hk => ?_, fun a k hne ha hk => ?_, fun g hg => ?_⟩
  · have hsh : s.pool.shared h = true := by
      by_contra hsh
      rw [hkept (Bool.eq_false_of_not_eq_true hsh)] at he
      cases he
    have hlarge : maxBuffer < s.pool.limit h := (hfails hsh).mp ⟨e, he⟩
    obtain ⟨hgone, hreply⟩ := hs.sound.uniqueify_refused hf hsh hlarge
    rw [hreply, Reply.allocFailed.injEq] at he
    exact ⟨he.symm, hgone, ((contained_of_settled hs).sized (.packet packet) h hf).resolve_left
      (Nat.not_le.mpr hlarge)⟩
  · exact hs.sound.uniqueify_left hf ht hne ha hk
  · exact hs.sound.uniqueify_apart hf hne ha hk
  · exact hs.sound.uniqueify_again hf hg

end Session

/-- **A packet is copied only when it must be.** In any session, and whatever its packets share. -/
theorem uniqueify_endToEnd (cs : List Command) (packet : String) (h : Handle)
    (hf : (({} : Session).run cs).packets.find? packet = some h) :
    let s := ({} : Session).run cs
    Uniqueified s (({} : History).run {} cs) (({} : Session).imports cs) packet h
      (s.step (.resize packet .uniqueify)) :=
  (Session.settled_empty.run cs).uniqueified (History.tracks_empty.run Session.sound_empty cs) hf

/-- A clone gets a buffer of its own, and the packet that it was made of is alone again. -/
theorem uniqueify_endToEnd_clone :
    let cs : List Command := [.make "p" (.copy 2 [1, 2, 3] 0), .clone "p" "q"]
    let s := ({} : Session).run cs
    let after := (s.step (.resize "q" .uniqueify)).1
    ∃ h k g, s.packets.find? "q" = some h ∧ s.packets.find? "p" = some k
      ∧ LeftBehind s (({} : History).run {} cs) (.packet "p") k after
      ∧ after.pool.shared k = false ∧ after.packets.find? "q" = some g
      ∧ after.pool.observe g = (s.pool.observe h).alone := by
  intro cs s after
  obtain ⟨h, hf⟩ : ∃ h, s.packets.find? "q" = some h := ⟨_, rfl⟩
  obtain ⟨k, hk⟩ : ∃ k, s.packets.find? "p" = some k := ⟨_, rfl⟩
  have hshared : (s.packets.find? "q").map s.pool.shared = some true := by decide +kernel
  have hlimit : (s.packets.find? "q").map s.pool.limit = some 64 := by decide +kernel
  have hbuffers : (s.packets.find? "p").map (·.buffer) = (s.packets.find? "q").map (·.buffer) := by
    decide +kernel
  have hafter : (s.packets.find? "p").map after.pool.shared = some false := by decide +kernel
  rw [hf, Option.map_some, Option.some_inj] at hshared hlimit
  rw [hf, hk, Option.map_some, Option.map_some, Option.some_inj] at hbuffers
  rw [hk, Option.map_some, Option.some_inj] at hafter
  have hmade := uniqueify_endToEnd cs "q" h hf
  obtain ⟨g, -, hfound, -, -, hview, -⟩ := hmade.copied hshared (by rw [hlimit]; decide)
  have hleft := hmade.left (.packet "p") k (by decide) hk hbuffers
  simp only [after, s]
  exact ⟨h, k, g, hf, hk, hleft, hafter, hfound, hview⟩

end PacketPath
