import PacketPath.Proofs.Session.Sides
import PacketPath.Proofs.Session.Uniqueifying

set_option autoImplicit false

/-! # Laws of making room

How the operations that make room agree with each other. A packet can be given room with or without
a buffer of its own, at once or in steps, and the room can be removed again. Whatever way is taken,
and whichever of its steps copy the buffer, the packet shows the same.

All laws come from one description of what such an operation makes of a packet (`Owned.grow?`),
because an operation that succeeded leaves the packet alone on its buffer (`Session.AloneAs`).
-/

namespace PacketPath

namespace Pool

variable {p : Pool} {h g : Handle} {others : List Handle} {r : Resized} {side : Side} {n : Nat}

/-! ## Room at either side -/

theorem room_observe (side : Side) (p : Pool) (h : Handle) :
    side.room (p.observe h) = side.room (p.owned h).view := by cases side <;> rfl

/-- What an operation that makes room gives back. -/
theorem grow_owned (hs : p.Sound (h :: others)) (side : Side) (n : Nat) :
    (p.owned h).grow? side (p.exclusive h) n
      = (Resized.owned ((side.grow n).apply p h)).toOption := by
  set extra := pushGrowth (side.room (p.owned h).view) n with hextra
  have hgranted : (p.exclusive h = true ∧ n ≤ side.room (p.owned h).view)
        ∨ (p.owned h).bytes.length + extra ≤ maxBuffer →
      Resized.owned ((side.grow n).apply p h) = .ok ((p.owned h).grown side extra n) := by
    intro hroom
    cases side with
    | front =>
        rw [Nat.add_comm] at hroom
        exact push_owned_ok hs hroom
    | back => exact put_owned_ok hs hroom
  have hrefused : ¬ (p.exclusive h = true ∧ n ≤ side.room (p.owned h).view) →
      ¬ (p.owned h).bytes.length + extra ≤ maxBuffer →
      ∃ e, Resized.owned ((side.grow n).apply p h) = .error e := by
    intro hplace hlarge
    cases side with
    | front =>
        rw [Nat.add_comm] at hlarge
        exact ⟨_, (push_copied hs hplace).trans (if_neg hlarge)⟩
    | back => exact ⟨_, (put_copied hs hplace).trans (if_neg hlarge)⟩
  rw [Owned.grow?, ← hextra]
  split
  · next hroom =>
    rw [hgranted hroom]
    rfl
  · next hnone =>
    obtain ⟨e, he⟩ := hrefused (fun hin => hnone (.inl hin)) fun hle => hnone (.inr hle)
    rw [he]
    rfl

/-- Making a packet writable is making no room. -/
theorem grow_zero_eq_uniqueify (hs : p.Sound (h :: others)) (side : Side) :
    (side.grow 0).apply p h = p.uniqueify h := by
  have hleaves := uniqueify_leaves hs
  cases side with
  | front =>
      show p.push h 0 = _
      rw [Pool.push, if_pos (Nat.zero_le _)]
      obtain ⟨q, e | g⟩ := p.uniqueify h <;> rfl
  | back =>
      show p.put h 0 = _
      rw [Pool.put, if_pos (Nat.zero_le _)]
      rcases hr : p.uniqueify h with ⟨q, e | g⟩
      · rfl
      · rw [hr] at hleaves
        have hstop : g.frame.stop + 0 ≤ q.limit g := (hleaves.sound.fits g List.mem_cons_self).2.1
        simp only [expandBack, reframe, Frame.expandBack?, if_pos hstop]
        rfl

theorem reframe_buffer {id : BufferId} {f : Pool → Handle → Option Frame}
    (hr : ∀ k, r.2 = .ok k → k.buffer = id) (hg : (reframe r f).2 = .ok g) : g.buffer = id := by
  obtain ⟨q, e | k⟩ := r
  · cases hg
  · unfold reframe at hg
    simp only at hg
    split at hg
    · cases hg
      exact hr k rfl
    · cases hg

/-- Where room is missing, there is a new buffer. -/
theorem buffer_of_room_lt (hlt : side.room (p.observe h) < n)
    (hg : ((side.grow n).apply p h).2 = .ok g) : g.buffer = p.next := by
  cases side with
  | front =>
      have hplace : ¬ (p.exclusive h = true ∧ n ≤ h.frame.start) := fun hin =>
        Nat.not_le.mpr hlt hin.2
      replace hg : (p.push h n).2 = .ok g := hg
      rw [push_eq_relocate hplace] at hg
      exact reframe_buffer (fun _ => relocate_buffer) hg
  | back =>
      have hplace : ¬ (p.exclusive h = true ∧ n ≤ p.tailroom h) := fun hin =>
        Nat.not_le.mpr hlt hin.2
      replace hg : (p.put h n).2 = .ok g := hg
      rw [put_eq_relocate hplace] at hg
      exact reframe_buffer (fun _ => relocate_buffer) hg

/-! ## Room for a packet that may stay shared -/

/-- Room that is there is taken into the data, and that is all. -/
theorem growShared_inPlace (hs : p.Sound (h :: others)) (hn : n ≤ side.room (p.observe h)) :
    ∃ g, (side.growShared n).apply p h = (p, .ok g) ∧ g.buffer = h.buffer ∧ g.cloned = h.cloned
      ∧ p.owned g = ((p.owned h).grown side 0 n).setWritable false := by
  cases side with
  | front =>
      replace hn : n ≤ h.frame.start := hn
      refine ⟨{ h with
        frame := { h.frame with start := h.frame.start - n }, writable := false }, ?_, rfl, rfl, ?_⟩
      · show p.pushShared h n = _
        rw [pushShared, if_pos hn]
        simp only [demote, expandFront, reframe, Frame.expandFront?, if_pos hn]
        rfl
      · rw [Owned.grown, Owned.pushed, Owned.widened_zero]
        rfl
  | back =>
      replace hn : n ≤ p.tailroom h := hn
      have hstop : h.frame.stop + n ≤ p.limit h := (hs.fits h List.mem_cons_self).stop_add_le hn
      refine ⟨{ h with
        frame := { h.frame with stop := h.frame.stop + n }, writable := false }, ?_, rfl, rfl, ?_⟩
      · show p.putShared h n = _
        rw [putShared, if_pos hn]
        simp only [demote, expandBack, reframe, Frame.expandBack?, if_pos hstop]
        rfl
      · rw [Owned.grown, Owned.extended, Bytes.zeros, List.replicate_zero, List.append_nil]
        rfl

/-- Where room is missing, nothing can stay shared. -/
theorem growShared_eq_demote (hlt : side.room (p.observe h) < n) :
    (side.growShared n).apply p h = demote ((side.grow n).apply p h) := by
  cases side with
  | front => exact congrArg demote (if_neg (Nat.not_le.mpr hlt))
  | back => exact congrArg demote (if_neg (Nat.not_le.mpr hlt))

end Pool

/-! ## What is seen after commands -/

/-- All that is seen of a packet. -/
structure Look where
  view : PacketView
  annotations : Annotations

/-- How a packet looks that has the buffer to itself and may write. -/
def Look.alone (l : Look) : Look := { l with view := l.view.alone }

/-- How a packet with a buffer of its own looks. -/
def Owned.look (o : Owned) : Look := ⟨o.view, o.annotations⟩

/-- Whether a packet was changed as it was asked for. -/
def Reply.succeeded : Reply → Bool
  | done | moved _ => true
  | _ => false

namespace Session

def look? (s : Session) (packet : String) : Option Look :=
  (s.packets.find? packet).map fun h => ⟨s.pool.observe h, h.annotations⟩

/-- What is seen of a packet after changes that all succeed. -/
def lookAfter (s : Session) (packet : String) : List Command → Option Look
  | [] => s.look? packet
  | c :: rest =>
    if (s.step c).2.succeeded then (s.step c).1.lookAfter packet rest else none

/-- The packet under a name is the only one on its buffer, and is seen as `o`. -/
def AloneAs (s : Session) (packet : String) (o : Owned) : Prop :=
  ∃ h, s.packets.find? packet = some h ∧ s.pool.exclusive h = true ∧ s.pool.owned h = o

variable {s : Session} {packet : String} {h : Handle} {o o' : Owned} {side : Side} {n : Nat}

theorem AloneAs.look? (ha : s.AloneAs packet o) : s.look? packet = some o.look := by
  obtain ⟨h, hf, hex, rfl⟩ := ha
  rw [Session.look?, hf, Option.map_some, Pool.observe_of_exclusive hex]
  rfl

theorem lookAfter_resize {how : Resizing} {q : Pool} {g : Handle}
    (hf : s.packets.find? packet = some h) (happly : how.apply s.pool h = (q, .ok g)) :
    s.lookAfter packet [.resize packet how] = some ⟨q.observe g, g.annotations⟩ := by
  obtain ⟨hfound, hpool, elsewhere, hreply⟩ := step_resize_of_ok hf happly
  rw [lookAfter, hreply]
  show (s.step (.resize packet how)).1.look? packet = _
  rw [Session.look?, hfound, Option.map_some, hpool]

theorem succeeded_of_error {how : Resizing} {q : Pool} {e : ResizeError}
    (hf : s.packets.find? packet = some h) (happly : how.apply s.pool h = (q, .error e)) :
    (s.step (.resize packet how)).2.succeeded = false := by
  simp only [Session.step, Session.resize, withPacket_some hf, happly]
  cases e <;> rfl

theorem AloneAs.adjust {how : Adjustment} (ha : s.AloneAs packet o) (ho : o.adjust how = .ok o') :
    (s.step (.adjust packet how)).2 = .done
      ∧ (s.step (.adjust packet how)).1.AloneAs packet o' := by
  obtain ⟨h, hf, hex, rfl⟩ := ha
  obtain ⟨frame, hframe, rfl⟩ := map_eq_ok ho
  have hstep : s.step (.adjust packet how) = (s.update packet { h with frame := frame }, .done) :=
    adjust_of_ok hf hframe
  rw [hstep]
  exact ⟨rfl, { h with frame := frame }, s.find?_update packet _, hex, rfl⟩

section

variable (hs : s.Sound) (hf : s.packets.find? packet = some h)

include hs hf

/-- A packet that was given room is alone on its buffer, or is gone. -/
theorem Sound.step_grow (side : Side) (n : Nat) :
    (∃ o, (s.pool.owned h).grow? side (s.pool.exclusive h) n = some o
        ∧ (s.step (.resize packet (side.grow n))).2.succeeded = true
        ∧ (s.step (.resize packet (side.grow n))).1.AloneAs packet o)
      ∨ ((s.pool.owned h).grow? side (s.pool.exclusive h) n = none
        ∧ (s.step (.resize packet (side.grow n))).2.succeeded = false) := by
  have howned := Pool.grow_owned (hs.focus hf) side n
  have howns := side.owns_grow n
  rcases happly : (side.grow n).apply s.pool h with ⟨q, e | g⟩
  · rw [happly] at howned
    exact .inr ⟨howned, succeeded_of_error hf happly⟩
  · rw [happly] at howned
    obtain ⟨hfound, hpool, elsewhere, hreply⟩ := step_resize_of_ok hf happly
    have hex := Resizing.exclusive_of_owns (hs.focus hf) howns happly
    rw [← hpool] at hex
    refine .inl ⟨q.owned g, howned, by rw [hreply]; rfl, g, hfound, hex, ?_⟩
    rw [hpool]

theorem Sound.lookAfter_grow (side : Side) (n : Nat) :
    s.lookAfter packet [.resize packet (side.grow n)]
      = ((s.pool.owned h).grow? side (s.pool.exclusive h) n).map Owned.look := by
  rcases hs.step_grow hf side n with ⟨o, ho, hreply, halone⟩ | ⟨ho, hreply⟩
  · rw [lookAfter, if_pos hreply, lookAfter, halone.look?, ho, Option.map_some]
  · rw [lookAfter, hreply, ho]
    rfl

theorem Sound.lookAfter_grow_grow (side : Side) (a b : Nat) :
    s.lookAfter packet [.resize packet (side.grow a), .resize packet (side.grow b)]
      = (((s.pool.owned h).grow? side (s.pool.exclusive h) a).bind
          fun o => o.grow? side true b).map Owned.look := by
  rcases hs.step_grow hf side a with ⟨o, ho, hreply, g, hg, hex, rfl⟩ | ⟨ho, hreply⟩
  · rw [lookAfter, if_pos hreply, (hs.step _).lookAfter_grow hg, hex, ho, Option.bind_some]
  · rw [lookAfter, hreply, ho]
    rfl

/-- Removing what was taken into the data cannot fail. -/
theorem Sound.lookAfter_grow_shrink (side : Side) (n : Nat) :
    s.lookAfter packet [.resize packet (side.grow n), .adjust packet (side.shrink n)]
      = ((s.pool.owned h).grow? side (s.pool.exclusive h) n).bind
          fun o => (o.adjust (side.shrink n)).toOption.map Owned.look := by
  rcases hs.step_grow hf side n with ⟨o, ho, hreply, halone⟩ | ⟨ho, hreply⟩
  · obtain ⟨o', hshrunk, -⟩ := Owned.shrink_grow? (hs.fits hf) ho
    obtain ⟨hdone, hafter⟩ := halone.adjust hshrunk
    rw [lookAfter, if_pos hreply, lookAfter, hdone, ho, Option.bind_some, hshrunk]
    exact hafter.look?
  · rw [lookAfter, hreply, ho]
    rfl

/-- A packet that stays where it is shows what it would show alone. -/
theorem Sound.lookAfter_growShared (hn : n ≤ side.room (s.pool.observe h)) :
    ∃ l, s.lookAfter packet [.resize packet (side.growShared n)] = some l
      ∧ l.alone = ((s.pool.owned h).grown side 0 n).look := by
  obtain ⟨g, happly, -, -, hg⟩ := Pool.growShared_inPlace (hs.focus hf) hn
  refine ⟨_, lookAfter_resize hf happly, ?_⟩
  have hannotations : g.annotations = ((s.pool.owned h).grown side 0 n).annotations :=
    congrArg Owned.annotations hg
  rw [Look.alone, Pool.observe_eq, hg, hannotations]
  cases side <;> rfl

/-- One that is copied anyway is alone, and only gives up its right to write. -/
theorem Sound.lookAfter_growShared_copied {l : Look} (hlt : side.room (s.pool.observe h) < n)
    (hl : s.lookAfter packet [.resize packet (side.grow n)] = some l) :
    ∃ l', s.lookAfter packet [.resize packet (side.growShared n)] = some l' ∧ l'.alone = l := by
  have howns := side.owns_grow n
  rcases happly : (side.grow n).apply s.pool h with ⟨q, e | g⟩
  · rw [lookAfter, succeeded_of_error hf happly] at hl
    cases hl
  · have hshared : (side.growShared n).apply s.pool h = (q, .ok g.toShared) := by
      rw [Pool.growShared_eq_demote hlt, happly]
      rfl
    rw [lookAfter_resize hf happly, Option.some_inj] at hl
    refine ⟨_, lookAfter_resize hf hshared, ?_⟩
    have hex := Resizing.exclusive_of_owns (hs.focus hf) howns happly
    have hw : g.writable = true := Resizing.writable_of_owns howns (congrArg Prod.snd happly)
    rw [← hl, Pool.observe_of_exclusive hex, Look.alone, Pool.observe_eq, Pool.owned, Pool.owned,
      hw]
    rfl

end

end Session

/-- The laws of making room for the packet `h`, which is under a name of a session. -/
structure RoomLaws (s : Session) (packet : String) (h : Handle) : Prop where
  /-- A packet that may stay shared shows the same as one that is made writable. -/
  shared_agrees : ∀ (side : Side) n l,
    s.lookAfter packet [.resize packet (side.grow n)] = some l →
    ∃ l', s.lookAfter packet [.resize packet (side.growShared n)] = some l' ∧ l'.alone = l
  /-- Where there is room, it stays on its buffer, as shared as before, and cannot fail. -/
  shared_stays : ∀ (side : Side) n, n ≤ side.room (s.pool.observe h) → ∃ g elsewhere,
    s.step (.resize packet (side.growShared n)) = (s.update packet g, .moved elsewhere)
      ∧ g.buffer = h.buffer ∧ s.pool.shared g = s.pool.shared h
  /-- Where there is none, it is copied if it would be copied to be made writable. -/
  shared_copied : ∀ (side : Side) n, side.room (s.pool.observe h) < n →
    let after := s.step (.resize packet (side.growShared n))
    after.2 = (s.step (.resize packet (side.grow n))).2
      ∧ ∀ g, after.1.packets.find? packet = some g →
        (∀ a k, s.handleAt a = some k → k.buffer ≠ g.buffer)
          ∧ after.1.pool.shared g = false ∧ after.1.pool.uses g.buffer = 1
  uniqueify_grow : ∀ (side : Side) n,
    s.lookAfter packet [.resize packet .uniqueify, .resize packet (side.grow n)]
      = s.lookAfter packet [.resize packet (side.grow n)]
  uniqueify_eq : ∀ side : Side,
    s.step (.resize packet .uniqueify) = s.step (.resize packet (side.grow 0))
  /-- Room that is made in two steps is made as in one, but for how much is left over. -/
  grow_grow : ∀ (side : Side) a b l l',
    s.lookAfter packet [.resize packet (side.grow a), .resize packet (side.grow b)] = some l →
    s.lookAfter packet [.resize packet (side.grow (a + b))] = some l' →
    l.view.data = l'.view.data ∧ l.view.header = l'.view.header
      ∧ l.annotations = l'.annotations
  /-- Removing the room again gives back the packet, and its place if there was enough room. -/
  grow_shrink : ∀ (side : Side) n l,
    s.lookAfter packet [.resize packet (side.grow n)] = some l →
    let v := s.pool.observe h
    ∃ l', s.lookAfter packet [.resize packet (side.grow n), .adjust packet (side.shrink n)]
        = some l'
      ∧ l'.view.data = v.data ∧ l'.view.header = v.header ∧ l'.annotations = h.annotations
      ∧ (n ≤ side.room v → l'.view.headroom = v.headroom ∧ l'.view.tailroom = v.tailroom
        ∧ l'.view.bufferLength = v.bufferLength)

namespace Session

variable {s : Session} {packet : String} {h : Handle}

section

variable (hs : s.Sound) (hf : s.packets.find? packet = some h)

include hs hf

theorem Sound.growShared_copied {side : Side} {n : Nat}
    (hlt : side.room (s.pool.observe h) < n) :
    let after := s.step (.resize packet (side.growShared n))
    after.2 = (s.step (.resize packet (side.grow n))).2
      ∧ ∀ g, after.1.packets.find? packet = some g →
        (∀ a k, s.handleAt a = some k → k.buffer ≠ g.buffer)
          ∧ after.1.pool.shared g = false ∧ after.1.pool.uses g.buffer = 1 := by
  intro after
  have hdemoted := Pool.growShared_eq_demote (p := s.pool) (h := h) hlt
  have howns := side.owns_grow n
  rcases happly : (side.grow n).apply s.pool h with ⟨q, e | g⟩
  · have hrefused : (side.growShared n).apply s.pool h = (q, .error e) := by
      rw [hdemoted, happly]
      rfl
    refine ⟨?_, fun g hg => ?_⟩
    · simp only [after, Session.step, Session.resize, withPacket_some hf, hrefused, happly]
    · rw [find?_step_resize_of_error hf hrefused] at hg
      cases hg
  · have hshared : (side.growShared n).apply s.pool h = (q, .ok g.toShared) := by
      rw [hdemoted, happly]
      rfl
    obtain ⟨hfound, hpool, -⟩ := step_resize_of_ok hf hshared
    refine ⟨?_, fun k hk => ?_⟩
    · simp only [after, Session.step, Session.resize, withPacket_some hf, hshared, happly]
      rfl
    · obtain rfl : g.toShared = k := Option.some.inj (hfound.symm.trans hk)
      have hex := Resizing.exclusive_of_owns (hs.focus hf) howns happly
      obtain ⟨hcloned, huses⟩ := Pool.exclusive_iff.mp hex
      have hnext := Pool.buffer_of_room_lt hlt (congrArg Prod.snd happly)
      refine ⟨fun a k ha => ?_, ?_, ?_⟩
      · show k.buffer ≠ g.buffer
        rw [hnext]
        exact hs.buffer_ne_next ha
      · show after.1.pool.shared g = false
        rw [hpool, Pool.shared, hcloned, huses]
        rfl
      · rw [hpool]
        exact huses

theorem Sound.roomLaws : RoomLaws s packet h := by
  have hfits : (s.pool.owned h).frame.Fits (s.pool.owned h).bytes.length := hs.fits hf
  have huniqueify : ∀ side : Side,
      s.step (.resize packet .uniqueify) = s.step (.resize packet (side.grow 0)) := fun side =>
    step_resize_congr hf (Pool.grow_zero_eq_uniqueify (hs.focus hf) side).symm
  refine ⟨fun side n l hl => ?_, fun side n hn => ?_, fun side n => hs.growShared_copied hf,
    fun side n => ?_, huniqueify, fun side a b l l' hl hl' => ?_, fun side n l hl => ?_⟩
  · by_cases hn : n ≤ side.room (s.pool.observe h)
    · obtain ⟨l', hl', halone⟩ := hs.lookAfter_growShared hf hn
      rw [hs.lookAfter_grow hf] at hl
      obtain ⟨o, ho, rfl⟩ := Option.map_eq_some_iff.mp hl
      obtain ⟨extra, -, hextra, rfl⟩ := Owned.grow?_eq_some ho
      rw [Pool.room_observe] at hn
      rw [hextra hn]
      exact ⟨l', hl', halone⟩
    · exact hs.lookAfter_growShared_copied hf (Nat.lt_of_not_le hn) hl
  · obtain ⟨g, happly, hb, hc, -⟩ := Pool.growShared_inPlace (hs.focus hf) hn
    refine ⟨g, _, step_resize_inPlace hf happly, hb, ?_⟩
    rw [Pool.shared, Pool.shared, hb, hc]
  · have hfirst : s.lookAfter packet [.resize packet .uniqueify, .resize packet (side.grow n)]
        = s.lookAfter packet [.resize packet (side.grow 0), .resize packet (side.grow n)] := by
      rw [lookAfter, huniqueify side]
      rfl
    rw [hfirst, hs.lookAfter_grow_grow hf, Owned.grow?_zero_bind, hs.lookAfter_grow hf]
  · rw [hs.lookAfter_grow_grow hf] at hl
    rw [hs.lookAfter_grow hf] at hl'
    obtain ⟨o, ho, rfl⟩ := Option.map_eq_some_iff.mp hl
    obtain ⟨o', ho', rfl⟩ := Option.map_eq_some_iff.mp hl'
    obtain ⟨first, hfirst, hsecond⟩ := Option.bind_eq_some_iff.mp ho
    exact Owned.grow?_add hfits hfirst hsecond ho'
  · rw [hs.lookAfter_grow hf] at hl
    obtain ⟨o, ho, rfl⟩ := Option.map_eq_some_iff.mp hl
    obtain ⟨o', hshrunk, hdata, hheader, hannotations, hback⟩ := Owned.shrink_grow? hfits ho
    refine ⟨o'.look, ?_, ?_, ?_, hannotations, ?_⟩
    · rw [hs.lookAfter_grow_shrink hf, ho, Option.bind_some, hshrunk]
      rfl
    · rw [Pool.observe_eq]
      exact hdata
    · rw [Pool.observe_eq]
      exact hheader
    · intro hroom
      rw [Pool.room_observe] at hroom
      rw [hback hroom]
      exact ⟨rfl, rfl, rfl⟩

end

end Session

/-- **Ways to make room agree**, in any session and for any packet of it. -/
theorem room_laws (cs : List Command) (packet : String) (h : Handle)
    (hf : (({} : Session).run cs).packets.find? packet = some h) :
    RoomLaws (({} : Session).run cs) packet h :=
  (Session.sound_empty.run cs).roomLaws hf

/-- Eight bytes are pushed to a clone with a headroom of four, in two steps and in one. Both times
the buffer gets wider, but not by as much. -/
theorem room_laws_clone :
    let cs : List Command := [.make "p" (.copy 4 [1, 2, 3] 0), .clone "p" "q"]
    let s := ({} : Session).run cs
    ∃ l l', s.lookAfter "q" [.resize "q" (.push 3), .resize "q" (.push 5)] = some l
      ∧ s.lookAfter "q" [.resize "q" (.push 8)] = some l'
      ∧ l.view.data = l'.view.data ∧ l.view.headroom = 128 ∧ l'.view.headroom = 132 := by
  intro cs s
  obtain ⟨h, hf⟩ : ∃ h, s.packets.find? "q" = some h := ⟨_, rfl⟩
  have htwice : (s.lookAfter "q" [.resize "q" (.push 3), .resize "q" (.push 5)]).map
      (·.view.headroom) = some 128 := by decide +kernel
  have honce : (s.lookAfter "q" [.resize "q" (.push 8)]).map (·.view.headroom) = some 132 := by
    decide +kernel
  obtain ⟨l, hl, hheadroom⟩ := Option.map_eq_some_iff.mp htwice
  obtain ⟨l', hl', hheadroom'⟩ := Option.map_eq_some_iff.mp honce
  obtain ⟨hdata, -⟩ := (room_laws cs "q" h hf).grow_grow .front 3 5 l l' hl hl'
  exact ⟨l, l', hl, hl', hdata, hheadroom, hheadroom'⟩

end PacketPath
