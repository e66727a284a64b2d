import PacketPath.Proofs.Session.Pushing

set_option autoImplicit false

/-! # Putting

What putting room behind the data does, from end to end. A packet is put to under the same rule by
which it is pushed to, with the tailroom for the headroom, so that the growth of a copy is that of
`Pool.pushGrowth`. The zeros come behind what was the buffer, so that no position in it changes.

The headers run to where the data ends, so they get longer. One that had come to lie behind the data
may be seen again.
-/

namespace PacketPath

namespace Owned

/-- The packet with `n` bytes put behind its data, in a buffer that is wider by `extra` bytes. -/
def extended (o : Owned) (extra n : Nat) : Owned :=
  { o with
    bytes := o.bytes ++ Bytes.zeros extra
    frame := { o.frame with stop := o.frame.stop + n }
    writable := true }

theorem extended_eq (o : Owned) (extra n : Nat) :
    ((o.widened 0 extra).openBack n).setWritable true = o.extended extra n := by
  simp only [setWritable, openBack, widened, Frame.shift_zero]
  rfl

end Owned

namespace Pool

variable {p : Pool} {h : Handle} {others : List Handle} {n : Nat}

/-! ## Putting to a handle -/

section

variable (hs : p.Sound (h :: others))

include hs

/-- Room that is there is taken in place by the only handle on the buffer. -/
theorem put_inPlace (hex : p.exclusive h = true) (hn : n ≤ p.tailroom h) :
    p.put h n = (p, .ok { h with
      frame := { h.frame with stop := h.frame.stop + n }, writable := true }) := by
  have hroom : h.frame.stop + n ≤ p.limit h := (hs.fits h List.mem_cons_self).stop_add_le hn
  have hroom' : h.frame.stop + n ≤ p.limit { h with writable := true } := hroom
  rw [Pool.put, if_pos hn, uniqueify, if_pos hex]
  simp only [expandBack, reframe, Frame.expandBack?, if_pos hroom']

/-- A buffer that could be had has room for what is put. -/
theorem stop_add_le_of_pushGrowth
    (h' : n ≤ p.tailroom h ∨ pushGrowth (p.tailroom h) n ≤ maxBuffer) :
    h.frame.stop + n ≤ p.limit h + pushGrowth (p.tailroom h) n := by
  have hroom := le_start_add_pushGrowth h'
  have hstop : h.frame.stop ≤ p.limit h := (hs.fits h List.mem_cons_self).2.1
  rw [Pool.tailroom] at hroom ⊢
  omega

end

/-- Otherwise the buffer is copied. -/
theorem put_eq_relocate (h' : ¬ (p.exclusive h = true ∧ n ≤ p.tailroom h)) :
    p.put h n = expandBack n (p.relocate h 0 (pushGrowth (p.tailroom h) n)) := by
  unfold Pool.put pushGrowth
  by_cases hn : n ≤ p.tailroom h
  · have hex : ¬ p.exclusive h = true := fun hex => h' ⟨hex, hn⟩
    rw [if_pos hn, if_pos hn, uniqueify, if_neg hex]
  · rw [if_neg hn, if_neg hn]

section

variable (hs : p.Sound (h :: others))

include hs

/-- A buffer is copied if its size is permitted then. -/
theorem put_copied (h' : ¬ (p.exclusive h = true ∧ n ≤ p.tailroom h)) :
    Resized.owned (p.put h n) = if p.limit h + pushGrowth (p.tailroom h) n ≤ maxBuffer then
        .ok ((p.owned h).extended (pushGrowth (p.tailroom h) n) n)
      else .error (.alloc (.tooLarge (saturate (p.limit h + pushGrowth (p.tailroom h) n)))) := by
  have hmoved := relocate_owned hs 0 (pushGrowth (p.tailroom h) n)
  rw [Owned.grow_eq, Nat.zero_add, show (p.owned h).bytes.length = p.limit h from rfl] at hmoved
  rw [put_eq_relocate h', ← Owned.extended_eq]
  split
  · next hle =>
    rw [if_pos hle] at hmoved
    have hroom := stop_add_le_of_pushGrowth hs (.inr (Nat.le_of_add_left_le hle))
    refine expandBack_owned hmoved ?_
    show h.frame.stop + 0 + n
      ≤ (p.bytes h.buffer ++ Bytes.zeros (pushGrowth (p.tailroom h) n)).length
    rw [List.length_append, Bytes.length_zeros]
    exact hroom
  · next hle =>
    rw [if_neg hle] at hmoved
    exact reframe_owned_error hmoved _

/-- Putting that succeeds gives the same packet in place as with a copy. -/
theorem put_owned_ok (h' : (p.exclusive h = true ∧ n ≤ p.tailroom h)
      ∨ p.limit h + pushGrowth (p.tailroom h) n ≤ maxBuffer) :
    Resized.owned (p.put h n) = .ok ((p.owned h).extended (pushGrowth (p.tailroom h) n) n) := by
  by_cases hplace : p.exclusive h = true ∧ n ≤ p.tailroom h
  · rw [put_inPlace hs hplace.1 hplace.2, pushGrowth, if_pos hplace.2, Owned.extended, Bytes.zeros,
      List.replicate_zero, List.append_nil]
    rfl
  · rw [put_copied hs hplace, if_pos (h'.resolve_left hplace)]

end

end Pool

/-! ## What is read of a packet that was put to -/

/-- How a packet looks after `n` bytes were put behind its data, with `extra` zeros behind what was
its buffer. Here `min n v.tailroom` of these bytes are old tailroom, and the others are zeros. -/
structure ExtendedBy (n extra : Nat) (v v' : PacketView) : Prop where
  writable : v'.writable = true
  unshared : v'.shared = false
  uses : v'.uses = 1
  buffer : v'.buffer = v.buffer ++ Bytes.zeros extra
  bufferLength : v'.bufferLength = v.bufferLength + extra
  headroom : v'.headroom = v.headroom
  length : v'.length = v.length + n
  tailroom : (v'.tailroom : Int) = v.tailroom + extra - n
  data : v'.data = v.data
    ++ v.buffer.slice (v.headroom + v.length) (v.headroom + v.length + min n v.tailroom)
    ++ Bytes.zeros (n - min n v.tailroom)
  /-- The headers start where they did, and run to where the data ends now. -/
  header : v'.header = v.header.map fun w =>
    { w with
      network := v'.buffer.slice (v.headroom + w.networkOffset).toNat (v'.headroom + v'.length)
      transport :=
        v'.buffer.slice (v.headroom + w.transportOffset).toNat (v'.headroom + v'.length) }

namespace Owned

variable {o : Owned} {extra n : Nat}

theorem data_extended (hf : o.frame.Fits o.bytes.length)
    (hn : o.frame.stop + n ≤ o.bytes.length + extra) :
    (o.extended extra n).data = o.data
      ++ o.bytes.slice o.frame.stop (o.frame.stop + min n o.tailroom)
      ++ Bytes.zeros (n - min n o.tailroom) := by
  obtain ⟨hwindow, hstop, -⟩ := hf
  have hbehind : o.bytes <+: o.bytes ++ Bytes.zeros extra := List.prefix_append _ _
  have hold : ∀ first last, last ≤ o.bytes.length →
      (o.bytes ++ Bytes.zeros extra).slice first last = o.bytes.slice first last :=
    fun _ _ hlast => Bytes.slice_of_isPrefix hbehind hlast
  show (o.bytes ++ Bytes.zeros extra).slice o.frame.start (o.frame.stop + n) = _
  rw [tailroom, ← Bytes.slice_append_slice hwindow (Nat.le_add_right _ n), hold _ _ hstop,
    List.append_assoc]
  congr 1
  by_cases hroom : n ≤ o.bytes.length - o.frame.stop
  · -- all bytes come from the tailroom
    rw [Nat.min_eq_left hroom, Nat.sub_self, hold _ _ (by omega)]
    exact (List.append_nil _).symm
  · -- the tailroom is used up, and zeros stand behind it
    have hall : o.frame.stop + (o.bytes.length - o.frame.stop) = o.bytes.length := by omega
    have hzeros : (o.bytes ++ Bytes.zeros extra).slice o.bytes.length (o.frame.stop + n)
        = Bytes.zeros (n - (o.bytes.length - o.frame.stop)) := by
      rw [Bytes.slice_append_zeros hn]
      congr 1
      omega
    have hend : o.bytes.length ≤ o.frame.stop + n := by omega
    rw [Nat.min_eq_right (by omega), hall, ← hzeros, ← hold _ _ (Nat.le_refl _),
      Bytes.slice_append_slice hstop hend]

theorem header_extended (o : Owned) (extra n : Nat) :
    (o.extended extra n).header = o.header.map fun w =>
      { w with
        network := (o.bytes ++ Bytes.zeros extra).slice (o.frame.start + w.networkOffset).toNat
          (o.frame.stop + n)
        transport := (o.bytes ++ Bytes.zeros extra).slice (o.frame.start + w.transportOffset).toNat
          (o.frame.stop + n) } := by
  have hmark : ∀ mark : Nat, (o.frame.start + ((mark : Int) - o.frame.start)).toNat = mark :=
    fun mark => by omega
  cases hm : o.frame.marks with
  | none => simp only [header, extended, hm, Option.map_none]
  | some m =>
      have hm' : (o.extended extra n).frame.marks = some m := hm
      rw [header_of_marks hm, header_of_marks hm', Option.map_some, hmark, hmark]
      rfl

/-- All that is read of a packet that was put to, if it is alone on its buffer. -/
theorem extendedBy_view (hf : o.frame.Fits o.bytes.length)
    (hn : o.frame.stop + n ≤ o.bytes.length + extra) (shared : Bool) (uses : Nat) :
    ExtendedBy n extra { o.view with shared := shared, uses := uses }
      (o.extended extra n).view := by
  have hend : o.frame.start + o.frame.length = o.frame.stop := Nat.add_sub_cancel' hf.1
  have hend' : o.frame.start + (o.extended extra n).frame.length = o.frame.stop + n :=
    Nat.add_sub_cancel' (Nat.le_trans hf.1 (Nat.le_add_right _ _))
  have hdata := data_extended hf hn
  rw [← hend] at hdata
  obtain ⟨hwindow, hstop, -⟩ := hf
  have hlength : (o.extended extra n).bytes.length = o.bytes.length + extra := by
    rw [extended, List.length_append, Bytes.length_zeros]
  refine ⟨rfl, rfl, rfl, rfl, hlength, rfl, ?_, ?_, hdata, ?_⟩
  · show o.frame.stop + n - o.frame.start = o.frame.stop - o.frame.start + n
    omega
  · show (((o.extended extra n).bytes.length - (o.frame.stop + n) : Nat) : Int)
      = ((o.bytes.length - o.frame.stop : Nat) : Int) + extra - n
    omega
  · show (o.extended extra n).header = o.header.map fun w =>
      { w with
        network := (o.bytes ++ Bytes.zeros extra).slice (o.frame.start + w.networkOffset).toNat
          (o.frame.start + (o.extended extra n).frame.length)
        transport := (o.bytes ++ Bytes.zeros extra).slice (o.frame.start + w.transportOffset).toNat
          (o.frame.start + (o.extended extra n).frame.length) }
    rw [hend', header_extended]

end Owned

/-! ## Putting in a session -/

/-- **Putting, from end to end.** If a packet is not shared and has the tailroom, it is put to in
place. Otherwise its buffer is copied, with more room behind if there was too little, and that
succeeds exactly if the size of the copy is permitted. The packet looks the same in either case. -/
theorem put_endToEnd (cs : List Command) (packet : String) (h : Handle) (n : Nat)
    (hf : (({} : Session).run cs).packets.find? packet = some h) :
    let s := ({} : Session).run cs
    let v := s.pool.observe h
    let extra := if n ≤ v.tailroom then 0 else min (n + 128) maxSize / 4 * 4
    let size := v.bufferLength + extra
    let inPlace := v.shared = false ∧ n ≤ v.tailroom
    let after := s.step (.resize packet (.put n))
    (inPlace ∨ size ≤ maxBuffer → ∃ g elsewhere,
        after.1.packets.find? packet = some g ∧ after.2 = .moved elsewhere
          ∧ ExtendedBy n extra v (after.1.pool.observe g) ∧ g.annotations = h.annotations
          ∧ (inPlace → g.buffer = h.buffer ∧ after.1.pool = s.pool))
      ∧ (¬ inPlace → maxBuffer < size →
        after.1.packets.find? packet = none
          ∧ after.2 = .allocFailed (.tooLarge (min size maxSize))) := by
  intro s v extra size inPlace after
  have hs : s.Sound := Session.sound_empty.run cs
  have hlive : s.pool.Sound (h :: s.others packet) := hs.focus hf
  have hfits : (s.pool.owned h).frame.Fits (s.pool.owned h).bytes.length := hs.fits hf
  have hextra : extra = Pool.pushGrowth (s.pool.tailroom h) n := rfl
  have hsize : size = s.pool.limit h + Pool.pushGrowth (s.pool.tailroom h) n := rfl
  -- a packet that is not shared is the only one on its buffer
  have hplace : inPlace ↔ s.pool.exclusive h = true ∧ n ≤ s.pool.tailroom h := by
    rw [← hlive.shared_eq_false_iff List.mem_cons_self]
    rfl
  rw [hplace, hsize, hextra]
  refine ⟨fun hroom => ?_, fun hcopied hlarge => ?_⟩
  · have howned : Resized.owned ((Resizing.put n).apply s.pool h) = _ :=
      Pool.put_owned_ok hlive hroom
    obtain ⟨g, elsewhere, hfound, hreply, hview, hannotations, happly⟩ :=
      hs.step_resize_of_owns hf rfl howned
    refine ⟨g, elsewhere, hfound, hreply, ?_, hannotations, fun hinPlace => ?_⟩
    · have hstop := Pool.stop_add_le_of_pushGrowth hlive
        (hroom.imp And.right fun hle => Nat.le_of_add_left_le hle)
      show ExtendedBy n _ (s.pool.observe h) (after.1.pool.observe g)
      rw [hview, Pool.observe_eq s.pool h]
      exact Owned.extendedBy_view hfits hstop _ _
    · have hput : s.pool.put h n = (after.1.pool, .ok g) := happly
      rw [Pool.put_inPlace hlive hinPlace.1 hinPlace.2] at hput
      obtain ⟨hpool, hg⟩ := Prod.mk.inj hput
      rw [← Except.ok.inj hg]
      exact ⟨rfl, hpool.symm⟩
  · have howned : Resized.owned ((Resizing.put n).apply s.pool h) = _ :=
      Pool.put_copied hlive hcopied
    rw [if_neg (Nat.not_le.mpr hlarge)] at howned
    exact Session.step_resize_of_refused hf howned

/-- A header that was taken from the data is seen again in a copy that is wider by 132 bytes. -/
theorem put_endToEnd_takenHeader :
    let cs : List Command := [.make "p" (.copy 60 [1, 2, 3, 4] 0), .adjust "p" (.markHeader 2 1),
      .adjust "p" (.take 3), .clone "p" "q"]
    let s := ({} : Session).run cs
    let after := (s.step (.resize "q" (.put 4))).1
    ∃ h g, s.packets.find? "q" = some h ∧ after.packets.find? "q" = some g
      ∧ ExtendedBy 4 132 (s.pool.observe h) (after.pool.observe g)
      ∧ (s.view "q").map (·.header.map (·.network)) = some (some [])
      ∧ (after.view "q").map (·.header.map (·.network)) = some (some [3, 4, 0]) := by
  intro cs s after
  obtain ⟨h, hf⟩ : ∃ h, s.packets.find? "q" = some h := ⟨_, rfl⟩
  have htailroom : (s.packets.find? "q").map (fun h => (s.pool.observe h).tailroom) = some 3 := by
    decide +kernel
  have hlength : (s.packets.find? "q").map (fun h => (s.pool.observe h).bufferLength) = some 64 := by
    decide +kernel
  have hbefore : (s.view "q").map (·.header.map (·.network)) = some (some []) := by
    decide +kernel
  have hafter : (after.view "q").map (·.header.map (·.network)) = some (some [3, 4, 0]) := by
    decide +kernel
  rw [hf, Option.map_some, Option.some_inj] at htailroom hlength
  obtain ⟨hput, -⟩ := put_endToEnd cs "q" h 4 hf
  rw [htailroom, hlength] at hput
  obtain ⟨g, -, hfound, -, hview, -⟩ := hput (.inr (by decide))
  simp only [after, s]
  exact ⟨h, g, hf, hfound, hview, hbefore, hafter⟩

end PacketPath
