import PacketPath.Proofs.DeepCopy.Handles
import PacketPath.Proofs.Packet.Guarded
import PacketPath.Proofs.Session.Places

set_option autoImplicit false

/-! # Adjusting a packet in place

Moving the window of a packet, and marking its headers, is granted exactly if the bytes that are
asked for are there, whoever else is on the buffer. A sum that is no size asks for more bytes than
there ever are. What is refused has changed nothing. What is granted is seen through this packet only:
the others, on the same buffer too, look at the same bytes through their own frames.

All of this is told by what was read of the packet before: its view has the frame in it, and the
bytes for any other one.
-/

namespace PacketPath

/-! ## Frames that are read -/

namespace PacketView

/-- The window and the marks, as positions in the buffer. Marks may lie before the window. -/
def frame (v : PacketView) : Frame where
  start := v.headroom
  stop := v.headroom + v.length
  marks := v.header.map fun w =>
    let network := ((v.headroom : Int) + w.networkOffset).toNat
    ⟨network, network + w.networkLength⟩

/-- What is read of the same buffer through another frame. -/
def through (v : PacketView) (f : Frame) : PacketView :=
  { (⟨v.buffer, f, {}, v.writable⟩ : Owned).view with shared := v.shared, uses := v.uses }

end PacketView

namespace Pool

variable {p : Pool} {h : Handle}

/-- The frame of a handle can be read, even where its marks are stale. -/
theorem frame_observe (hf : h.frame.Fits (p.limit h)) : (p.observe h).frame = h.frame := by
  obtain ⟨hwindow, -, hmarks⟩ := hf
  have hheader : (p.observe h).header = p.observeHeader h := rfl
  have hstop : h.frame.start + h.frame.length = h.frame.stop := Nat.add_sub_cancel' hwindow
  rw [PacketView.frame, hheader, observeHeader_eq, Owned.header, owned, Option.map_map]
  show Frame.mk h.frame.start (h.frame.start + h.frame.length) _ = h.frame
  rw [hstop]
  cases hm : h.frame.marks with
  | none =>
      rw [Option.map_none, ← hm]
  | some m =>
      have hnetwork : ((h.frame.start : Int) + ((m.network : Int) - h.frame.start)).toNat
          = m.network := by omega
      have horder : m.network + (m.transport - m.network) = m.transport :=
        Nat.add_sub_cancel' (hmarks m hm).1
      simp only [Option.map_some, Function.comp_apply, observe, hnetwork, horder]
      rw [← hm]

/-- A handle with another frame shows the same buffer through that one. -/
theorem observe_frame (p : Pool) (h : Handle) (f : Frame) :
    p.observe { h with frame := f } = (p.observe h).through f := by
  rw [observe_eq, PacketView.through, observe]
  rfl

/-- The data is the stretch of the buffer that the frame says. -/
theorem data_observe (hf : h.frame.Fits (p.limit h)) :
    (p.observe h).data = (p.observe h).buffer.slice (p.observe h).frame.start
      (p.observe h).frame.stop := by
  rw [frame_observe hf]
  rfl

end Pool

/-! ## What an adjustment asks for -/

namespace Adjustment

/-- How many bytes an adjustment asks for. The sums have no limit. -/
def asked : Adjustment → Nat
  | .pull n => n
  | .take n => n
  | .reposition headroom length => headroom + length
  | .markHeader offset length => offset + length
  | .clearMarks => 0

/-- How many bytes there are for it: a window may be moved all over the buffer, and everything else
stays inside the data. -/
def available (v : PacketView) : Adjustment → Nat
  | .reposition _ _ => v.bufferLength
  | _ => v.length

/-- The reply if there are not as many. A sum that is no size is reported as the largest one. -/
def refusal (v : PacketView) : Adjustment → Reply
  | .pull n => .adjustFailed (.startPastEnd n v.length)
  | .take n => .adjustFailed (.endBeforeStart n v.length)
  | .reposition headroom length =>
    .adjustFailed (.endPastLimit (min (headroom + length) maxSize) v.bufferLength)
  | .markHeader offset length => .markFailed (.outOfRange offset length v.length)
  | .clearMarks => .done

/-- The frame if there are. -/
def moved (v : PacketView) : Adjustment → Frame
  | .pull n => { v.frame with start := v.headroom + n }
  | .take n => { v.frame with stop := v.headroom + (v.length - n) }
  | .reposition headroom length => { v.frame with start := headroom, stop := headroom + length }
  | .markHeader offset length =>
    { v.frame with marks := some ⟨v.headroom + offset, v.headroom + offset + length⟩ }
  | .clearMarks => { v.frame with marks := none }

/-- A test that fails if there is too little, read the other way round. -/
theorem mapError_ite {α ε ε' : Type} (needed there : Nat) (a : α) (e : ε) (f : ε → ε') :
    (if needed ≤ there then .ok a else .error e : Except ε α).mapError f
      = if there < needed then .error (f e) else .ok a := by
  by_cases hle : needed ≤ there
  · rw [if_pos hle, if_neg (Nat.not_lt.mpr hle)]
    rfl
  · rw [if_neg hle, if_pos (Nat.lt_of_not_le hle)]
    rfl

/-- An adjustment looks at nothing but what can be read. -/
theorem apply_eq {p : Pool} {h : Handle} (hf : h.frame.Fits (p.limit h)) (how : Adjustment) :
    how.apply h.frame (p.limit h) =
      if how.available (p.observe h) < how.asked then .error (how.refusal (p.observe h))
      else .ok (how.moved (p.observe h)) := by
  have hframe : (p.observe h).frame = h.frame := Pool.frame_observe hf
  cases how with
  | pull n =>
      rw [apply, Frame.pull, mapError_ite, moved, hframe]
      rfl
  | take n =>
      rw [apply, Frame.take, mapError_ite, moved, hframe]
      refine ite_congr rfl (fun _ => rfl) fun hn => ?_
      -- the end is told from the start
      have hle : n ≤ h.frame.length := Nat.le_of_not_lt hn
      have hwindow : h.frame.start + h.frame.length = h.frame.stop := Nat.add_sub_cancel' hf.1
      have hstop : h.frame.stop - n = h.frame.start + (h.frame.length - n) := by omega
      rw [hstop]
      rfl
  | reposition headroom length =>
      rw [apply, Frame.reposition, mapError_ite, moved, hframe]
      rfl
  | markHeader offset length =>
      rw [apply, Frame.markHeader, mapError_ite, moved, hframe]
      rfl
  | clearMarks =>
      rw [asked, moved, hframe, if_neg (Nat.not_lt_zero _)]
      rfl

/-- A machine with 64-bit sizes gives the same, without an overflow. -/
theorem guarded_eq {p : Pool} {h : Handle} (hf : h.frame.Fits (p.limit h))
    (hl : p.limit h ≤ maxSize) (how : Adjustment) :
    Guarded.adjust h.frame (p.limit h) how = some
      (if how.available (p.observe h) < how.asked then .error (how.refusal (p.observe h))
      else .ok (how.moved (p.observe h))) := by
  rw [Guarded.adjust_eq hf hl, apply_eq hf]

variable {v : PacketView} {n : Nat}

theorem data_pull (hv : v.data = v.buffer.slice v.frame.start v.frame.stop) :
    (v.through (moved v (.pull n))).data = v.data.drop n := by
  rw [hv, Bytes.slice, List.drop_drop]
  rfl

theorem data_take (hv : v.data = v.buffer.slice v.frame.start v.frame.stop) :
    (v.through (moved v (.take n))).data = v.data.take (v.length - n) := by
  have hstop : v.headroom + (v.length - n) ≤ v.headroom + v.length := by omega
  rw [hv, Bytes.slice, List.take_drop, List.take_take]
  show (v.buffer.take (v.headroom + (v.length - n))).drop v.headroom
    = (v.buffer.take (min (v.headroom + (v.length - n)) (v.headroom + v.length))).drop v.headroom
  rw [Nat.min_eq_left hstop]

end Adjustment

/-! ## Adjusting in a session -/

/-- What an adjustment of the packet `h` does, which is under a name of a session. -/
structure Adjusting (s : Session) (packet : String) (h : Handle) : Prop where
  /-- With too few bytes the session stays as it is, in everything. -/
  refused : ∀ how : Adjustment, how.available (s.pool.observe h) < how.asked →
    s.step (.adjust packet how) = (s, how.refusal (s.pool.observe h))
  /-- Otherwise the packet has another frame, and the session is the same in everything else. -/
  granted : ∀ how : Adjustment, how.asked ≤ how.available (s.pool.observe h) →
    s.step (.adjust packet how)
      = (s.update packet { h with frame := how.moved (s.pool.observe h) }, .done)
  /-- It shows the buffer that it showed, through that frame. -/
  seen : ∀ f, s.pool.observe { h with frame := f } = (s.pool.observe h).through f
  pulled : ∀ n, ((s.pool.observe h).through (Adjustment.moved (s.pool.observe h) (.pull n))).data
    = (s.pool.observe h).data.drop n
  taken : ∀ n, ((s.pool.observe h).through (Adjustment.moved (s.pool.observe h) (.take n))).data
    = (s.pool.observe h).data.take ((s.pool.observe h).length - n)
  /-- An IPv6 header is marked if its forty bytes are there. -/
  ipv6_iff : ∀ offset, (s.step (.adjust packet (.markHeader offset Frame.ipv6HeaderSize))).2 = .done
    ↔ offset + 40 ≤ (s.pool.observe h).length
  /-- No byte was written, and the other packets look at theirs as before. -/
  others : ∀ how, (s.step (.adjust packet how)).1.pool = s.pool
    ∧ ∀ a, a ≠ .packet packet → (s.step (.adjust packet how)).1.handleAt a = s.handleAt a
  /-- A machine with 64-bit sizes finds the same frame, or the same error. -/
  machine : ∀ how : Adjustment, s.pool.limit h ≤ maxSize →
    Guarded.adjust h.frame (s.pool.limit h) how = some
      (if how.available (s.pool.observe h) < how.asked then .error (how.refusal (s.pool.observe h))
      else .ok (how.moved (s.pool.observe h)))

namespace Session

variable {s : Session} {packet : String} {h : Handle}

theorem Sound.adjusting (hs : s.Sound) (hf : s.packets.find? packet = some h) :
    Adjusting s packet h := by
  have hfits : h.frame.Fits (s.pool.limit h) := hs.fits hf
  have hrefused : ∀ how : Adjustment, how.available (s.pool.observe h) < how.asked →
      s.step (.adjust packet how) = (s, how.refusal (s.pool.observe h)) := by
    intro how hlt
    exact adjust_of_error hf ((how.apply_eq hfits).trans (if_pos hlt))
  have hgranted : ∀ how : Adjustment, how.asked ≤ how.available (s.pool.observe h) →
      s.step (.adjust packet how)
        = (s.update packet { h with frame := how.moved (s.pool.observe h) }, .done) := by
    intro how hle
    exact adjust_of_ok hf ((how.apply_eq hfits).trans (if_neg (Nat.not_lt.mpr hle)))
  have hdata := Pool.data_observe hfits
  refine ⟨hrefused, hgranted, s.pool.observe_frame h, fun n => Adjustment.data_pull hdata,
    fun n => Adjustment.data_take hdata, fun offset => ⟨fun hdone => ?_, fun hle => ?_⟩,
    fun how => ?_, fun how hl => how.guarded_eq hfits hl⟩
  · by_contra hlt
    rw [hrefused (.markHeader offset Frame.ipv6HeaderSize) (Nat.lt_of_not_le hlt)] at hdone
    cases hdone
  · rw [hgranted (.markHeader offset Frame.ipv6HeaderSize) hle]
  · rcases Nat.lt_or_ge (how.available (s.pool.observe h)) how.asked with hlt | hle
    · rw [hrefused how hlt]
      exact ⟨rfl, fun _ _ => rfl⟩
    · rw [hgranted how hle]
      refine ⟨rfl, fun a hne => ?_⟩
      rw [handleAt_update, if_neg hne]

end Session

/-- **Adjustments are exact and atomic.** In any session, for any packet, and whatever they ask
for. -/
theorem adjust_exact (cs : List Command) (packet : String) (h : Handle)
    (hf : (({} : Session).run cs).packets.find? packet = some h) :
    Adjusting (({} : Session).run cs) packet h :=
  (Session.sound_empty.run cs).adjusting hf

/-- A header was pulled before the packet was cloned. The window of the clone goes back over it, and
the packet does not see that. A window whose end is no size is refused, and so is a header that is
longer than the data. -/
theorem adjust_exact_pulledHeader :
    let cs : List Command := [.make "p" (.copy 4 [1, 2, 3, 4, 5] 0), .adjust "p" (.markHeader 0 3),
      .adjust "p" (.pull 3), .clone "p" "q"]
    let s := ({} : Session).run cs
    let after := (s.step (.adjust "q" (.reposition 4 5))).1
    (s.view "q").map (·.frame) = some ⟨7, 9, some ⟨4, 7⟩⟩
      ∧ s.step (.adjust "q" (.reposition maxSize 1))
        = (s, .adjustFailed (.endPastLimit maxSize 64))
      ∧ s.step (.adjust "q" (.markHeader 0 Frame.ipv6HeaderSize))
        = (s, .markFailed (.outOfRange 0 40 2))
      ∧ after.view "q" = (s.view "q").map (·.through ⟨4, 9, some ⟨4, 7⟩⟩)
      ∧ (after.view "q").map (·.data) = some [1, 2, 3, 4, 5]
      ∧ after.view "p" = s.view "p" := by
  intro cs s after
  obtain ⟨h, hf⟩ : ∃ h, s.packets.find? "q" = some h := ⟨_, rfl⟩
  have hq := adjust_exact cs "q" h hf
  have hbefore : s.view "q" = some (s.pool.observe h) := by rw [Session.view, hf, Option.map_some]
  have hframe : (s.view "q").map (·.frame) = some ⟨7, 9, some ⟨4, 7⟩⟩ := by decide +kernel
  have hlimit : (s.view "q").map (·.bufferLength) = some 64 := by decide +kernel
  have hlength : (s.view "q").map (·.length) = some 2 := by decide +kernel
  have hdata : (after.view "q").map (·.data) = some [1, 2, 3, 4, 5] := by decide +kernel
  rw [hbefore, Option.map_some, Option.some_inj] at hframe hlimit hlength
  have hpast : (s.pool.observe h).bufferLength < maxSize + 1 := by
    rw [hlimit]
    decide
  have hlonger : (s.pool.observe h).length < 0 + Frame.ipv6HeaderSize := by
    rw [hlength]
    decide
  have hinside : 4 + 5 ≤ (s.pool.observe h).bufferLength := by
    rw [hlimit]
    decide
  have hwindow := hq.refused (.reposition maxSize 1) hpast
  have hheader := hq.refused (.markHeader 0 Frame.ipv6HeaderSize) hlonger
  have hmoved := hq.granted (.reposition 4 5) hinside
  rw [Adjustment.refusal, hlimit] at hwindow
  rw [Adjustment.refusal, hlength] at hheader
  rw [Adjustment.moved, hframe] at hmoved
  have hafter : after.view "q" = (s.view "q").map (·.through ⟨4, 9, some ⟨4, 7⟩⟩) := by
    have hstep : after = _ := congrArg Prod.fst hmoved
    rw [hbefore, hstep]
    show ((s.update "q" _).packets.find? "q").map s.pool.observe = _
    rw [Session.find?_update, Option.map_some, hq.seen]
    rfl
  obtain ⟨hpool, hplaces⟩ := hq.others (.reposition 4 5)
  have hother : after.view "p" = s.view "p" := by
    rw [Session.view, Session.view, hpool]
    exact congrArg (Option.map s.pool.observe) (hplaces (.packet "p") (by decide))
  rw [hbefore] at hafter ⊢
  exact ⟨congrArg some hframe, hwindow, hheader, hafter, hdata, hother⟩

end PacketPath
