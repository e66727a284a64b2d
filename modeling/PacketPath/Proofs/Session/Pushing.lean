import PacketPath.Proofs.Session.Marks
import PacketPath.Proofs.Session.Resizing

set_option autoImplicit false

/-! # Pushing

What putting room before the data does, from end to end: when it is done in place, when memory for a
copy is refused and with which size, and what is read of the packet afterwards.

What is seen of the packet does not depend on whether its buffer was copied, so everything is told
from the number of zeros that were put before its bytes, which is none if the headroom suffices.
-/

namespace PacketPath

namespace Owned

/-- The packet with `n` bytes put before its data, in a buffer that is wider by `extra` bytes. -/
def pushed (o : Owned) (extra n : Nat) : Owned :=
  ((o.widened extra 0).openFront n).setWritable true

end Owned

namespace Pool

variable {p : Pool} {h : Handle} {others : List Handle} {n : Nat}

/-! ## Pushing to a handle -/

/-- How much wider a buffer gets in front to push `n` bytes before data that start at `start`. -/
def pushGrowth (start n : Nat) : Nat := if n ≤ start then 0 else growth n

/-- Room that is there is taken in place by the only handle on the buffer. -/
theorem push_inPlace (hex : p.exclusive h = true) (hn : n ≤ h.frame.start) :
    p.push h n = (p, .ok { h with
      frame := { h.frame with start := h.frame.start - n }, writable := true }) := by
  rw [Pool.push, if_pos hn, uniqueify, if_pos hex]
  simp only [expandFront, reframe, Frame.expandFront?, if_pos hn]

/-- Otherwise the buffer is copied. -/
theorem push_eq_relocate (h' : ¬ (p.exclusive h = true ∧ n ≤ h.frame.start)) :
    p.push h n = expandFront n (p.relocate h (pushGrowth h.frame.start n) 0) := by
  unfold Pool.push pushGrowth
  by_cases hn : n ≤ h.frame.start
  · have hex : ¬ p.exclusive h = true := fun hex => h' ⟨hex, hn⟩
    rw [if_pos hn, if_pos hn, uniqueify, if_neg hex]
  · rw [if_neg hn, if_neg hn]

/-- A buffer that could be had has room for what is pushed. -/
theorem le_start_add_pushGrowth {start : Nat} (h : n ≤ start ∨ pushGrowth start n ≤ maxBuffer) :
    n ≤ start + pushGrowth start n := by
  unfold pushGrowth at h ⊢
  by_cases hn : n ≤ start
  · rwa [if_pos hn]
  · rw [if_neg hn] at h ⊢
    have := le_growth (h.resolve_left hn)
    omega

section

variable (hs : p.Sound (h :: others))

include hs

/-- A buffer is copied if its size is permitted then. -/
theorem push_copied (h' : ¬ (p.exclusive h = true ∧ n ≤ h.frame.start)) :
    Resized.owned (p.push h n) = if pushGrowth h.frame.start n + p.limit h ≤ maxBuffer then
        .ok ((p.owned h).pushed (pushGrowth h.frame.start n) n)
      else .error (.alloc (.tooLarge (saturate (pushGrowth h.frame.start n + p.limit h)))) := by
  have hmoved := relocate_owned hs (pushGrowth h.frame.start n) 0
  rw [Owned.grow_eq, Nat.add_zero, show (p.owned h).bytes.length = p.limit h from rfl] at hmoved
  rw [push_eq_relocate h']
  split
  · next hle =>
    rw [if_pos hle] at hmoved
    have hroom := le_start_add_pushGrowth (.inr (Nat.le_of_add_right_le hle))
    exact expandFront_owned hmoved hroom
  · next hle =>
    rw [if_neg hle] at hmoved
    exact reframe_owned_error hmoved _

/-- A push that succeeds gives the same packet in place as with a copy. -/
theorem push_owned_ok (h' : (p.exclusive h = true ∧ n ≤ h.frame.start)
      ∨ pushGrowth h.frame.start n + p.limit h ≤ maxBuffer) :
    Resized.owned (p.push h n) = .ok ((p.owned h).pushed (pushGrowth h.frame.start n) n) := by
  by_cases hplace : p.exclusive h = true ∧ n ≤ h.frame.start
  · rw [push_inPlace hplace.1 hplace.2, pushGrowth, if_pos hplace.2, Owned.pushed,
      Owned.widened_zero]
    rfl
  · rw [push_copied hs hplace, if_pos (h'.resolve_left hplace)]

end

end Pool

/-! ## What is read of a packet that was pushed to -/

/-- How a packet looks after `n` bytes were put before its data, with `extra` zeros before what was
its buffer. Here `min n v.headroom` of these bytes are old headroom, and the others are zeros. -/
structure PushedBy (n extra : Nat) (v v' : PacketView) : Prop where
  writable : v'.writable = true
  unshared : v'.shared = false
  uses : v'.uses = 1
  buffer : v'.buffer = Bytes.zeros extra ++ v.buffer
  bufferLength : v'.bufferLength = extra + v.bufferLength
  headroom : (v'.headroom : Int) = v.headroom + extra - n
  length : v'.length = v.length + n
  tailroom : v'.tailroom = v.tailroom
  data : v'.data = Bytes.zeros (n - min n v.headroom)
    ++ v.buffer.slice (v.headroom - min n v.headroom) v.headroom ++ v.data
  /-- The headers are farther from where the data starts, and are made of the same bytes. -/
  header : v'.header = v.header.map fun w =>
    { w with networkOffset := w.networkOffset + n, transportOffset := w.transportOffset + n }

namespace Owned

variable {o : Owned} {extra n : Nat}

theorem data_pushed (hf : o.frame.Fits o.bytes.length) (hn : n ≤ o.frame.start + extra) :
    (o.pushed extra n).data = Bytes.zeros (n - min n o.frame.start)
      ++ o.bytes.slice (o.frame.start - min n o.frame.start) o.frame.start ++ o.data := by
  obtain ⟨hwindow, hstop, -⟩ := hf
  have hold : ∀ first, (Bytes.zeros extra ++ o.bytes ++ Bytes.zeros 0).slice (first + extra)
      (o.frame.stop + extra) = o.bytes.slice first o.frame.stop := fun first =>
    Bytes.slice_widened hstop _
  show (Bytes.zeros extra ++ o.bytes ++ Bytes.zeros 0).slice (o.frame.start + extra - n)
    (o.frame.stop + extra) = _
  by_cases hroom : n ≤ o.frame.start
  · -- all bytes come from the headroom
    rw [Nat.min_eq_left hroom, Nat.sub_self, Nat.sub_add_comm hroom, hold,
      ← Bytes.slice_append_slice (Nat.sub_le _ n) hwindow]
    rfl
  · -- the headroom is used up, and zeros stand before it
    have hzeros : (Bytes.zeros extra ++ o.bytes ++ Bytes.zeros 0).slice
        (o.frame.start + extra - n) extra = Bytes.zeros (n - o.frame.start) := by
      rw [List.append_assoc, Bytes.slice_zeros_append]
      congr 1
      omega
    have hrest := hold 0
    rw [Nat.zero_add, ← Bytes.slice_append_slice (Nat.zero_le _) hwindow] at hrest
    have hfront : o.frame.start + extra - n ≤ extra := by omega
    rw [Nat.min_eq_right (by omega), Nat.sub_self,
      ← Bytes.slice_append_slice hfront (Nat.le_add_left _ _), hzeros, hrest, List.append_assoc]
    rfl

theorem header_pushed (hf : o.frame.Fits o.bytes.length) (hn : n ≤ o.frame.start + extra) :
    (o.pushed extra n).header = o.header.map fun w =>
      { w with networkOffset := w.networkOffset + n, transportOffset := w.transportOffset + n } := by
  obtain ⟨-, hstop, -⟩ := hf
  cases hm : o.frame.marks with
  | none =>
      have hm' : (o.pushed extra n).frame.marks = none := by
        show o.frame.marks.map _ = none
        rw [hm]
        rfl
      simp only [header, hm, hm', Option.map_none]
  | some m =>
      have hm' : (o.pushed extra n).frame.marks
          = some ⟨m.network + extra, m.transport + extra⟩ := by
        show o.frame.marks.map _ = _
        rw [hm]
        rfl
      have hview : ∀ mark, (o.pushed extra n).bytes.slice (mark + extra)
          (o.pushed extra n).frame.stop = o.bytes.slice mark o.frame.stop := fun mark =>
        Bytes.slice_widened hstop _
      have hstart : ((o.pushed extra n).frame.start : Int) = o.frame.start + extra - n := by
        show ((o.frame.start + extra - n : Nat) : Int) = _
        omega
      rw [header_of_marks hm, header_of_marks hm', hview, hview, hstart]
      simp only [Option.map_some, Option.some.injEq, HeaderView.mk.injEq, and_true]
      exact ⟨by omega, by omega, by omega⟩

/-- All that is read of a packet that was pushed to, if it is alone on its buffer. -/
theorem pushedBy_view (hf : o.frame.Fits o.bytes.length) (hn : n ≤ o.frame.start + extra)
    (shared : Bool) (uses : Nat) :
    PushedBy n extra { o.view with shared := shared, uses := uses } (o.pushed extra n).view := by
  have hdata := data_pushed hf hn
  have hheader := header_pushed hf hn
  obtain ⟨hwindow, hstop, -⟩ := hf
  have hbytes : (o.pushed extra n).bytes = Bytes.zeros extra ++ o.bytes := List.append_nil _
  have hlength : (o.pushed extra n).bytes.length = extra + o.bytes.length := by
    rw [hbytes, List.length_append, Bytes.length_zeros]
  refine ⟨rfl, rfl, rfl, hbytes, hlength, ?_, ?_, ?_, hdata, hheader⟩
  · show ((o.frame.start + extra - n : Nat) : Int) = (o.frame.start : Int) + extra - n
    omega
  · show o.frame.stop + extra - (o.frame.start + extra - n) = o.frame.stop - o.frame.start + n
    omega
  · show (o.pushed extra n).bytes.length - (o.frame.stop + extra) = o.bytes.length - o.frame.stop
    omega

end Owned

/-! ## Pushing in a session -/

/-- **Pushing, from end to end.** If a packet is not shared and has the headroom, it is pushed to in
place. Otherwise its buffer is copied, with more room in front if there was too little, and that
succeeds exactly if the size of the copy is permitted. The packet looks the same in either case. -/
theorem push_endToEnd (cs : List Command) (packet : String) (h : Handle) (n : Nat)
    (hf : (({} : Session).run cs).packets.find? packet = some h) :
    let s := ({} : Session).run cs
    let v := s.pool.observe h
    let extra := if n ≤ v.headroom then 0 else min (n + 128) maxSize / 4 * 4
    let size := v.bufferLength + extra
    let inPlace := v.shared = false ∧ n ≤ v.headroom
    let after := s.step (.resize packet (.push n))
    (inPlace ∨ size ≤ maxBuffer → ∃ g elsewhere,
        after.1.packets.find? packet = some g ∧ after.2 = .moved elsewhere
          ∧ PushedBy n extra v (after.1.pool.observe g) ∧ g.annotations = h.annotations
          ∧ (inPlace → g.buffer = h.buffer ∧ after.1.pool = s.pool))
      ∧ (¬ inPlace → maxBuffer < size →
        after.1.packets.find? packet = none
          ∧ after.2 = .allocFailed (.tooLarge (min size maxSize))) := by
  intro s v extra size inPlace after
  have hs : s.Sound := Session.sound_empty.run cs
  have hlive : s.pool.Sound (h :: s.others packet) := hs.focus hf
  have hfits : (s.pool.owned h).frame.Fits (s.pool.owned h).bytes.length := hs.fits hf
  have hextra : extra = Pool.pushGrowth h.frame.start n := rfl
  have hsize : size = Pool.pushGrowth h.frame.start n + s.pool.limit h := Nat.add_comm _ _
  -- a packet that is not shared is the only one on its buffer
  have hplace : inPlace ↔ s.pool.exclusive h = true ∧ n ≤ h.frame.start := by
    rw [← hlive.shared_eq_false_iff List.mem_cons_self]
    rfl
  rw [hplace, hsize, hextra]
  refine ⟨fun hroom => ?_, fun hcopied hlarge => ?_⟩
  · have howned : Resized.owned ((Resizing.push n).apply s.pool h) = _ :=
      Pool.push_owned_ok hlive hroom
    have howns : (Resizing.push n).owns = true := rfl
    rcases happly : (Resizing.push n).apply s.pool h with ⟨q, e | g⟩
    · rw [happly] at howned
      cases howned
    have hg : q.owned g = (s.pool.owned h).pushed (Pool.pushGrowth h.frame.start n) n := by
      rw [happly] at howned
      exact Except.ok.inj howned
    have hex := Resizing.exclusive_of_owns hlive howns happly
    obtain ⟨hfound, hpool, elsewhere, hreply⟩ := Session.step_resize_of_ok hf happly
    refine ⟨g, elsewhere, hfound, hreply, ?_, ?_, fun hinPlace => ?_⟩
    · have hstart := Pool.le_start_add_pushGrowth
        (hroom.imp And.right fun hle => Nat.le_of_add_right_le hle)
      show PushedBy n _ (s.pool.observe h) (after.1.pool.observe g)
      rw [hpool, Pool.observe_of_exclusive hex, hg, Pool.observe_eq s.pool h]
      exact Owned.pushedBy_view hfits hstart _ _
    · exact congrArg Owned.annotations hg
    · have hpushed : s.pool.push h n = (q, .ok g) := happly
      rw [Pool.push_inPlace hinPlace.1 hinPlace.2] at hpushed
      cases hpushed
      exact ⟨rfl, hpool⟩
  · have howned : Resized.owned ((Resizing.push n).apply s.pool h) = _ :=
      Pool.push_copied hlive hcopied
    rw [if_neg (Nat.not_le.mpr hlarge)] at howned
    exact Session.step_resize_of_refused hf howned

/-- A clone with little headroom: eight bytes are pushed into a copy that is wider by 136. -/
theorem push_endToEnd_clone :
    let cs : List Command := [.make "p" (.copy 2 [1, 2, 3, 4] 0), .clone "p" "q"]
    let s := ({} : Session).run cs
    let after := s.step (.resize "q" (.push 8))
    ∃ h g, s.packets.find? "q" = some h ∧ after.1.packets.find? "q" = some g
      ∧ PushedBy 8 136 (s.pool.observe h) (after.1.pool.observe g) := by
  intro cs s after
  obtain ⟨h, hf⟩ : ∃ h, s.packets.find? "q" = some h := ⟨_, rfl⟩
  have hheadroom : (s.packets.find? "q").map (fun h => (s.pool.observe h).headroom) = some 2 := by
    decide +kernel
  have hlength : (s.packets.find? "q").map (fun h => (s.pool.observe h).bufferLength) = some 64 := by
    decide +kernel
  rw [hf, Option.map_some, Option.some_inj] at hheadroom hlength
  obtain ⟨hpushed, -⟩ := push_endToEnd cs "q" h 8 hf
  rw [hheadroom, hlength] at hpushed
  obtain ⟨g, -, hfound, -, hview, -⟩ := hpushed (.inr (by decide))
  exact ⟨h, g, hf, hfound, hview⟩

end PacketPath
