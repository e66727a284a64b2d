import PacketPath.Proofs.Session.Putting

set_option autoImplicit false

/-! # The two sides of a packet

Room is made before the data or behind it, by operations that are each other's mirror image. Here a
side is a parameter, and what both have in common is told once: what a packet becomes
(`Owned.grown`), when it becomes that (`Owned.grow?`), and that only the room that was asked for
shows in its data and headers, not how much wider its buffer has become.
-/

namespace PacketPath

/-- Where there can be room around the data. -/
inductive Side
  | front
  | back
deriving DecidableEq

namespace Side

/-- Takes room for `n` bytes into the data, and makes the packet writable. -/
def grow : Side → Nat → Resizing
  | front, n => .push n
  | back, n => .put n

/-- Takes room for `n` bytes into the data, and leaves the packet where it is if the room is
there. -/
def growShared : Side → Nat → Resizing
  | front, n => .pushShared n
  | back, n => .putShared n

/-- Removes `n` bytes from the data. -/
def shrink : Side → Nat → Adjustment
  | front, n => .pull n
  | back, n => .take n

/-- The room that a packet has. -/
def room : Side → PacketView → Nat
  | front, v => v.headroom
  | back, v => v.tailroom

theorem owns_grow (side : Side) (n : Nat) : (side.grow n).owns = true := by cases side <;> rfl

end Side

namespace Owned

variable {o o' : Owned} {side : Side} {extra extra' n a b : Nat}

/-- The packet with `n` bytes taken into its data, in a buffer that is wider by `extra` bytes on
the same side. -/
def grown (o : Owned) (side : Side) (extra n : Nat) : Owned :=
  match side with
  | .front => o.pushed extra n
  | .back => o.extended extra n

/-! ## Growing and shrinking -/

@[simp] theorem grown_zero (o : Owned) (side : Side) :
    o.grown side 0 0 = o.setWritable true := by
  cases side with
  | front => simp only [grown, pushed, widened_zero, openFront, Nat.sub_zero]
  | back => simp only [grown, extended, Bytes.zeros, List.replicate_zero, List.append_nil,
      Nat.add_zero, setWritable]

theorem setWritable_grown (o : Owned) (writable : Bool) :
    (o.setWritable writable).grown side extra n = o.grown side extra n := by
  cases side <;> rfl

theorem annotations_grown : (o.grown side extra n).annotations = o.annotations := by
  cases side <;> rfl

theorem length_grown : (o.grown side extra n).bytes.length = o.bytes.length + extra := by
  cases side with
  | front =>
      simp only [grown, pushed, setWritable, openFront, widened, List.length_append,
        Bytes.length_zeros]
      omega
  | back => simp only [grown, extended, List.length_append, Bytes.length_zeros]

theorem room_grown (hf : o.frame.Fits o.bytes.length) (hn : n ≤ side.room o.view + extra) :
    side.room (o.grown side extra n).view + n = side.room o.view + extra := by
  cases side with
  | front =>
      show o.frame.start + extra - n + n = o.frame.start + extra
      exact Nat.sub_add_cancel hn
  | back =>
      have hlength : (o.grown .back extra n).bytes.length = o.bytes.length + extra := length_grown
      have hstop := hf.2.1
      replace hn : n ≤ o.bytes.length - o.frame.stop + extra := hn
      show (o.grown .back extra n).bytes.length - (o.frame.stop + n) + n
        = o.bytes.length - o.frame.stop + extra
      omega

/-- **Growing twice is growing once**, by the sum of both. -/
theorem grown_grown (ha : a ≤ side.room o.view + extra) :
    (o.grown side extra a).grown side extra' b = o.grown side (extra + extra') (a + b) := by
  cases side with
  | front =>
      replace ha : a ≤ o.frame.start + extra := ha
      -- what is left over of the first growth is used by the second, and is not cut off at zero
      have hstart : o.frame.start + extra - a + extra' - b
          = o.frame.start + (extra + extra') - (a + b) := by omega
      have hmarks : ∀ m : Option Marks,
          (m.map fun m => (⟨m.network + extra, m.transport + extra⟩ : Marks)).map
              (fun m => (⟨m.network + extra', m.transport + extra'⟩ : Marks))
            = m.map fun m => ⟨m.network + (extra + extra'), m.transport + (extra + extra')⟩ := by
        intro m
        cases m with
        | none => rfl
        | some m => simp only [Option.map_some, Nat.add_assoc]
      simp only [grown, pushed, setWritable, openFront, widened, Frame.shift, hstart, hmarks,
        Bytes.zeros, List.replicate_zero, List.append_nil, ← List.append_assoc,
        List.replicate_append_replicate, Nat.add_comm extra' extra, Nat.add_assoc]
  | back =>
      simp only [grown, extended, Bytes.zeros, List.append_assoc, List.replicate_append_replicate,
        Nat.add_assoc]

/-- What was taken into the data is removed again. -/
theorem adjust_grown (hf : o.frame.Fits o.bytes.length) (hn : n ≤ side.room o.view + extra) :
    (o.grown side extra n).adjust (side.shrink n) = .ok (o.grown side extra 0) := by
  have hwindow := hf.1
  cases side with
  | front =>
      replace hn : n ≤ o.frame.start + extra := hn
      have hlength : n ≤ o.frame.stop + extra - (o.frame.start + extra - n) := by omega
      have hstart : o.frame.start + extra - n + n = o.frame.start + extra := by omega
      simp only [grown, pushed, setWritable, openFront, widened, Frame.shift, adjust, Side.shrink,
        Adjustment.apply, Frame.pull, Frame.length, if_pos hlength, hstart, Nat.sub_zero]
      rfl
  | back =>
      have hlength : n ≤ o.frame.stop + n - o.frame.start := by omega
      simp only [grown, extended, adjust, Side.shrink, Adjustment.apply, Frame.take, Frame.length,
        if_pos hlength, Nat.add_sub_cancel, Nat.add_zero]
      rfl

/-- Only the bytes that were taken into the data show in it and in the headers. -/
theorem grown_congr (hf : o.frame.Fits o.bytes.length) (hn : n ≤ side.room o.view + extra)
    (hn' : n ≤ side.room o.view + extra') :
    (o.grown side extra n).data = (o.grown side extra' n).data
      ∧ (o.grown side extra n).header = (o.grown side extra' n).header := by
  cases side with
  | front => exact ⟨(data_pushed hf hn).trans (data_pushed hf hn').symm,
      (header_pushed hf hn).trans (header_pushed hf hn').symm⟩
  | back =>
      have hstop := hf.2.1
      have hend : ∀ extra, n ≤ o.bytes.length - o.frame.stop + extra →
          o.frame.stop + n ≤ o.bytes.length + extra := fun _ _ => by omega
      have hbytes : ∀ first, (o.bytes ++ Bytes.zeros extra).slice first (o.frame.stop + n)
          = (o.bytes ++ Bytes.zeros extra').slice first (o.frame.stop + n) := fun _ =>
        Bytes.slice_append_zeros_congr (hend _ hn) (hend _ hn')
      refine ⟨hbytes _, ?_⟩
      simp only [grown, header_extended, hbytes]

/-! ## Asking for room -/

/-- What asking for room gives. A packet that is not alone on its buffer needs another one, and so
does one that has too little room; that succeeds if its size is permitted. -/
def grow? (o : Owned) (side : Side) (alone : Bool) (n : Nat) : Option Owned :=
  let extra := Pool.pushGrowth (side.room o.view) n
  if (alone = true ∧ n ≤ side.room o.view) ∨ o.bytes.length + extra ≤ maxBuffer then
    some (o.grown side extra n)
  else none

/-- The room that was asked for is there, and it was made only if it was not there before. -/
theorem grow?_eq_some {alone : Bool} (ho : o.grow? side alone n = some o') :
    ∃ extra, n ≤ side.room o.view + extra ∧ (n ≤ side.room o.view → extra = 0)
      ∧ o' = o.grown side extra n := by
  unfold grow? at ho
  simp only at ho
  split at ho
  · next hroom =>
    have hgrowth := Pool.le_start_add_pushGrowth
      (hroom.imp And.right fun hle => Nat.le_of_add_left_le hle)
    exact ⟨_, hgrowth, fun hn => if_pos hn, (Option.some.inj ho).symm⟩
  · cases ho

/-- A packet that is first given a buffer of its own can be given room exactly as before. -/
theorem grow?_zero_bind (o : Owned) (side : Side) (alone : Bool) (n : Nat) :
    ((o.grow? side alone 0).bind fun o => o.grow? side true n) = o.grow? side alone n := by
  have hzero : Pool.pushGrowth (side.room o.view) 0 = 0 := if_pos (Nat.zero_le _)
  have hview : side.room (o.setWritable true).view = side.room o.view := by cases side <;> rfl
  have hlength : (o.setWritable true).bytes.length = o.bytes.length := rfl
  unfold grow?
  simp only [hzero, Nat.add_zero, Nat.zero_le, and_true, grown_zero]
  by_cases hfirst : alone = true ∨ o.bytes.length ≤ maxBuffer
  · rw [if_pos hfirst]
    simp only [Option.bind_some, hview, hlength, setWritable_grown, true_and]
    by_cases hn : n ≤ side.room o.view
    · -- no more room is needed, so that only the first step may have been a copy
      have hextra : Pool.pushGrowth (side.room o.view) n = 0 := if_pos hn
      rw [if_pos (.inl hn), if_pos]
      rwa [hextra, Nat.add_zero, and_iff_left hn]
    · simp only [hn, and_false, false_or]
  · rw [if_neg hfirst, Option.bind_none, if_neg]
    rintro (⟨halone, -⟩ | hle)
    · exact hfirst (.inl halone)
    · exact hfirst (.inr (Nat.le_of_add_right_le hle))

/-- Two steps may leave more room over than one, but give it to the same bytes. -/
theorem grow?_add {alone : Bool} {o₁ o₂ o₃ : Owned} (hf : o.frame.Fits o.bytes.length)
    (ha : o.grow? side alone a = some o₁) (hb : o₁.grow? side true b = some o₂)
    (hab : o.grow? side alone (a + b) = some o₃) :
    o₂.data = o₃.data ∧ o₂.header = o₃.header ∧ o₂.annotations = o₃.annotations := by
  obtain ⟨extra, hfirst, -, rfl⟩ := grow?_eq_some ha
  obtain ⟨extra', hsecond, -, rfl⟩ := grow?_eq_some hb
  obtain ⟨extra'', honce, -, rfl⟩ := grow?_eq_some hab
  have hroom := room_grown hf hfirst
  have htwice : a + b ≤ side.room o.view + (extra + extra') := by omega
  obtain ⟨hdata, hheader⟩ := grown_congr hf htwice honce
  rw [grown_grown hfirst]
  exact ⟨hdata, hheader, annotations_grown.trans annotations_grown.symm⟩

/-- Without the room that was taken into the data, the packet is what it was, but for room that had
to be made. -/
theorem shrink_grow? {alone : Bool} (hf : o.frame.Fits o.bytes.length)
    (ho : o.grow? side alone n = some o') :
    ∃ o'', o'.adjust (side.shrink n) = .ok o'' ∧ o''.data = o.data ∧ o''.header = o.header
      ∧ o''.annotations = o.annotations
      ∧ (n ≤ side.room o.view → o'' = o.setWritable true) := by
  obtain ⟨extra, hn, hextra, rfl⟩ := grow?_eq_some ho
  have hnone : ∀ extra, 0 ≤ side.room o.view + extra := fun _ => Nat.zero_le _
  obtain ⟨hdata, hheader⟩ := grown_congr hf (hnone extra) (hnone 0)
  rw [grown_zero] at hdata hheader
  refine ⟨_, adjust_grown hf hn, hdata, hheader, annotations_grown, fun hroom => ?_⟩
  rw [hextra hroom, grown_zero]

end Owned

end PacketPath
