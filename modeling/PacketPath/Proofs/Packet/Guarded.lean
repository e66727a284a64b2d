import Mathlib.Data.Nat.Bitwise
import PacketPath.Proofs.Check.Guarded
import PacketPath.Proofs.Pool.Sound
import PacketPath.Session.Command

set_option autoImplicit false

/-! # Packet operations with guards

In the definitions of the packet operations positions are natural numbers: sums have no limit,
differences stop at zero, and a slice ends where the bytes end. Here the operations are executed once
more as a machine with 64-bit sizes executes them. A guard before each sum, difference and slice stops
the execution where the machine would overflow or reach outside a buffer, and another one where bytes
would be changed that are shared.

No guard ever stops an operation on a packet that the pool accounts for, whatever sizes it is asked
for (`Guarded.safe_of_sound`). The one thing that is needed besides is that buffers have less than
2^63 bytes, since offsets of headers are signed.
-/

namespace PacketPath

namespace Guarded

/-! ## Sizes -/

/-- The sum, if it is a size. -/
def plus (a b : Nat) : Option Nat := if a + b ≤ maxSize then some (a + b) else none

/-- The largest signed number. -/
def maxSigned : Nat := 9223372036854775807

/-- A position as a signed number, if it is one. -/
def signed (n : Nat) : Option Int := if n ≤ maxSigned then some n else none

/-- A difference of signed numbers, if it is one. -/
def signedMinus (a b : Int) : Option Int :=
  if -(maxSigned : Int) - 1 ≤ a - b ∧ a - b ≤ maxSigned then some (a - b) else none

/-- The position of a mark relative to the start of the data. -/
def offset (mark start : Nat) : Option Int := do
  let mark ← signed mark
  let start ← signed start
  signedMinus mark start

/-- The room that is added for `n` bytes: a sum that stops at the largest size, with its two low bits
cleared. -/
def growth (n : Nat) : Nat := saturate (n + 128) &&& (maxSize - 3)

variable {a b n : Nat}

theorem plus_eq (h : a + b ≤ maxSize) : plus a b = some (a + b) := if_pos h

theorem plus_eq_none (h : ¬ a + b ≤ maxSize) : plus a b = none := if_neg h

/-- A sum of three sizes, if it is a size. -/
theorem plus_bind_plus (a b c : Nat) :
    (plus a b).bind (plus · c) = if a + b + c ≤ maxSize then some (a + b + c) else none := by
  by_cases hab : a + b ≤ maxSize
  · rw [plus_eq hab]
    rfl
  · rw [plus_eq_none hab, if_neg (fun habc => hab (Nat.le_of_add_right_le habc))]
    rfl

theorem minus_eq (h : b ≤ a) : minus a b = some (a - b) := if_pos h

theorem offset_eq (ha : a ≤ maxSigned) (hb : b ≤ maxSigned) : offset a b = some ((a : Int) - b) := by
  have hrange : -(maxSigned : Int) - 1 ≤ (a : Int) - b ∧ (a : Int) - b ≤ maxSigned := by omega
  rw [offset, signed, signed, if_pos ha, if_pos hb]
  exact if_pos hrange

/-- Clearing the two low bits of a size rounds it down to a multiple of four. -/
theorem and_clear_low (h : n ≤ maxSize) : n &&& (maxSize - 3) = n / 4 * 4 := by
  have hmask : maxSize - 3 = (2 ^ 62 - 1) <<< 2 := by decide
  have hround : n / 4 * 4 = (n >>> 2) <<< 2 := by
    rw [Nat.shiftRight_eq_div_pow, Nat.shiftLeft_eq]
  refine Nat.eq_of_testBit_eq fun i => ?_
  rw [hmask, hround, Nat.testBit_and, Nat.testBit_shiftLeft, Nat.testBit_shiftLeft,
    Nat.testBit_two_pow_sub_one, Nat.testBit_shiftRight]
  by_cases hlow : 2 ≤ i
  · rw [Nat.add_sub_cancel' hlow, decide_eq_true hlow, Bool.true_and, Bool.true_and]
    by_cases hhigh : i < 64
    · have hin : i - 2 < 62 := by omega
      rw [decide_eq_true hin, Bool.and_true]
    · -- a size has no bits there
      have hbit : n.testBit i = false := by
        refine Nat.testBit_lt_two_pow (Nat.lt_of_lt_of_le (m := 2 ^ 64) ?_ ?_)
        · rw [maxSize] at h
          omega
        · exact Nat.pow_le_pow_right (by decide) (by omega)
      rw [hbit, Bool.false_and]
  · rw [decide_eq_false hlow, Bool.false_and, Bool.and_false, Bool.false_and]

theorem growth_eq (n : Nat) : growth n = PacketPath.growth n :=
  and_clear_low (Nat.min_le_right _ _)

-- close to the largest size the room is smaller than what it is for
example : growth maxSize < maxSize := by decide

/-! ## Reading -/

/-- The bytes of a region, if it is marked. -/
def view? (p : Pool) (h : Handle) : Region → Option (Option Bytes)
  | .data => (slice (p.bytes h.buffer) h.frame.start h.frame.stop).map some
  | .buffer => some (p.bytes h.buffer)
  | .network => header fun m => m.network
  | .transport => header fun m => m.transport
where
  /-- The bytes from a mark to the end of the data. -/
  header (mark : Marks → Nat) : Option (Option Bytes) :=
    match h.frame.marks with
    | none => some none
    | some m =>
      (slice (p.bytes h.buffer) (min (mark m) h.frame.stop) h.frame.stop).map some

/-- Where the bytes of a region stand that may be changed, if it is marked. A buffer that somebody
else has too is out of reach. -/
def boundsMut? (p : Pool) (h : Handle) : Region → Option (Option (Nat × Nat))
  | .data => reach h.frame.start h.frame.stop
  | .buffer => reach 0 (p.limit h)
  | .network => header fun m => m.network
  | .transport => header fun m => m.transport
where
  reach (first last : Nat) : Option (Option (Nat × Nat)) :=
    if p.uses h.buffer = 1 ∧ first ≤ last ∧ last ≤ p.limit h then some (some (first, last))
    else none
  /-- Without marks the buffer is not asked for. -/
  header (mark : Marks → Nat) : Option (Option (Nat × Nat)) :=
    match h.frame.marks with
    | none => some none
    | some m => reach (min (mark m) h.frame.stop) h.frame.stop

/-- The bytes of a region as ones that may be changed, if it is marked. -/
def viewMut? (p : Pool) (h : Handle) (region : Region) : Option (Option Bytes) := do
  match ← boundsMut? p h region with
  | none => return none
  | some (first, last) => (slice (p.bytes h.buffer) first last).map some

/-- What can be read about the headers of a packet, if they are marked. -/
def observeHeader (p : Pool) (h : Handle) : Option (Option HeaderView) :=
  match h.frame.marks with
  | none => some none
  | some m => do
    let networkOffset ← offset m.network h.frame.start
    let networkLength ← minus m.transport m.network
    let transportOffset ← offset m.transport h.frame.start
    let network ← view? p h .network
    let transport ← view? p h .transport
    return some ⟨networkOffset, networkLength, transportOffset, network.getD [], transport.getD []⟩

/-- What can be read through a handle. -/
def observe (p : Pool) (h : Handle) : Option PacketView := do
  let length ← minus h.frame.stop h.frame.start
  let tailroom ← minus (p.limit h) h.frame.stop
  let data ← view? p h .data
  let header ← observeHeader p h
  return {
    writable := h.writable
    headroom := h.frame.start
    length := length
    tailroom := tailroom
    bufferLength := p.limit h
    shared := p.shared h
    uses := p.uses h.buffer
    data := data.getD []
    buffer := p.bytes h.buffer
    header := header }

variable {p q : Pool} {h g : Handle} {others : List Handle}

theorem view?_eq (hf : h.frame.Fits (p.limit h)) (region : Region) :
    view? p h region = some (p.view? h region) := by
  obtain ⟨hwindow, hstop, -⟩ := hf
  have hheader : ∀ mark : Marks → Nat, view?.header p h mark
      = some (h.frame.marks.map fun m =>
          (p.bytes h.buffer).slice (min (mark m) h.frame.stop) h.frame.stop) := by
    intro mark
    rw [view?.header]
    cases h.frame.marks with
    | none => rfl
    | some m =>
        -- a mark past the end of the data is moved back to it
        simp only [slice_eq (Nat.min_le_right _ _) hstop, Option.map_some]
  cases region with
  | data =>
      rw [view?, slice_eq hwindow hstop]
      rfl
  | buffer =>
      have hall : (p.bytes h.buffer).slice 0 (p.limit h) = p.bytes h.buffer := by
        rw [Bytes.slice, Pool.limit, List.take_length, List.drop_zero]
      exact congrArg (some ∘ some) hall.symm
  | network =>
      rw [view?, hheader, Pool.view?, Frame.span?, Option.map_map]
      rfl
  | transport =>
      rw [view?, hheader, Pool.view?, Frame.span?, Option.map_map]
      rfl

/-- A region is changed between the positions between which it is read. -/
theorem boundsMut?_eq (hf : h.frame.Fits (p.limit h)) (he : p.exclusive h = true)
    (region : Region) : boundsMut? p h region = some (h.frame.span? (p.limit h) region) := by
  have hreach : ∀ first last, first ≤ last → last ≤ p.limit h →
      boundsMut?.reach p h first last = some (some (first, last)) :=
    fun first last hwindow hend => if_pos ⟨(Pool.exclusive_iff.mp he).2, hwindow, hend⟩
  have hheader : ∀ mark : Marks → Nat, boundsMut?.header p h mark
      = some (h.frame.marks.map fun m => (min (mark m) h.frame.stop, h.frame.stop)) := by
    intro mark
    rw [boundsMut?.header]
    cases h.frame.marks with
    | none => rfl
    | some m => exact hreach _ _ (Nat.min_le_right _ _) hf.2.1
  cases region with
  | data => exact hreach _ _ hf.1 hf.2.1
  | buffer => exact hreach _ _ (Nat.zero_le _) (Nat.le_refl _)
  | network => exact hheader _
  | transport => exact hheader _

theorem viewMut?_eq (hf : h.frame.Fits (p.limit h)) (he : p.exclusive h = true) (region : Region) :
    viewMut? p h region = some (p.view? h region) := by
  rw [viewMut?, boundsMut?_eq hf he, Option.bind_eq_bind, Option.bind_some, Pool.view?]
  cases hspan : h.frame.span? (p.limit h) region with
  | none => rfl
  | some span =>
      obtain ⟨hwindow, hend⟩ := hf.span hspan
      simp only [slice_eq hwindow hend, Option.map_some]

theorem observeHeader_eq (hf : h.frame.Fits (p.limit h)) (hl : p.limit h ≤ maxSigned) :
    observeHeader p h = some (p.observeHeader h) := by
  have hview := view?_eq hf
  obtain ⟨hwindow, hstop, hmarks⟩ := hf
  rw [observeHeader]
  cases hm : h.frame.marks with
  | none => simp only [Pool.observeHeader, Frame.networkOffset, hm]; rfl
  | some m =>
      obtain ⟨horder, hin⟩ := hmarks m hm
      have hnetwork := offset_eq (a := m.network) (b := h.frame.start) (by omega) (by omega)
      have htransport := offset_eq (a := m.transport) (b := h.frame.start) (by omega) (by omega)
      simp only [hnetwork, htransport, minus_eq horder, hview, Option.bind_eq_bind, Option.bind_some]
      simp only [Pool.observeHeader, Frame.networkOffset, Frame.networkLength,
        Frame.transportOffset, Pool.view?, Frame.span?, hm]
      rfl

theorem observe_eq (hf : h.frame.Fits (p.limit h)) (hl : p.limit h ≤ maxSigned) :
    observe p h = some (p.observe h) := by
  simp only [observe, minus_eq hf.1, minus_eq hf.2.1, view?_eq hf, observeHeader_eq hf hl,
    Option.bind_eq_bind, Option.bind_some]
  rfl

/-! ## Windows and marks -/

def adjust (f : Frame) (limit : Nat) : Adjustment → Option (Except Reply Frame)
  | .pull n => do
    let length ← minus f.stop f.start
    if length < n then return .error (.adjustFailed (.startPastEnd n length))
    else
      let start ← plus f.start n
      return .ok { f with start := start }
  | .take n => do
    let length ← minus f.stop f.start
    if length < n then return .error (.adjustFailed (.endBeforeStart n length))
    else
      let stop ← minus f.stop n
      return .ok { f with stop := stop }
  | .reposition headroom length =>
    let refused := .error (.adjustFailed (.endPastLimit (saturate (headroom + length)) limit))
    -- a sum that is no size is refused like one that is too large
    match plus headroom length with
    | some stop =>
      if stop ≤ limit then some (.ok { f with start := headroom, stop := stop }) else some refused
    | none => some refused
  | .markHeader offset length => do
    let size ← minus f.stop f.start
    let refused := .error (.markFailed (.outOfRange offset length size))
    match plus offset length with
    | some stop =>
      if stop ≤ size then
        let network ← plus f.start offset
        let transport ← plus network length
        return .ok { f with marks := some ⟨network, transport⟩ }
      else return refused
    | none => return refused
  | .clearMarks => some (.ok f.clearMarks)

theorem adjust_eq {f : Frame} {limit : Nat} (hf : f.Fits limit) (hl : limit ≤ maxSize)
    (how : Adjustment) : adjust f limit how = some (how.apply f limit) := by
  obtain ⟨hwindow, hstop, -⟩ := hf
  have hlength : f.length = f.stop - f.start := rfl
  have hminus : minus f.stop f.start = some f.length := minus_eq hwindow
  cases how with
  | pull n =>
      simp only [adjust, hminus, Option.bind_eq_bind, Option.bind_some, Adjustment.apply, Frame.pull]
      by_cases hn : f.length < n
      · rw [if_pos hn, if_neg (Nat.not_le.mpr hn)]
        rfl
      · rw [if_neg hn, if_pos (Nat.le_of_not_lt hn), plus_eq (by omega)]
        rfl
  | take n =>
      simp only [adjust, hminus, Option.bind_eq_bind, Option.bind_some, Adjustment.apply, Frame.take]
      by_cases hn : f.length < n
      · rw [if_pos hn, if_neg (Nat.not_le.mpr hn)]
        rfl
      · rw [if_neg hn, if_pos (Nat.le_of_not_lt hn), minus_eq (by omega)]
        rfl
  | reposition headroom length =>
      simp only [adjust, Adjustment.apply, Frame.reposition]
      by_cases hsum : headroom + length ≤ maxSize
      · rw [plus_eq hsum]
        by_cases hfit : headroom + length ≤ limit
        · simp only [if_pos hfit]
          rfl
        · simp only [if_neg hfit]
          rfl
      · rw [plus_eq_none hsum, if_neg (by omega)]
        rfl
  | markHeader offset length =>
      simp only [adjust, hminus, Option.bind_eq_bind, Option.bind_some, Adjustment.apply,
        Frame.markHeader]
      by_cases hsum : offset + length ≤ maxSize
      · rw [plus_eq hsum]
        by_cases hfit : offset + length ≤ f.length
        · -- the marks lie inside the data
          have hnetwork := plus_eq (show f.start + offset ≤ maxSize by omega)
          have htransport := plus_eq (show f.start + offset + length ≤ maxSize by omega)
          simp only [if_pos hfit, hnetwork, htransport, Option.bind_some]
          rfl
        · simp only [if_neg hfit]
          rfl
      · rw [plus_eq_none hsum, if_neg (by omega)]
        rfl
  | clearMarks => rfl

/-! ## Resizing -/

/-- What becomes of a packet that is resized; only an allocation can fail. -/
abbrev Resized := Pool × Except AllocError Handle

/-- The same without the promise that nothing else fails. -/
def Resized.plain (r : Resized) : PacketPath.Resized := (r.1, r.2.mapError .alloc)

/-- Replaces the bytes between two positions by as many others. -/
def copyInto (b : Bytes) (first last : Nat) (patch : Bytes) : Option Bytes :=
  if first ≤ last ∧ last ≤ b.length ∧ patch.length = last - first then some (b.overlay first patch)
  else none

def shift (f : Frame) (n : Nat) : Option Frame := do
  let start ← plus f.start n
  let stop ← plus f.stop n
  match f.marks with
  | none => return ⟨start, stop, none⟩
  | some m =>
    let network ← plus m.network n
    let transport ← plus m.transport n
    return ⟨start, stop, some ⟨network, transport⟩⟩

def relocate (p : Pool) (h : Handle) (front back : Nat) : Option Resized :=
  let old := p.bytes h.buffer
  match (plus front old.length).bind (plus · back) with
  | none => some (p.release h.buffer, .error (.tooLarge maxSize))
  | some size =>
    if maxBuffer < size then some (p.release h.buffer, .error (.tooLarge size))
    else do
      let stop ← plus front old.length
      let bytes ← copyInto (Bytes.zeros size) front stop old
      let frame ← shift h.frame front
      let (p, id) := p.add bytes .heap
      return (p.release h.buffer,
        .ok { h with buffer := id, frame := frame, cloned := false, writable := true })

/-- Adds `n` bytes before the data of a resized packet. -/
def expandFront (n : Nat) : Resized → Option Resized
  | (p, .error e) => some (p, .error e)
  | (p, .ok h) => do
    let start ← minus h.frame.start n
    return (p, .ok { h with frame.start := start })

/-- Adds `n` bytes behind the data of a resized packet. -/
def expandBack (n : Nat) : Resized → Option Resized
  | (p, .error e) => some (p, .error e)
  | (p, .ok h) => do
    let stop ← plus h.frame.stop n
    return (p, .ok { h with frame.stop := stop })

def uniqueify (p : Pool) (h : Handle) : Option Resized :=
  if p.exclusive h then some (p, .ok { h with writable := true }) else relocate p h 0 0

/-- Puts room for `n` bytes before the data of a copy. -/
def expensivePush (p : Pool) (h : Handle) (n : Nat) : Option Resized := do
  let extra := if n ≤ h.frame.start then 0 else growth n
  let moved ← relocate p h extra 0
  expandFront n moved

def push (p : Pool) (h : Handle) (n : Nat) : Option Resized :=
  if n ≤ h.frame.start ∧ p.exclusive h then expandFront n (p, .ok { h with writable := true })
  else expensivePush p h n

/-- Puts room for `n` bytes behind the data of a copy. -/
def expensivePut (p : Pool) (h : Handle) (n : Nat) : Option Resized := do
  let tailroom ← minus (p.limit h) h.frame.stop
  let extra := if n ≤ tailroom then 0 else growth n
  let moved ← relocate p h 0 extra
  expandBack n moved

def put (p : Pool) (h : Handle) (n : Nat) : Option Resized := do
  let tailroom ← minus (p.limit h) h.frame.stop
  if n ≤ tailroom ∧ p.exclusive h then expandBack n (p, .ok { h with writable := true })
  else expensivePut p h n

/-- Gives up the right to write. -/
def demote (r : Resized) : Resized := (r.1, r.2.map Handle.toShared)

def pushShared (p : Pool) (h : Handle) (n : Nat) : Option Resized :=
  (if n ≤ h.frame.start then expandFront n (p, .ok h) else expensivePush p h n).map demote

def putShared (p : Pool) (h : Handle) (n : Nat) : Option Resized := do
  let tailroom ← minus (p.limit h) h.frame.stop
  (if n ≤ tailroom then expandBack n (p, .ok h) else expensivePut p h n).map demote

theorem shift_eq {f : Frame} {limit n : Nat} (hf : f.Fits limit) (hn : limit + n ≤ maxSize) :
    shift f n = some (f.shift n) := by
  obtain ⟨hwindow, hstop, hmarks⟩ := hf
  rw [shift, plus_eq (by omega), plus_eq (by omega), Frame.shift]
  cases hm : f.marks with
  | none => rfl
  | some m =>
      -- a mark may lie behind the data, but not behind the buffer
      obtain ⟨horder, hin⟩ := hmarks m hm
      simp only [plus_eq (show m.network + n ≤ maxSize by omega),
        plus_eq (show m.transport + n ≤ maxSize by omega), Option.bind_eq_bind, Option.bind_some]
      rfl

/-- A packet after its move to a copy of its buffer, and the pool after it. -/
def copied (p : Pool) (h : Handle) (front back : Nat) : Pool × Handle :=
  let (q, id) := p.add (Bytes.zeros front ++ p.bytes h.buffer ++ Bytes.zeros back) .heap
  (q.release h.buffer,
    { h with buffer := id, frame := h.frame.shift front, cloned := false, writable := true })

theorem limit_copied (hs : p.Sound (h :: others)) (front back : Nat) :
    (copied p h front back).1.limit (copied p h front back).2 = front + p.limit h + back := by
  have hne : h.buffer ≠ p.next := Nat.ne_of_lt (hs.buffer_lt_next List.mem_cons_self)
  have hnew : (copied p h front back).1.bytes p.next
      = Bytes.zeros front ++ p.bytes h.buffer ++ Bytes.zeros back := by
    show ((p.add _ .heap).1.release h.buffer).bytes p.next = _
    rw [Pool.bytes_release_of_ne hne, Pool.bytes_add, if_pos rfl]
  show ((copied p h front back).1.bytes p.next).length = _
  rw [hnew, List.length_append, List.length_append, Bytes.length_zeros, Bytes.length_zeros]
  rfl

theorem relocate_of_le (hf : h.frame.Fits (p.limit h)) {front back : Nat}
    (hle : front + p.limit h + back ≤ maxBuffer) :
    relocate p h front back = some ((copied p h front back).1, .ok (copied p h front back).2)
      ∧ p.relocate h front back = ((copied p h front back).1, .ok (copied p h front back).2) := by
  have hlen : (p.bytes h.buffer).length = p.limit h := rfl
  have hsmall : maxBuffer ≤ maxSize := by decide
  have hfront := plus_eq (show front + p.limit h ≤ maxSize by omega)
  have hback := plus_eq (show front + p.limit h + back ≤ maxSize by omega)
  have hcopy : copyInto (Bytes.zeros (front + p.limit h + back)) front (front + p.limit h)
        (p.bytes h.buffer)
      = some (Bytes.zeros front ++ p.bytes h.buffer ++ Bytes.zeros back) := by
    rw [copyInto, if_pos (by rw [Bytes.length_zeros, hlen]; omega),
      Bytes.overlay_zeros (by rw [hlen]; omega), hlen, Nat.add_sub_cancel_left]
  have hshift := shift_eq hf (n := front) (by omega)
  constructor
  · simp only [relocate, hlen, hfront, Option.bind_some, hback, if_neg (Nat.not_lt.mpr hle), hcopy,
      hshift, Option.bind_eq_bind]
    rfl
  · simp only [Pool.relocate, hlen, Environment.standard_room_zero, allocationSize_three, if_pos hle]
    rfl

theorem relocate_of_gt {front back : Nat} (hgt : maxBuffer < front + p.limit h + back) :
    ∃ e, relocate p h front back = some (p.release h.buffer, .error e)
      ∧ p.relocate h front back = (p.release h.buffer, .error (.alloc e)) := by
  have hlen : (p.bytes h.buffer).length = p.limit h := rfl
  refine ⟨.tooLarge (saturate (front + p.limit h + back)), ?_, ?_⟩
  · -- a sum that is no size is reported as the largest one
    simp only [relocate, hlen, plus_bind_plus, saturate]
    by_cases hsize : front + p.limit h + back ≤ maxSize
    · simp only [if_pos hsize, if_pos hgt, Nat.min_eq_left hsize]
    · simp only [if_neg hsize, Nat.min_eq_right (Nat.le_of_not_le hsize)]
  · simp only [Pool.relocate, hlen, Environment.standard_room_zero, allocationSize_three,
      if_neg (Nat.not_le.mpr hgt)]

/-- A guarded operation runs to its end, with the result of the unguarded one. -/
def Agrees (guarded : Option Resized) (r : PacketPath.Resized) : Prop :=
  guarded.map Resized.plain = some r

variable {o : Option Resized} {r : PacketPath.Resized}

theorem Agrees.demote (ho : Agrees o r) : Agrees (o.map Guarded.demote) (Pool.demote r) := by
  obtain ⟨⟨q, e | g⟩, rfl, rfl⟩ := Option.map_eq_some_iff.mp ho
  · rfl
  · rfl

theorem expandFront_agrees (hroom : n ≤ g.frame.start) :
    Agrees (expandFront n (q, .ok g)) (Pool.expandFront n (q, .ok g)) := by
  simp only [Agrees, expandFront, minus_eq hroom, Option.bind_eq_bind, Option.bind_some,
    Pool.expandFront, Pool.reframe, Frame.expandFront?, if_pos hroom]
  rfl

theorem expandBack_agrees (hroom : g.frame.stop + n ≤ q.limit g) (hl : q.limit g ≤ maxSize) :
    Agrees (expandBack n (q, .ok g)) (Pool.expandBack n (q, .ok g)) := by
  have hplus := plus_eq (Nat.le_trans hroom hl)
  simp only [Agrees, expandBack, hplus, Option.bind_eq_bind, Option.bind_some,
    Pool.expandBack, Pool.reframe, Frame.expandBack?, if_pos hroom]
  rfl

/-- A copy is made by both in the same cases. What is done to it after that has to agree only on
copies of permitted size, and on failures. -/
theorem relocate_agrees {next : Resized → Option Resized}
    {next' : PacketPath.Resized → PacketPath.Resized} {front back : Nat}
    (hf : h.frame.Fits (p.limit h))
    (herror : ∀ q e, Agrees (next (q, .error e)) (next' (q, .error (.alloc e))))
    (hok : front + p.limit h + back ≤ maxBuffer →
      Agrees (next ((copied p h front back).1, .ok (copied p h front back).2))
        (next' ((copied p h front back).1, .ok (copied p h front back).2))) :
    Agrees ((relocate p h front back).bind next) (next' (p.relocate h front back)) := by
  by_cases hle : front + p.limit h + back ≤ maxBuffer
  · obtain ⟨hguarded, hplain⟩ := relocate_of_le hf hle
    rw [hguarded, hplain]
    exact hok hle
  · obtain ⟨e, hguarded, hplain⟩ := relocate_of_gt (Nat.lt_of_not_le hle)
    rw [hguarded, hplain]
    exact herror _ e

theorem uniqueify_agrees (hf : h.frame.Fits (p.limit h)) :
    Agrees (uniqueify p h) (p.uniqueify h) := by
  unfold uniqueify Pool.uniqueify
  split
  · rfl
  · have hmoved : Agrees ((relocate p h 0 0).bind some) (id (p.relocate h 0 0)) :=
      relocate_agrees hf (fun _ _ => rfl) fun _ => rfl
    rwa [Option.bind_fun_some] at hmoved

/-- Where a copy can be made, its growth makes up for the room that was missing. -/
theorem expensivePush_agrees (hf : h.frame.Fits (p.limit h)) (n : Nat) :
    Agrees (expensivePush p h n) (Pool.expandFront n
      (p.relocate h (if n ≤ h.frame.start then 0 else PacketPath.growth n) 0)) := by
  rw [expensivePush, growth_eq]
  generalize hextra : (if n ≤ h.frame.start then 0 else PacketPath.growth n) = extra
  refine relocate_agrees hf (fun _ _ => rfl) fun hle => expandFront_agrees ?_
  show n ≤ h.frame.start + extra
  split at hextra
  · omega
  · -- the growth could be smaller than `n`, but not if it was allocated
    have hgrown := le_growth (n := n) (by omega)
    omega

theorem expensivePut_agrees (hs : p.Sound (h :: others)) (n : Nat) :
    Agrees (expensivePut p h n) (Pool.expandBack n
      (p.relocate h 0 (if n ≤ p.tailroom h then 0 else PacketPath.growth n))) := by
  have hf := hs.fits h List.mem_cons_self
  have hstop := hf.2.1
  have htail : minus (p.limit h) h.frame.stop = some (p.tailroom h) := minus_eq hstop
  simp only [expensivePut, htail, growth_eq, Option.bind_eq_bind, Option.bind_some]
  generalize hextra : (if n ≤ p.tailroom h then 0 else PacketPath.growth n) = extra
  refine relocate_agrees hf (fun _ _ => rfl) fun hle => ?_
  have hsmall : maxBuffer ≤ maxSize := by decide
  refine expandBack_agrees ?_ ?_
  · rw [limit_copied hs]
    show h.frame.stop + 0 + n ≤ _
    split at hextra
    · next hn =>
      rw [Pool.tailroom] at hn
      omega
    · have hgrown := le_growth (n := n) (by omega)
      omega
  · rw [limit_copied hs]
    omega

theorem push_agrees (hf : h.frame.Fits (p.limit h)) (n : Nat) :
    Agrees (push p h n) (p.push h n) := by
  have hexpensive := expensivePush_agrees hf n
  unfold push Pool.push
  by_cases hn : n ≤ h.frame.start
  · rw [if_pos hn] at hexpensive
    rw [if_pos hn, Pool.uniqueify]
    cases he : p.exclusive h with
    | true =>
        rw [if_pos ⟨hn, rfl⟩, if_pos rfl]
        exact expandFront_agrees hn
    | false =>
        rw [if_neg (by simp), if_neg (by simp)]
        exact hexpensive
  · rw [if_neg hn] at hexpensive
    rw [if_neg (fun hboth => hn hboth.1), if_neg hn]
    exact hexpensive

theorem put_agrees (hs : p.Sound (h :: others)) (hl : p.limit h ≤ maxSize) (n : Nat) :
    Agrees (put p h n) (p.put h n) := by
  have hexpensive := expensivePut_agrees hs n
  have hstop := (hs.fits h List.mem_cons_self).2.1
  have htail : minus (p.limit h) h.frame.stop = some (p.tailroom h) := minus_eq hstop
  simp only [put, htail, Option.bind_eq_bind, Option.bind_some, Pool.put]
  by_cases hn : n ≤ p.tailroom h
  · have hroom : h.frame.stop + n ≤ p.limit h := by
      rw [Pool.tailroom] at hn
      omega
    rw [if_pos hn] at hexpensive
    rw [if_pos hn, Pool.uniqueify]
    cases he : p.exclusive h with
    | true =>
        rw [if_pos ⟨hn, rfl⟩, if_pos rfl]
        exact expandBack_agrees hroom hl
    | false =>
        rw [if_neg (by simp), if_neg (by simp)]
        exact hexpensive
  · rw [if_neg hn] at hexpensive
    rw [if_neg (fun hboth => hn hboth.1), if_neg hn]
    exact hexpensive

theorem pushShared_agrees (hf : h.frame.Fits (p.limit h)) (n : Nat) :
    Agrees (pushShared p h n) (p.pushShared h n) := by
  have hexpensive := expensivePush_agrees hf n
  unfold pushShared Pool.pushShared
  refine Agrees.demote ?_
  by_cases hn : n ≤ h.frame.start
  · rw [if_pos hn, if_pos hn]
    exact expandFront_agrees hn
  · rw [if_neg hn] at hexpensive
    rw [if_neg hn, if_neg hn, Pool.push, if_neg hn]
    exact hexpensive

theorem putShared_agrees (hs : p.Sound (h :: others)) (hl : p.limit h ≤ maxSize) (n : Nat) :
    Agrees (putShared p h n) (p.putShared h n) := by
  have hexpensive := expensivePut_agrees hs n
  have hstop := (hs.fits h List.mem_cons_self).2.1
  have htail : minus (p.limit h) h.frame.stop = some (p.tailroom h) := minus_eq hstop
  simp only [putShared, htail, Option.bind_eq_bind, Option.bind_some, Pool.putShared]
  refine Agrees.demote ?_
  by_cases hn : n ≤ p.tailroom h
  · have hroom : h.frame.stop + n ≤ p.limit h := by
      rw [Pool.tailroom] at hn
      omega
    rw [if_pos hn, if_pos hn]
    exact expandBack_agrees hroom hl
  · rw [if_neg hn] at hexpensive
    rw [if_neg hn, if_neg hn, Pool.put, if_neg hn]
    exact hexpensive

/-! ## Everything at once -/

/-- No guard stops an operation on a packet. -/
structure Safe (p : Pool) (h : Handle) : Prop where
  /-- The accessors of the window and of the marks, and all views that are read. -/
  observed : observe p h = some (p.observe h)
  /-- The views through which a writable packet is changed. -/
  changeable : h.writable = true → ∀ region, viewMut? p h region = some (p.view? h region)
  /-- The moves of the window and the marking of headers, whether refused or not. -/
  adjusted : ∀ how, adjust h.frame (p.limit h) how = some (how.apply h.frame (p.limit h))
  /-- The operations that make a packet writable or give it room. -/
  uniqueified : Agrees (uniqueify p h) (p.uniqueify h)
  pushed : ∀ n, Agrees (push p h n) (p.push h n)
  extended : ∀ n, Agrees (put p h n) (p.put h n)
  pushedShared : ∀ n, Agrees (pushShared p h n) (p.pushShared h n)
  extendedShared : ∀ n, Agrees (putShared p h n) (p.putShared h n)

/-- **No guard stops an operation** on a packet that a pool accounts for, in a buffer of less than
2^63 bytes. -/
theorem safe_of_sound (hs : p.Sound (h :: others)) (hl : p.limit h ≤ maxSigned) : Safe p h := by
  have hf := hs.fits h List.mem_cons_self
  have hsize : p.limit h ≤ maxSize := Nat.le_trans hl (by decide)
  have hex := hs.exclusive h List.mem_cons_self
  exact {
    observed := observe_eq hf hl
    changeable := fun hw region => viewMut?_eq hf (hex hw) region
    adjusted := adjust_eq hf hsize
    uniqueified := uniqueify_agrees hf
    pushed := push_agrees hf
    extended := put_agrees hs hsize
    pushedShared := pushShared_agrees hf
    extendedShared := putShared_agrees hs hsize }

end Guarded

end PacketPath
