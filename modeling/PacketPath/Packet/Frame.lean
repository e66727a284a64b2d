import PacketPath.Packet.Size

set_option autoImplicit false

/-! # Data windows and header marks

A frame is what one handle knows about its buffer: the window of bytes that is the packet data, and
the marks of the headers. All are positions in the buffer, so that marks stay on the same bytes when
the window moves, and may come to lie before it or behind it.

    0               start              stop          limit
    |   headroom      |      length      |   tailroom  |

Moving the window or the marks writes no byte. An attempt that would leave the buffer, or mark a
header outside the data, fails and changes nothing.
-/

namespace PacketPath

/-- Where the network header and the transport header start. -/
structure Marks where
  network : Nat
  transport : Nat
deriving DecidableEq

/-- A data window with header marks. -/
structure Frame where
  start : Nat
  stop : Nat
  marks : Option Marks := none
deriving DecidableEq

/-- The parts of a buffer that can be viewed through a frame. -/
inductive Region
  | data
  | buffer
  | network
  | transport
deriving DecidableEq

/-- Why a data window cannot be moved. -/
inductive AdjustError
  | startPastEnd (requested length : Nat)
  | endBeforeStart (requested length : Nat)
  | endPastLimit (requested limit : Nat)
deriving DecidableEq

def AdjustError.message : AdjustError → String
  | .startPastEnd requested length => "pull " ++ requested.repr ++ " > length " ++ length.repr
  | .endBeforeStart requested length => "take " ++ requested.repr ++ " > length " ++ length.repr
  | .endPastLimit requested limit =>
    requested.repr ++ " bytes exceeds buffer length " ++ limit.repr

/-- Why a header cannot be marked. -/
inductive MarkError
  | outOfRange (offset length packetLength : Nat)
deriving DecidableEq

def MarkError.message : MarkError → String
  | .outOfRange offset length packetLength =>
    "header at " ++ offset.repr ++ " of " ++ length.repr ++ " bytes outside packet of "
      ++ packetLength.repr ++ " bytes"

namespace Frame

def length (f : Frame) : Nat := f.stop - f.start

/-- Whether the frame fits a buffer of `limit` bytes. -/
def Fits (f : Frame) (limit : Nat) : Prop :=
  f.start ≤ f.stop ∧ f.stop ≤ limit
    ∧ ∀ m ∈ f.marks, m.network ≤ m.transport ∧ m.transport ≤ limit

/-! ## Moving the window -/

/-- Removes `n` bytes from the front of the data. -/
def pull (f : Frame) (n : Nat) : Except AdjustError Frame :=
  if n ≤ f.length then .ok { f with start := f.start + n }
  else .error (.startPastEnd n f.length)

/-- Removes `n` bytes from the end of the data. -/
def take (f : Frame) (n : Nat) : Except AdjustError Frame :=
  if n ≤ f.length then .ok { f with stop := f.stop - n }
  else .error (.endBeforeStart n f.length)

/-- Lets the data start at `headroom` and span `length` bytes of a buffer of `limit` bytes. -/
def reposition (f : Frame) (limit headroom length : Nat) : Except AdjustError Frame :=
  if headroom + length ≤ limit then .ok { f with start := headroom, stop := headroom + length }
  else .error (.endPastLimit (saturate (headroom + length)) limit)

/-- Adds the `n` bytes before the data to it, if there are as many. -/
def expandFront? (f : Frame) (n : Nat) : Option Frame :=
  if n ≤ f.start then some { f with start := f.start - n } else none

/-- Adds the `n` bytes behind the data to it, if a buffer of `limit` bytes has as many. -/
def expandBack? (f : Frame) (limit n : Nat) : Option Frame :=
  if f.stop + n ≤ limit then some { f with stop := f.stop + n } else none

/-- The same window and marks after `n` bytes were put in front of the buffer. -/
def shift (f : Frame) (n : Nat) : Frame :=
  ⟨f.start + n, f.stop + n, f.marks.map fun m => ⟨m.network + n, m.transport + n⟩⟩

/-! ## Marking headers -/

/-- Marks a network header of `length` bytes, `offset` bytes into the data, and the transport
header right behind it. -/
def markHeader (f : Frame) (offset length : Nat) : Except MarkError Frame :=
  if offset + length ≤ f.length then
    .ok { f with marks := some ⟨f.start + offset, f.start + offset + length⟩ }
  else .error (.outOfRange offset length f.length)

/-- The size of an IPv6 header without extension headers. -/
def ipv6HeaderSize : Nat := 40

def clearMarks (f : Frame) : Frame := { f with marks := none }

/-- Where the network header starts, relative to the data; negative if it was pulled. -/
def networkOffset (f : Frame) : Option Int := f.marks.map fun m => (m.network : Int) - f.start

def networkLength (f : Frame) : Option Nat := f.marks.map fun m => m.transport - m.network

/-- Where the transport header starts, relative to the data. -/
def transportOffset (f : Frame) : Option Int := f.marks.map fun m => (m.transport : Int) - f.start

/-! ## Regions -/

/-- The positions between which a region lies in a buffer of `limit` bytes. A header runs to the end
of the data, and is empty if that lies before its mark. -/
def span? (f : Frame) (limit : Nat) : Region → Option (Nat × Nat)
  | .data => some (f.start, f.stop)
  | .buffer => some (0, limit)
  | .network => f.marks.map fun m => (min m.network f.stop, f.stop)
  | .transport => f.marks.map fun m => (min m.transport f.stop, f.stop)

/-! ## Frames stay inside their buffers -/

variable {f g : Frame} {limit : Nat}

theorem Fits.pull {n : Nat} (h : f.Fits limit) (hg : f.pull n = .ok g) : g.Fits limit := by
  obtain ⟨h₁, h₂, h₃⟩ := h
  unfold Frame.pull at hg
  split at hg
  · next hn =>
    cases hg
    exact ⟨by simp only [Frame.length] at hn ⊢; omega, h₂, h₃⟩
  · cases hg

theorem Fits.take {n : Nat} (h : f.Fits limit) (hg : f.take n = .ok g) : g.Fits limit := by
  obtain ⟨h₁, h₂, h₃⟩ := h
  unfold Frame.take at hg
  split at hg
  · next hn =>
    cases hg
    exact ⟨by simp only [Frame.length] at hn ⊢; omega, Nat.le_trans (Nat.sub_le _ _) h₂, h₃⟩
  · cases hg

theorem Fits.reposition {headroom length : Nat} (h : f.Fits limit)
    (hg : f.reposition limit headroom length = .ok g) : g.Fits limit := by
  obtain ⟨_, _, h₃⟩ := h
  unfold Frame.reposition at hg
  split at hg
  · next hn =>
    cases hg
    exact ⟨Nat.le_add_right _ _, hn, h₃⟩
  · cases hg

theorem Fits.markHeader {offset length : Nat} (h : f.Fits limit)
    (hg : f.markHeader offset length = .ok g) : g.Fits limit := by
  obtain ⟨h₁, h₂, _⟩ := h
  unfold Frame.markHeader at hg
  split at hg
  · next hn =>
    cases hg
    refine ⟨h₁, h₂, fun m hm => ?_⟩
    cases hm
    simp only [Frame.length] at hn ⊢
    omega
  · cases hg

theorem Fits.clearMarks (h : f.Fits limit) : f.clearMarks.Fits limit :=
  ⟨h.1, h.2.1, fun _ hm => nomatch hm⟩

theorem Fits.expandFront {n : Nat} (h : f.Fits limit) (hg : f.expandFront? n = some g) :
    g.Fits limit := by
  obtain ⟨h₁, h₂, h₃⟩ := h
  unfold Frame.expandFront? at hg
  split at hg
  · cases hg
    exact ⟨Nat.le_trans (Nat.sub_le _ _) h₁, h₂, h₃⟩
  · cases hg

theorem Fits.expandBack {n : Nat} (h : f.Fits limit) (hg : f.expandBack? limit n = some g) :
    g.Fits limit := by
  obtain ⟨h₁, _, h₃⟩ := h
  unfold Frame.expandBack? at hg
  split at hg
  · next hn =>
    cases hg
    exact ⟨Nat.le_trans h₁ (Nat.le_add_right _ _), hn, h₃⟩
  · cases hg

/-- Bytes added in front of the buffer, and any behind it, keep a shifted frame inside. -/
theorem Fits.shift {front back : Nat} (h : f.Fits limit) :
    (f.shift front).Fits (front + limit + back) := by
  obtain ⟨h₁, h₂, h₃⟩ := h
  refine ⟨by simp only [Frame.shift]; omega, by simp only [Frame.shift]; omega, fun m hm => ?_⟩
  obtain ⟨m', hm', rfl⟩ := Option.map_eq_some_iff.mp hm
  have := h₃ m' hm'
  simp only
  omega

/-- A region of a frame that fits lies inside the buffer. -/
theorem Fits.span {region : Region} {first last : Nat} (h : f.Fits limit)
    (hs : f.span? limit region = some (first, last)) : first ≤ last ∧ last ≤ limit := by
  obtain ⟨h₁, h₂, _⟩ := h
  cases region with
  | data => cases hs; exact ⟨h₁, h₂⟩
  | buffer => cases hs; exact ⟨Nat.zero_le _, Nat.le_refl _⟩
  | network =>
    obtain ⟨m, _, hm⟩ := Option.map_eq_some_iff.mp hs
    cases hm
    exact ⟨Nat.min_le_right _ _, h₂⟩
  | transport =>
    obtain ⟨m, _, hm⟩ := Option.map_eq_some_iff.mp hs
    cases hm
    exact ⟨Nat.min_le_right _ _, h₂⟩

end Frame

end PacketPath
