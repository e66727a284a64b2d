import PacketPath.Proofs.Packet.Guarded
import PacketPath.Proofs.Session.Resizing

set_option autoImplicit false

/-! # Making packets

A packet that is made has the room that was asked for, and a small buffer is filled up behind it. All
bytes of the buffer count, since the ones around the data are shown as soon as it grows: they are
zeros. Whether a packet is made depends on a sum of three sizes, which a machine may not be able to
form.
-/

namespace PacketPath

/-! ## With the sizes of a machine -/

namespace Pool

variable {p : Pool} {bytes bytes' : Bytes} {storage : Storage} {start stop : Nat}

/-- Bytes that replace those of a new buffer might have been there from the start. -/
theorem addPacket_setBytes :
    (p.addPacket bytes storage start stop).1.setBytes p.next bytes'
      = (p.addPacket bytes' storage start stop).1 := by
  have hfound : (p.addPacket bytes storage start stop).1.buffers.find? p.next
      = some ⟨bytes, storage, 1⟩ := by
    show (p.buffers.insert p.next _).find? p.next = _
    rw [Registry.find?_insert, if_pos rfl]
  rw [setBytes, hfound]
  simp only [addPacket, add, Registry.insert_insert]

theorem exclusive_addPacket :
    (p.addPacket bytes storage start stop).1.exclusive (p.addPacket bytes storage start stop).2
      = true := by
  refine exclusive_iff.mpr ⟨rfl, ?_⟩
  show (p.add bytes storage).1.uses p.next = 1
  rw [uses_add, if_pos rfl]

theorem bytes_addPacket : (p.addPacket bytes storage start stop).1.bytes p.next = bytes := by
  show (p.add bytes storage).1.bytes p.next = bytes
  rw [bytes_add, if_pos rfl]

end Pool

namespace Guarded

/-- Makes a packet of zeros. -/
def makeZeros (p : Pool) (headroom length tailroom : Nat) :
    Option (Except AllocError (Pool × Handle)) :=
  match (plus headroom length).bind (plus · tailroom) with
  | none => some (.error (.tooLarge maxSize))
  | some requested =>
    let size := max requested minBuffer
    if maxBuffer < size then some (.error (.tooLarge size))
    else do
      let stop ← plus headroom length
      return .ok (p.addPacket (Bytes.zeros size) .heap headroom stop)

/-- Makes a packet of zeros, and then copies bytes over all of its data. -/
def makeCopy (p : Pool) (headroom : Nat) (bytes : Bytes) (tailroom : Nat) :
    Option (Except AllocError (Pool × Handle)) := do
  match ← makeZeros p headroom bytes.length tailroom with
  | .error e => return .error e
  | .ok (q, h) =>
    let _ ← viewMut? q h .data
    let filled ← copyInto (q.bytes h.buffer) h.frame.start h.frame.stop bytes
    return .ok (q.setBytes h.buffer filled, h)

variable {p : Pool} {headroom length tailroom : Nat} {bytes : Bytes}

theorem makeZeros_of_le (hle : headroom + length + tailroom ≤ maxBuffer) :
    makeZeros p headroom length tailroom = some (.ok (p.addPacket
      (Bytes.zeros (max (headroom + length + tailroom) minBuffer)) .heap headroom
      (headroom + length))) := by
  have hsmall : maxBuffer ≤ maxSize := by decide
  have hmax : ¬ maxBuffer < max (headroom + length + tailroom) minBuffer :=
    Nat.not_lt.mpr (Pool.max_minBuffer_le hle)
  simp only [makeZeros, plus_bind_plus, if_pos (Nat.le_trans hle hsmall), if_neg hmax]
  rw [plus_eq (by omega)]
  rfl

theorem makeZeros_of_gt (hgt : maxBuffer < headroom + length + tailroom) :
    makeZeros p headroom length tailroom
      = some (.error (.tooLarge (saturate (headroom + length + tailroom)))) := by
  simp only [makeZeros, plus_bind_plus, saturate]
  by_cases hsize : headroom + length + tailroom ≤ maxSize
  · -- what is too large is not filled up
    have hmax : max (headroom + length + tailroom) minBuffer = headroom + length + tailroom :=
      Nat.max_eq_left (Nat.le_of_lt (Nat.lt_trans (by decide) hgt))
    simp only [if_pos hsize, hmax, if_pos hgt, Nat.min_eq_left hsize]
  · simp only [if_neg hsize, Nat.min_eq_right (Nat.le_of_not_le hsize)]

/-- A machine makes the packets of zeros that are made here. -/
theorem makeZeros_eq (p : Pool) (headroom length tailroom : Nat) :
    makeZeros p headroom length tailroom = some (p.makeZeros headroom length tailroom) := by
  have hsize := Environment.standard_room_three minBuffer headroom length tailroom
  by_cases hle : headroom + length + tailroom ≤ maxBuffer
  · rw [if_pos hle] at hsize
    rw [makeZeros_of_le hle, Pool.makeZeros, hsize]
  · rw [if_neg hle] at hsize
    rw [makeZeros_of_gt (Nat.lt_of_not_le hle), Pool.makeZeros, hsize]

/-- Copying into a new packet is never refused, and fills just its data. -/
theorem makeCopy_eq (p : Pool) (headroom : Nat) (bytes : Bytes) (tailroom : Nat) :
    makeCopy p headroom bytes tailroom = some (p.makeCopy headroom bytes tailroom) := by
  have hsize := Environment.standard_room_three minBuffer headroom bytes.length tailroom
  by_cases hle : headroom + bytes.length + tailroom ≤ maxBuffer
  · rw [if_pos hle] at hsize
    set size := max (headroom + bytes.length + tailroom) minBuffer with hmax
    set made := p.addPacket (Bytes.zeros size) .heap headroom (headroom + bytes.length) with hmade
    have hroom : headroom + bytes.length ≤ size := by omega
    have hbytes : made.1.bytes made.2.buffer = Bytes.zeros size := Pool.bytes_addPacket
    have hfits : made.2.frame.Fits (made.1.limit made.2) := by
      refine ⟨Nat.le_add_right _ _, ?_, fun m hm => nomatch hm⟩
      rw [Pool.limit, hbytes, Bytes.length_zeros]
      exact hroom
    have hview := viewMut?_eq hfits Pool.exclusive_addPacket .data
    have hcopy : copyInto (made.1.bytes made.2.buffer) made.2.frame.start made.2.frame.stop bytes
        = some ((Bytes.zeros size).overlay headroom bytes) := by
      have hwithin : headroom ≤ headroom + bytes.length ∧ headroom + bytes.length ≤ size
          ∧ bytes.length = headroom + bytes.length - headroom := by omega
      rw [hbytes, copyInto, Bytes.length_zeros]
      exact if_pos hwithin
    have hset : made.1.setBytes made.2.buffer ((Bytes.zeros size).overlay headroom bytes) = _ :=
      Pool.addPacket_setBytes
    simp only [makeCopy, makeZeros_of_le hle, ← hmax, ← hmade, Option.bind_eq_bind,
      Option.bind_some, hview, hcopy, hset, Pool.makeCopy, hsize]
    rfl
  · rw [if_neg hle] at hsize
    simp only [makeCopy, makeZeros_of_gt (Nat.lt_of_not_le hle), Option.bind_eq_bind,
      Option.bind_some, Pool.makeCopy, hsize]
    rfl

end Guarded

/-! ## What is seen of a new packet -/

/-- A packet that was just made: data between zeros, for which nobody else knows the buffer. -/
def PacketView.fresh (headroom : Nat) (data : Bytes) (behind : Nat) : PacketView where
  writable := true
  headroom := headroom
  length := data.length
  tailroom := behind
  bufferLength := headroom + data.length + behind
  shared := false
  uses := 1
  data := data
  buffer := Bytes.zeros headroom ++ data ++ Bytes.zeros behind
  header := none

namespace Owned

/-- A new packet with zeros around its data. -/
def fresh (headroom : Nat) (data : Bytes) (behind : Nat) : Owned where
  bytes := Bytes.zeros headroom ++ data ++ Bytes.zeros behind
  frame := ⟨headroom, headroom + data.length, none⟩
  writable := true

variable {headroom tailroom behind : Nat} {data : Bytes}

theorem view_fresh (headroom : Nat) (data : Bytes) (behind : Nat) :
    (fresh headroom data behind).view = .fresh headroom data behind := by
  have hlength : (fresh headroom data behind).bytes.length = headroom + data.length + behind := by
    simp only [fresh, List.length_append, Bytes.length_zeros]
  have hdata : (fresh headroom data behind).data = data := by
    have hbetween := Bytes.slice_between (Bytes.zeros headroom) data (Bytes.zeros behind)
    rwa [Bytes.length_zeros] at hbetween
  have hwindow : (fresh headroom data behind).frame.length = data.length :=
    Nat.add_sub_cancel_left ..
  have htailroom : (fresh headroom data behind).tailroom = behind := by
    rw [tailroom, hlength]
    exact Nat.add_sub_cancel_left ..
  rw [view, hlength, hdata, hwindow, htailroom]
  rfl

/-- How much is filled up behind the data: what was asked for, and as much as makes a buffer of the
smallest size. -/
theorem copy_of_le (h : headroom + data.length + tailroom ≤ maxBuffer) :
    ∃ behind, copy headroom data tailroom = .ok (fresh headroom data behind) ∧ tailroom ≤ behind
      ∧ headroom + data.length + behind = max (headroom + data.length + tailroom) minBuffer := by
  refine ⟨max (headroom + data.length + tailroom) minBuffer - (headroom + data.length), ?_, ?_, ?_⟩
  · rw [copy, allocationSize_three, if_pos h]
    rfl
  · omega
  · omega

theorem copy_of_gt (h : maxBuffer < headroom + data.length + tailroom) :
    copy headroom data tailroom
      = .error (.tooLarge (min (headroom + data.length + tailroom) maxSize)) := by
  rw [copy, allocationSize_three, if_neg (Nat.not_le.mpr h)]
  rfl

end Owned

/-! ## Making in a session -/

namespace Session

variable {s : Session} {target : String} {source : Source} {o : Owned} {e : AllocError}

/-- A packet is made under a name, and looks like this. -/
def Yields (s : Session) (target : String) (source : Source) (v : PacketView) : Prop :=
  (s.step (.make target source)).2 = .done
    ∧ ∃ h, (s.step (.make target source)).1.packets.find? target = some h
      ∧ (s.step (.make target source)).1.pool.observe h = v ∧ h.annotations = {}

theorem make_refused (ho : Owned.make source = .error (.alloc e)) :
    s.step (.make target source) = (s, .allocFailed e) := by
  have hmade := Pool.make_made s.pool source
  rw [ho] at hmade
  simp only [Session.step, Session.make, map_eq_error hmade]

theorem make_done (ho : Owned.make source = .ok o) :
    (s.step (.make target source)).2 = .done := by
  have hmade := Pool.make_made s.pool source
  rw [ho] at hmade
  obtain ⟨⟨q, h⟩, hmake, -⟩ := map_eq_ok hmade
  simp only [Session.step, Session.make, hmake]

/-- Who can write to a new packet is alone on its buffer. -/
theorem Sound.yields (hs : s.Sound) (target : String) (ho : Owned.make source = .ok o)
    (hw : o.writable = true) (ha : o.annotations = {}) : s.Yields target source o.view := by
  obtain ⟨h, hf, rfl⟩ := standsFor_make hs ho target
  have hlive := (hs.step (.make target source)).focus hf
  have hex := hlive.exclusive h List.mem_cons_self hw
  exact ⟨make_done ho, h, hf, Pool.observe_of_exclusive hex, ha⟩

end Session

/-- What it does to make a packet under a name that holds data with room around it. -/
structure MadeAround (s : Session) (target : String) (source : Source) (headroom : Nat)
    (data : Bytes) (tailroom : Nat) : Prop where
  /-- The sum has no limit. One that is no size is reported as the largest one. -/
  refused : maxBuffer < headroom + data.length + tailroom →
    s.step (.make target source)
      = (s, .allocFailed (.tooLarge (min (headroom + data.length + tailroom) maxSize)))
  made : headroom + data.length + tailroom ≤ maxBuffer → ∃ behind, tailroom ≤ behind
    ∧ headroom + data.length + behind = max (headroom + data.length + tailroom) minBuffer
    ∧ s.Yields target source (.fresh headroom data behind)

/-- What the ways to make a packet do in a session. -/
structure Makes (s : Session) (target : String) : Prop where
  zeros : ∀ headroom length tailroom, MadeAround s target (.zeros headroom length tailroom)
    headroom (Bytes.zeros length) tailroom
  copy : ∀ headroom bytes tailroom, MadeAround s target (.copy headroom bytes tailroom)
    headroom bytes tailroom
  plainZeros : ∀ length, MadeAround s target (.plainZeros length) 28 (Bytes.zeros length) 0
  plainCopy : ∀ bytes, MadeAround s target (.plainCopy bytes) 28 bytes 0
  /-- A region is not copied, and may have any size. -/
  region : ∀ name bytes, s.Yields target (.region name bytes) (.fresh 0 bytes 0)
  /-- A machine with 64-bit sizes makes the same packets, and refuses the same. -/
  machine : (∀ headroom length tailroom, Guarded.makeZeros s.pool headroom length tailroom
      = some (s.pool.makeZeros headroom length tailroom))
    ∧ ∀ headroom bytes tailroom, Guarded.makeCopy s.pool headroom bytes tailroom
      = some (s.pool.makeCopy headroom bytes tailroom)

namespace Session

variable {s : Session} {target : String} {source : Source} {headroom tailroom : Nat} {data : Bytes}

/-- Zeros are made as a copy of zeros would be. -/
theorem Sound.madeAround (hs : s.Sound) (target : String)
    (hsource : Owned.make source = (Owned.copy headroom data tailroom).mapError .alloc) :
    MadeAround s target source headroom data tailroom := by
  constructor
  · intro hgt
    rw [Owned.copy_of_gt hgt] at hsource
    exact make_refused hsource
  · intro hle
    obtain ⟨behind, hcopy, hroom, hsize⟩ := Owned.copy_of_le hle
    rw [hcopy] at hsource
    refine ⟨behind, hroom, hsize, ?_⟩
    rw [← Owned.view_fresh]
    exact hs.yields target hsource rfl rfl

theorem Sound.yields_region (hs : s.Sound) (target name : String) (bytes : Bytes) :
    s.Yields target (.region name bytes) (.fresh 0 bytes 0) := by
  have hmake : Owned.make (.region name bytes) = .ok (.fresh 0 bytes 0) := by
    simp only [Owned.make, Owned.fresh, Bytes.zeros, List.replicate_zero, List.nil_append,
      List.append_nil, Nat.zero_add]
  rw [← Owned.view_fresh]
  exact hs.yields target hmake rfl rfl

end Session

/-- **Packets are made to measure.** In any session, and whatever sizes are asked for. -/
theorem make_exact (cs : List Command) (target : String) :
    Makes (({} : Session).run cs) target := by
  have hs : (({} : Session).run cs).Sound := Session.sound_empty.run cs
  exact {
    zeros := fun _ _ _ => hs.madeAround target rfl
    copy := fun _ _ _ => hs.madeAround target rfl
    plainZeros := fun _ => hs.madeAround target rfl
    plainCopy := fun _ => hs.madeAround target rfl
    region := hs.yields_region target
    machine := ⟨Guarded.makeZeros_eq _, Guarded.makeCopy_eq _⟩ }

/-- The largest packet, one that is a byte larger, and two whose sums a machine cannot form. -/
theorem make_exact_limits :
    let s := ({} : Session).run []
    s.Yields "p" (.plainZeros 131044) (.fresh 28 (Bytes.zeros 131044) 0)
      ∧ s.step (.make "p" (.plainZeros 131045)) = (s, .allocFailed (.tooLarge 131073))
      ∧ s.step (.make "p" (.zeros 1 1 maxSize)) = (s, .allocFailed (.tooLarge maxSize))
      ∧ s.step (.make "p" (.copy maxSize [7] 0)) = (s, .allocFailed (.tooLarge maxSize))
      ∧ s.Yields "p" (.plainCopy [1, 2, 3]) (.fresh 28 [1, 2, 3] 33) := by
  intro s
  have hmakes := make_exact [] "p"
  have hlarge := (hmakes.plainZeros 131045).refused
  have hzeros := (hmakes.zeros 1 1 maxSize).refused (by decide)
  have hcopy := (hmakes.copy maxSize [7] 0).refused (by decide)
  rw [Bytes.length_zeros] at hlarge
  obtain ⟨behind, -, hsize, hlargest⟩ := (hmakes.plainZeros 131044).made (by
    rw [Bytes.length_zeros]
    decide)
  obtain rfl : behind = 0 := by
    rw [Bytes.length_zeros, minBuffer] at hsize
    omega
  obtain ⟨behind, -, hsize, hsmall⟩ := (hmakes.plainCopy [1, 2, 3]).made (by decide)
  obtain rfl : behind = 33 := by
    have hfilled : max (28 + [1, 2, 3].length + 0) minBuffer = 28 + [1, 2, 3].length + 33 := by
      decide
    exact Nat.add_left_cancel (hsize.trans hfilled)
  exact ⟨hlargest, hlarge (by decide), hzeros, hcopy, hsmall⟩

end PacketPath
