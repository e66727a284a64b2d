import PacketPath.Proofs.Check.Verdict
import PacketPath.Proofs.DeepCopy.Standing

set_option autoImplicit false

/-! # Header marks stay on their bytes

Once a header is marked, its marks follow the bytes that they are on, through every operation that
moves the window, makes room or clones the packet, whether or not the buffer is copied on the way.
Copies put zeros around the bytes, and shift the marks by as much as they put before them
(`Owned.Carries`); everything else leaves the buffer and the marks alone.
-/

namespace PacketPath

/-- The bytes and marks of a packet, with zeros put around the bytes, `front` of them before. -/
structure Owned.Carries (o : Owned) (front : Nat) (o' : Owned) : Prop where
  bytes : ∃ back, o'.bytes = Bytes.zeros front ++ o.bytes ++ Bytes.zeros back
  marks : o'.frame.marks
    = o.frame.marks.map fun m => ⟨m.network + front, m.transport + front⟩

/-- The adjustments that leave the marks alone. -/
def Adjustment.movesWindow : Adjustment → Bool
  | pull _ | take _ | reposition _ _ => true
  | _ => false

/-- What an attempt that can fail gave, if it gave something. -/
theorem eq_of_ite_ok {α ε : Type} {c : Prop} [Decidable c] {a b : α} {e : ε}
    (h : (if c then .ok a else .error e : Except ε α) = .ok b) : b = a := by
  split at h
  · exact (Except.ok.inj h).symm
  · cases h

theorem Adjustment.marks_of_movesWindow {how : Adjustment} {f g : Frame} {limit : Nat}
    (hw : how.movesWindow = true) (hg : how.apply f limit = .ok g) : g.marks = f.marks := by
  cases how with
  | pull n =>
      have hframe : f.pull n = .ok g := mapError_eq_ok hg
      rw [eq_of_ite_ok hframe]
  | take n =>
      have hframe : f.take n = .ok g := mapError_eq_ok hg
      rw [eq_of_ite_ok hframe]
  | reposition headroom length =>
      have hframe : f.reposition limit headroom length = .ok g := mapError_eq_ok hg
      rw [eq_of_ite_ok hframe]
  | _ => cases hw

/-- The operations that put the bytes they add before the data. -/
def Resizing.inFront : Resizing → Bool
  | push _ | pushShared _ => true
  | _ => false

namespace Owned

variable {o o' o'' : Owned} {front front' back n : Nat}

/-- Nothing was put before the bytes, nor behind them. -/
theorem carries_of_eq (hbytes : o'.bytes = o.bytes) (hmarks : o'.frame.marks = o.frame.marks) :
    o.Carries 0 o' := by
  refine ⟨⟨0, ?_⟩, ?_⟩
  · rw [hbytes, Bytes.zeros, List.replicate_zero, List.nil_append, List.append_nil]
  · rw [hmarks]
    cases o.frame.marks <;> rfl

theorem Carries.trans (h : o.Carries front o') (h' : o'.Carries front' o'') :
    o.Carries (front + front') o'' := by
  obtain ⟨⟨back, hbytes⟩, hmarks⟩ := h
  obtain ⟨⟨back', hbytes'⟩, hmarks'⟩ := h'
  refine ⟨⟨back + back', ?_⟩, ?_⟩
  · calc o''.bytes
        _ = Bytes.zeros front' ++ (Bytes.zeros front ++ o.bytes ++ Bytes.zeros back)
              ++ Bytes.zeros back' := by rw [hbytes', hbytes]
        _ = (Bytes.zeros front' ++ Bytes.zeros front) ++ o.bytes
              ++ (Bytes.zeros back ++ Bytes.zeros back') := by simp only [List.append_assoc]
        _ = Bytes.zeros (front + front') ++ o.bytes ++ Bytes.zeros (back + back') := by
            simp only [Bytes.zeros, List.replicate_append_replicate, Nat.add_comm front']
  · rw [hmarks', hmarks, Option.map_map]
    cases o.frame.marks with
    | none => rfl
    | some m => simp only [Option.map_some, Function.comp_apply, Nat.add_assoc]

/-! ## Operations -/

theorem carries_grow (hg : o.grow front back = .ok o') :
    o.Carries front o' ∧ o'.bytes.length = front + o.bytes.length + back := by
  obtain ⟨-, hlen, -⟩ := grow_eq_ok hg
  unfold grow at hg
  split at hg
  · cases hg
  · cases hg
    exact ⟨⟨⟨back, rfl⟩, rfl⟩, hlen⟩

theorem carries_push (ho : o.push n = .ok o') :
    o.Carries (o'.bytes.length - o.bytes.length) o' := by
  unfold push at ho
  split at ho
  · cases ho
    rw [show (o.openFront n).bytes.length = o.bytes.length from rfl, Nat.sub_self]
    exact carries_of_eq rfl rfl
  · obtain ⟨grown, hg, rfl⟩ := map_eq_ok ho
    obtain ⟨⟨hbytes, hmarks⟩, hlen⟩ := carries_grow hg
    have hfront : (grown.openFront n).bytes.length - o.bytes.length = growth n := by
      show grown.bytes.length - _ = _
      omega
    rw [hfront]
    exact ⟨hbytes, hmarks⟩

theorem carries_put (ho : o.put n = .ok o') : o.Carries 0 o' := by
  unfold put at ho
  split at ho
  · cases ho
    exact carries_of_eq rfl rfl
  · obtain ⟨grown, hg, rfl⟩ := map_eq_ok ho
    obtain ⟨⟨hbytes, hmarks⟩, -⟩ := carries_grow hg
    exact ⟨hbytes, hmarks⟩

theorem Carries.setWritable (h : o.Carries front o') (writable : Bool) :
    o.Carries front (o'.setWritable writable) := ⟨h.bytes, h.marks⟩

/-- How many bytes an operation that makes room put before the bytes of a packet. -/
theorem carries_resize {how : Resizing} (hr : how.makesRoom = true) (ho : o.resize how = .ok o') :
    o.Carries (if how.inFront then o'.bytes.length - o.bytes.length else 0) o' := by
  cases how with
  | uniqueify =>
      cases ho
      exact (carries_of_eq rfl rfl).setWritable true
  | push n | pushShared n =>
      obtain ⟨pushed, hpush, rfl⟩ := map_eq_ok ho
      exact (carries_push hpush).setWritable _
  | put n | putShared n =>
      obtain ⟨opened, hput, rfl⟩ := map_eq_ok ho
      exact (carries_put hput).setWritable _
  | _ => cases hr

/-- Moving the window leaves the marks where they are. -/
theorem carries_adjust {how : Adjustment} (hw : how.movesWindow = true)
    (ho : o.adjust how = .ok o') : o.Carries 0 o' := by
  obtain ⟨frame, hframe, rfl⟩ := map_eq_ok ho
  exact carries_of_eq rfl (how.marks_of_movesWindow hw hframe)

end Owned

/-! ## Moves -/

/-- What may be done to a packet without writing to it and without marking another header. -/
inductive Move
  | pull (n : Nat)
  | take (n : Nat)
  | reposition (headroom length : Nat)
  | uniqueify
  | push (n : Nat)
  | put (n : Nat)
  | pushShared (n : Nat)
  | putShared (n : Nat)
  /-- Clones the packet, to go on with the clone if `follow` is set, with the packet otherwise. -/
  | clone (target : String) (follow : Bool)

namespace Move

/-- The command for a move of the packet under a name. -/
def command (packet : String) : Move → Command
  | pull n => .adjust packet (.pull n)
  | take n => .adjust packet (.take n)
  | reposition headroom length => .adjust packet (.reposition headroom length)
  | uniqueify => .resize packet .uniqueify
  | push n => .resize packet (.push n)
  | put n => .resize packet (.put n)
  | pushShared n => .resize packet (.pushShared n)
  | putShared n => .resize packet (.putShared n)
  | clone target _ => .clone packet target

/-- The name of the packet to go on with. -/
def next (packet : String) : Move → String
  | clone target true => target
  | _ => packet

/-- Whether a buffer that grows does so in front. -/
def inFront : Move → Bool
  | push _ | pushShared _ => true
  | _ => false

end Move

namespace Session

variable {s : Session} {packet : String} {o o' : Owned}

/-! ## One move -/

theorem adjust_refused (hp : s.StandsFor packet o) {how : Adjustment} {reply : Reply}
    (ho : o.adjust how = .error reply) : s.step (.adjust packet how) = (s, reply) := by
  obtain ⟨h, hf, rfl⟩ := hp
  exact adjust_of_error hf (map_eq_error ho)

/-- The window is moved, or the attempt is refused; neither touches the bytes or the marks. -/
theorem StandsFor.moveWindow (hp : s.StandsFor packet o) {how : Adjustment}
    (hw : how.movesWindow = true) :
    ∃ o', (s.step (.adjust packet how)).1.StandsFor packet o' ∧ o.Carries 0 o' := by
  cases ho : o.adjust how with
  | ok o' => exact ⟨o', hp.adjust ho, Owned.carries_adjust hw ho⟩
  | error reply =>
      refine ⟨o, ?_, Owned.carries_of_eq rfl rfl⟩
      rw [adjust_refused hp ho]
      exact hp

/-- Room is made, or memory for it is refused. -/
theorem StandsFor.moveRoom (hp : s.StandsFor packet o) (hs : s.Sound) {how : Resizing}
    (hr : how.makesRoom = true) :
    (∃ o', (s.step (.resize packet how)).1.StandsFor packet o'
        ∧ o.Carries (if how.inFront then o'.bytes.length - o.bytes.length else 0) o')
      ∨ ∃ e, (s.step (.resize packet how)).2 = .allocFailed e := by
  rcases hp.makeRoom hs hr with ⟨o', ho, hp'⟩ | hrefused
  · exact .inl ⟨o', hp', Owned.carries_resize hr ho⟩
  · exact .inr hrefused

/-- Either handle after a clone has the bytes and marks of the packet. -/
theorem StandsFor.moveClone (hp : s.StandsFor packet o) (hs : s.Sound) (target : String)
    (follow : Bool) : ∃ o', (s.step (.clone packet target)).1.StandsFor
        (Move.next packet (.clone target follow)) o' ∧ o.Carries 0 o' := by
  obtain ⟨hself, hother⟩ := hp.clone hs target
  have hcarries : o.Carries 0 (o.setWritable false) := Owned.carries_of_eq rfl rfl
  cases follow with
  | true => exact ⟨_, hother, hcarries⟩
  | false => exact ⟨_, hself, hcarries⟩

/-- One move carries the bytes and marks along, or memory for it is refused. -/
theorem StandsFor.move (hp : s.StandsFor packet o) (hs : s.Sound) (m : Move) :
    (∃ o', (s.step (m.command packet)).1.StandsFor (m.next packet) o'
        ∧ o.Carries (if m.inFront then o'.bytes.length - o.bytes.length else 0) o')
      ∨ ∃ e, (s.step (m.command packet)).2 = .allocFailed e := by
  cases m with
  | pull n => exact .inl (hp.moveWindow rfl)
  | take n => exact .inl (hp.moveWindow rfl)
  | reposition headroom length => exact .inl (hp.moveWindow rfl)
  | clone target follow => exact .inl (hp.moveClone hs target follow)
  | _ => exact hp.moveRoom hs rfl

/-! ## Trails -/

/-- How many bytes the buffer of the packet under a name has, if there is one. -/
def bufferLength (s : Session) (name : String) : Nat :=
  ((s.view name).map (·.bufferLength)).getD 0

theorem StandsFor.view (hp : s.StandsFor packet o) : ∃ shared uses,
    s.view packet = some { o.view with shared := shared, uses := uses } := by
  obtain ⟨h, hf, rfl⟩ := hp
  refine ⟨s.pool.shared h, s.pool.uses h.buffer, ?_⟩
  rw [Session.view, hf, Option.map_some, Pool.observe_eq]

theorem StandsFor.bufferLength (hp : s.StandsFor packet o) :
    s.bufferLength packet = o.bytes.length := by
  obtain ⟨shared, uses, hview⟩ := hp.view
  rw [Session.bufferLength, hview]
  rfl

end Session

/-- A packet on its way: where it is now, and how many bytes were put before its buffer so far. -/
structure Trail where
  session : Session
  name : String
  added : Nat := 0

namespace Trail

/-- Makes one move, unless memory for it is refused; then the packet is gone. -/
def step (t : Trail) (m : Move) : Option Trail :=
  let (after, reply) := t.session.step (m.command t.name)
  let name := m.next t.name
  match reply with
  | .allocFailed _ => none
  | _ =>
    let growth := after.bufferLength name - t.session.bufferLength t.name
    some ⟨after, name, t.added + if m.inFront then growth else 0⟩

/-- Makes some moves. -/
def follow (t : Trail) : List Move → Option Trail
  | [] => some t
  | m :: rest => (t.step m).bind fun t => t.follow rest

/-- What holds of a trail that began with a packet that stood for `o`. -/
structure Leads (o : Owned) (t : Trail) : Prop where
  sound : t.session.Sound
  carries : ∃ o', t.session.StandsFor t.name o' ∧ o.Carries t.added o'

variable {o : Owned} {t t' : Trail} {m : Move}

/-- What is seen before and after a move that was made. -/
theorem step_eq_some (ht : t.step m = some t') :
    t'.session = (t.session.step (m.command t.name)).1 ∧ t'.name = m.next t.name
      ∧ t'.added = t.added + (if m.inFront then
          t'.session.bufferLength t'.name - t.session.bufferLength t.name else 0)
      ∧ ∀ e, (t.session.step (m.command t.name)).2 ≠ .allocFailed e := by
  unfold step at ht
  split at ht
  next after reply hstep =>
  split at ht
  · cases ht
  · next hreply =>
    cases ht
    rw [hstep]
    exact ⟨rfl, rfl, rfl, hreply⟩

/-- A move keeps to the trail. -/
theorem Leads.step (ht : Leads o t) (hstep : t.step m = some t') : Leads o t' := by
  obtain ⟨hsound, o', hp, hcarries⟩ := ht
  obtain ⟨hsession, hname, hadded, hnot⟩ := step_eq_some hstep
  rcases hp.move hsound m with ⟨o'', hp'', hmoved⟩ | ⟨e, hrefused⟩
  · rw [← hsession, ← hname] at hp''
    refine ⟨?_, o'', hp'', ?_⟩
    · rw [hsession]
      exact hsound.step _
    · rw [hadded, hp''.bufferLength, hp.bufferLength]
      exact hcarries.trans hmoved
  · exact absurd hrefused (hnot e)

theorem Leads.follow (ht : Leads o t) {moves : List Move} (hf : t.follow moves = some t') :
    Leads o t' := by
  -- each move leads on from where the one before it led
  induction moves generalizing t with
  | nil =>
      cases hf
      exact ht
  | cons m rest ih =>
      obtain ⟨next, hstep, hrest⟩ := Option.bind_eq_some_iff.mp hf
      exact ih (ht.step hstep) hrest

end Trail

/-! ## What is seen of the marks -/

/-- How a packet looks right after a header was marked: the marks are relative to the data. -/
def FreshlyMarked (v : PacketView) (offset length : Nat) : Prop :=
  v.header = some
    { networkOffset := offset
      networkLength := length
      transportOffset := offset + length
      network := v.data.drop offset
      transport := v.data.drop (offset + length) }

/-- How a packet looks when the marks of an earlier look `v` are on the same bytes. There are
`added` bytes in front of what was the buffer then, so the data started at `added + v.headroom` of
what is the buffer now. -/
structure StillMarked (v : PacketView) (offset length added : Nat) (v' : PacketView) : Prop where
  buffer : ∃ behind, v'.buffer = Bytes.zeros added ++ v.buffer ++ Bytes.zeros behind
  /-- The offsets count from where the data starts now, and may be negative. What is seen of a
  header runs from the marked byte to where the data ends now. -/
  header :
    let dataStart := added + v.headroom
    let moved : Int := dataStart - v'.headroom
    let dataEnd := v'.headroom + v'.length
    v'.header = some
      { networkOffset := offset + moved
        networkLength := length
        transportOffset := offset + length + moved
        network := v'.buffer.slice (dataStart + offset) dataEnd
        transport := v'.buffer.slice (dataStart + offset + length) dataEnd }

namespace Owned

variable {o o' : Owned} {offset length added : Nat}

/-- Where the marks are put. -/
def MarkedAt (o : Owned) (offset length : Nat) : Prop :=
  o.frame.marks = some ⟨o.frame.start + offset, o.frame.start + offset + length⟩

theorem header_of_marks {m : Marks} (hm : o.frame.marks = some m) :
    o.header = some
      { networkOffset := (m.network : Int) - o.frame.start
        networkLength := m.transport - m.network
        transportOffset := (m.transport : Int) - o.frame.start
        network := o.bytes.slice m.network o.frame.stop
        transport := o.bytes.slice m.transport o.frame.stop } := by
  simp only [header, hm, Option.map_some, Pool.slice_min]

theorem MarkedAt.freshlyMarked (hm : o.MarkedAt offset length) :
    FreshlyMarked o.view offset length := by
  have hdrop : ∀ n, o.bytes.slice (o.frame.start + n) o.frame.stop = o.data.drop n := fun n =>
    (List.drop_drop ..).symm
  show o.header = _
  rw [header_of_marks hm]
  simp only [Nat.add_assoc, hdrop, Option.some.injEq, HeaderView.mk.injEq]
  refine ⟨by omega, by omega, by omega, rfl, rfl⟩

theorem MarkedAt.stillMarked (hm : o.MarkedAt offset length) (hc : o.Carries added o')
    (hfits : o'.frame.Fits o'.bytes.length) : StillMarked o.view offset length added o'.view := by
  have hmarks : o'.frame.marks = some ⟨o.frame.start + offset + added,
      o.frame.start + offset + length + added⟩ := by rw [hc.marks, hm]; rfl
  have hend : o'.frame.start + o'.frame.length = o'.frame.stop := Nat.add_sub_cancel' hfits.1
  refine ⟨hc.bytes, ?_⟩
  show o'.header = _
  rw [header_of_marks hmarks]
  simp only [view, hend, Option.some.injEq, HeaderView.mk.injEq]
  have hnetwork : o.frame.start + offset + added = added + o.frame.start + offset := by omega
  have htransport : o.frame.start + offset + length + added
      = added + o.frame.start + offset + length := by omega
  exact ⟨by omega, by omega, by omega, by rw [hnetwork], by rw [htransport]⟩

end Owned

namespace Session

variable {s : Session} {packet : String}

/-- A header that was marked is where it was asked to be. -/
theorem markedAt_of_done {offset length : Nat}
    (hdone : (s.step (.adjust packet (.markHeader offset length))).2 = .done) :
    ∃ o, (s.step (.adjust packet (.markHeader offset length))).1.StandsFor packet o
      ∧ o.MarkedAt offset length := by
  cases hf : s.packets.find? packet with
  | none =>
      simp only [Session.step, Session.adjust, withPacket_none hf] at hdone
      cases hdone
  | some h =>
      have hp : s.StandsFor packet (s.pool.owned h) := ⟨h, hf, rfl⟩
      cases hmark : h.frame.markHeader offset length with
      | error e =>
          have ho : (s.pool.owned h).adjust (.markHeader offset length)
              = .error (.markFailed e) := by
            show ((h.frame.markHeader offset length).mapError Reply.markFailed).map _ = _
            rw [hmark]
            rfl
          rw [adjust_refused hp ho] at hdone
          cases hdone
      | ok frame =>
          have ho : (s.pool.owned h).adjust (.markHeader offset length)
              = .ok { s.pool.owned h with frame := frame } := by
            show ((h.frame.markHeader offset length).mapError Reply.markFailed).map _ = _
            rw [hmark]
            rfl
          refine ⟨_, hp.adjust ho, ?_⟩
          obtain rfl := eq_of_ite_ok hmark
          rfl

theorem StandsFor.fits {o : Owned} (hp : s.StandsFor packet o) (hs : s.Sound) :
    o.frame.Fits o.bytes.length := by
  obtain ⟨h, hf, rfl⟩ := hp
  exact hs.fits hf

end Session

/-- **Header marks stay on their bytes.** A header that was marked is seen where it was asked to be.
After any number of moves for which there was memory, and on either handle of every clone, it is
still marked, with the same length; its marks count from where the data starts now, and it runs from
the byte that was marked to where the data ends now. -/
theorem marks_stay (cs : List Command) (packet : String) (offset length : Nat)
    (hdone : ((({} : Session).run cs).step (.adjust packet (.markHeader offset length))).2
      = .done) :
    let s := ((({} : Session).run cs).step (.adjust packet (.markHeader offset length))).1
    ∃ v, s.view packet = some v ∧ FreshlyMarked v offset length
      ∧ ∀ moves t, (Trail.mk s packet 0).follow moves = some t →
        ∃ v', t.session.view t.name = some v' ∧ StillMarked v offset length t.added v' := by
  intro s
  have hs : s.Sound := (Session.sound_empty.run cs).step _
  obtain ⟨o, hp, hm⟩ := Session.markedAt_of_done hdone
  obtain ⟨shared, uses, hview⟩ := hp.view
  refine ⟨_, hview, hm.freshlyMarked, fun moves t hfollow => ?_⟩
  -- before the first move nothing has been put in front
  have hstart : Trail.Leads o ⟨s, packet, 0⟩ := ⟨hs, o, hp, Owned.carries_of_eq rfl rfl⟩
  obtain ⟨hsound, o', hp', hcarries⟩ := hstart.follow hfollow
  obtain ⟨shared', uses', hview'⟩ := hp'.view
  obtain ⟨hbuffer, hheader⟩ := hm.stillMarked hcarries (hp'.fits hsound)
  exact ⟨_, hview', hbuffer, hheader⟩

/-- A header of a packet whose buffer had no room in front, followed to a clone of the copy. -/
theorem marks_stay_copied :
    let made : Session := ({} : Session).run [.make "p" (.copy 2 [1, 2, 3, 4] 0)]
    let s := (made.step (.adjust "p" (.markHeader 1 2))).1
    (made.step (.adjust "p" (.markHeader 1 2))).2 = .done
      ∧ ∃ v t v', (Trail.mk s "p" 0).follow [.pull 3, .push 8, .clone "q" true] = some t
        ∧ s.view "p" = some v ∧ t.session.view t.name = some v'
        ∧ StillMarked v 1 2 (growth 8) v' := by
  intro made s
  have hdone : (made.step (.adjust "p" (.markHeader 1 2))).2 = .done := by rfl
  have hadded : ((Trail.mk s "p" 0).follow [.pull 3, .push 8, .clone "q" true]).map (·.added)
      = some (growth 8) := by decide +kernel
  obtain ⟨t, hfollow, hgrowth⟩ := Option.map_eq_some_iff.mp hadded
  obtain ⟨v, hv, -, hmoves⟩ := marks_stay _ "p" 1 2 hdone
  obtain ⟨v', hv', hstill⟩ := hmoves _ t hfollow
  rw [hgrowth] at hstill
  exact ⟨hdone, v, t, v', hfollow, hv, hv', hstill⟩

end PacketPath
