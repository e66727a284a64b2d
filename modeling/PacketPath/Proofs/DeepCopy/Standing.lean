import PacketPath.Proofs.DeepCopy.Handles
import PacketPath.Proofs.Session.Sound

set_option autoImplicit false

/-! # What a packet of a session stands for

Here one packet is followed through a session by what it stands for, a packet with a buffer of its
own. Commands do to it what they do to such a packet, whoever else is on the buffer.

An imported buffer may be larger than any that is allocated. The operations that only make room can
still be followed on it (`StandsFor.makeRoom`): they succeed in place, or are refused the memory for
a copy.
-/

namespace PacketPath

/-- The operations that make a packet writable or give it room, and write nothing into it. -/
def Resizing.makesRoom : Resizing → Bool
  | uniqueify | push _ | put _ | pushShared _ | putShared _ => true
  | _ => false

section

variable {ε α β : Type} {f : α → β} {x : Except ε α}

/-- Going on from a result neither makes nor hides a failure. -/
theorem map_eq_error {e : ε} (hx : x.map f = .error e) : x = .error e := by
  cases x with
  | error e' => cases hx; rfl
  | ok a => cases hx

theorem map_eq_ok {b : β} (hx : x.map f = .ok b) : ∃ a, x = .ok a ∧ f a = b := by
  cases x with
  | error e => cases hx
  | ok a => exact ⟨a, rfl, Except.ok.inj hx⟩

end

namespace Pool

variable {p : Pool} {h : Handle} {others : List Handle}

/-! ## Buffers of any size -/

/-- Memory was refused. -/
def Refused (r : Resized) : Prop := ∃ e, Resized.owned r = .error (.alloc e)

theorem Refused.reframe {r : Resized} (hr : Refused r) (f : Pool → Handle → Option Frame) :
    Refused (reframe r f) := by
  obtain ⟨e, he⟩ := hr
  exact ⟨e, reframe_owned_error he f⟩

theorem Refused.demote {r : Resized} (hr : Refused r) : Refused (demote r) := by
  obtain ⟨e, he⟩ := hr
  exact ⟨e, by rw [demote_owned, he]; rfl⟩

section

variable (hs : p.Sound (h :: others)) (hbig : ¬ p.limit h ≤ maxBuffer)

include hs hbig

/-- A buffer that is too large is not copied. -/
theorem refused_relocate (front back : Nat) : Refused (p.relocate h front back) := by
  have htotal : ¬ total [front, (p.owned h).bytes.length, back] ≤ maxBuffer := by
    have hlen : (p.owned h).bytes.length = p.limit h := rfl
    simp only [total, hlen]
    omega
  refine ⟨.tooLarge (saturate (total [front, (p.owned h).bytes.length, back])), ?_⟩
  rw [relocate_owned hs, Owned.grow, allocationSize_eq, if_neg htotal]
  rfl

theorem uniqueify_owned_or : Resized.owned (p.uniqueify h) = .ok ((p.owned h).setWritable true)
    ∨ Refused (p.uniqueify h) := by
  unfold uniqueify
  split
  · exact .inl rfl
  · exact .inr (refused_relocate hs hbig 0 0)

theorem push_owned_or (n : Nat) :
    Resized.owned (p.push h n) = ((p.owned h).push n).map (·.setWritable true)
      ∨ Refused (p.push h n) := by
  unfold Pool.push Owned.push
  by_cases hn : n ≤ (p.owned h).frame.start
  · rw [if_pos hn, if_pos (show n ≤ h.frame.start from hn)]
    rcases uniqueify_owned_or hs hbig with hown | hrefused
    · exact .inl (expandFront_owned hown hn)
    · exact .inr (hrefused.reframe _)
  · rw [if_neg (show ¬ n ≤ h.frame.start from hn)]
    exact .inr ((refused_relocate hs hbig _ _).reframe _)

theorem put_owned_or (n : Nat) :
    Resized.owned (p.put h n) = ((p.owned h).put n).map (·.setWritable true)
      ∨ Refused (p.put h n) := by
  have hfits : (p.owned h).frame.Fits (p.owned h).bytes.length := hs.fits h List.mem_cons_self
  unfold Pool.put Owned.put
  by_cases hn : n ≤ (p.owned h).tailroom
  · rw [if_pos hn, if_pos (show n ≤ p.tailroom h from hn)]
    rcases uniqueify_owned_or hs hbig with hown | hrefused
    · exact .inl (expandBack_owned hown (hfits.stop_add_le hn))
    · exact .inr (hrefused.reframe _)
  · rw [if_neg (show ¬ n ≤ p.tailroom h from hn)]
    exact .inr ((refused_relocate hs hbig _ _).reframe _)

theorem pushShared_owned_or (n : Nat) :
    Resized.owned (p.pushShared h n) = ((p.owned h).push n).map (·.setWritable false)
      ∨ Refused (p.pushShared h n) := by
  unfold pushShared
  by_cases hn : n ≤ (p.owned h).frame.start
  · have hself : Resized.owned (p, .ok h) = .ok (p.owned h) := rfl
    left
    rw [if_pos (show n ≤ h.frame.start from hn), demote_owned, expandFront_owned hself hn,
      Owned.push, if_pos hn]
  · rw [if_neg (show ¬ n ≤ h.frame.start from hn)]
    rcases push_owned_or hs hbig n with hown | hrefused
    · left
      rw [demote_owned, hown]
      cases (p.owned h).push n <;> rfl
    · exact .inr hrefused.demote

theorem putShared_owned_or (n : Nat) :
    Resized.owned (p.putShared h n) = ((p.owned h).put n).map (·.setWritable false)
      ∨ Refused (p.putShared h n) := by
  have hfits : (p.owned h).frame.Fits (p.owned h).bytes.length := hs.fits h List.mem_cons_self
  unfold putShared
  by_cases hn : n ≤ (p.owned h).tailroom
  · have hself : Resized.owned (p, .ok h) = .ok (p.owned h) := rfl
    left
    rw [if_pos (show n ≤ p.tailroom h from hn), demote_owned,
      expandBack_owned hself (hfits.stop_add_le hn), Owned.put, if_pos hn]
  · rw [if_neg (show ¬ n ≤ p.tailroom h from hn)]
    rcases put_owned_or hs hbig n with hown | hrefused
    · left
      rw [demote_owned, hown]
      cases (p.owned h).put n <;> rfl
    · exact .inr hrefused.demote

end

end Pool

namespace Owned

variable {o : Owned} {e : ResizeError} {n : Nat}

theorem grow_eq_error {front back : Nat} (hg : o.grow front back = .error e) :
    ∃ cause, e = .alloc cause := by
  unfold grow at hg
  split at hg
  · next cause _ =>
    cases hg
    exact ⟨cause, rfl⟩
  · cases hg

theorem push_eq_error (he : o.push n = .error e) : ∃ cause, e = .alloc cause := by
  unfold push at he
  split at he
  · cases he
  · exact grow_eq_error (map_eq_error he)

theorem put_eq_error (he : o.put n = .error e) : ∃ cause, e = .alloc cause := by
  unfold put at he
  split at he
  · cases he
  · exact grow_eq_error (map_eq_error he)

/-- Room is refused for want of memory only. -/
theorem error_of_makesRoom {how : Resizing} (hr : how.makesRoom = true)
    (he : o.resize how = .error e) : ∃ cause, e = .alloc cause := by
  cases how with
  | uniqueify => cases he
  | push n => exact push_eq_error (map_eq_error he)
  | put n => exact put_eq_error (map_eq_error he)
  | pushShared n => exact push_eq_error (map_eq_error he)
  | putShared n => exact put_eq_error (map_eq_error he)
  | _ => cases hr

end Owned

/-- **Making room does not depend on sharing**, but for the memory that a copy of a large buffer
would take. -/
theorem Resizing.makesRoom_owned {p : Pool} {h : Handle} {others : List Handle}
    (hs : p.Sound (h :: others)) {how : Resizing} (hr : how.makesRoom = true) :
    Resized.owned (how.apply p h) = (p.owned h).resize how ∨ Pool.Refused (how.apply p h) := by
  by_cases hl : p.limit h ≤ maxBuffer
  · exact .inl (how.apply_owned hs hl)
  cases how with
  | uniqueify => exact Pool.uniqueify_owned_or hs hl
  | push n => exact Pool.push_owned_or hs hl n
  | put n => exact Pool.put_owned_or hs hl n
  | pushShared n => exact Pool.pushShared_owned_or hs hl n
  | putShared n => exact Pool.putShared_owned_or hs hl n
  | _ => cases hr

namespace Session

variable {s : Session} {packet target name : String} {h : Handle} {o o' : Owned}

/-! ## Following a packet -/

/-- The packet under a name, seen as one with a buffer of its own. -/
def StandsFor (s : Session) (packet : String) (o : Owned) : Prop :=
  ∃ h, s.packets.find? packet = some h ∧ s.pool.owned h = o

theorem standsFor_update (s : Session) (packet : String) (g : Handle) :
    (s.update packet g).StandsFor packet (s.pool.owned g) :=
  ⟨g, s.find?_update packet g, rfl⟩

section

variable (hs : s.pool.Sound (h :: s.handles))

include hs

/-- A packet from outside of the session, put under a name. -/
theorem standsFor_store (name : String) : (s.store name h).StandsFor name (s.pool.owned h) := by
  refine ⟨h, (s.packets.find?_insert name name h).trans (if_pos rfl), ?_⟩
  unfold Session.store
  cases hf : s.packets.find? name with
  | none => rfl
  | some old =>
      have hold : s.pool.Sound (old :: h :: s.others name) :=
        hs.perm (((handles_perm hf).cons h).trans (.swap _ _ _))
      exact Pool.owned_congr (hold.keeps_release h List.mem_cons_self)

/-- The packets under other names are not touched by that. -/
theorem StandsFor.store (hp : s.StandsFor packet o) (hne : name ≠ packet) :
    (s.store name h).StandsFor packet o := by
  obtain ⟨g, hg, rfl⟩ := hp
  refine ⟨g, (s.packets.find?_insert name packet h).trans ((if_neg hne).trans hg), ?_⟩
  unfold Session.store
  cases hf : s.packets.find? name with
  | none => rfl
  | some old =>
      have hold : s.pool.Sound (old :: h :: s.others name) :=
        hs.perm (((handles_perm hf).cons h).trans (.swap _ _ _))
      have hlive : g ∈ h :: s.others name := List.mem_cons_of_mem _ (mem_others_of_ne hne hg)
      exact Pool.owned_congr (hold.keeps_release g hlive)

end

/-- A made packet is what it would be in any pool. -/
theorem standsFor_make {source : Source} (hs : s.Sound) (ho : Owned.make source = .ok o)
    (target : String) : (s.step (.make target source)).1.StandsFor target o := by
  have hmade := Pool.make_made s.pool source
  rw [ho] at hmade
  cases hmake : s.pool.make source with
  | error e =>
      rw [hmake] at hmade
      cases hmade
  | ok made =>
      obtain ⟨q, h⟩ := made
      rw [hmake] at hmade
      obtain rfl : q.owned h = o := Except.ok.inj hmade
      have hsound : q.Sound (h :: s.handles) := (Pool.make_admits hs hmake).sound
      have hstep : (s.step (.make target source)).1
          = ({ s with pool := q } : Session).store target h := by
        simp only [Session.step, Session.make, hmake]
      rw [hstep]
      exact standsFor_store (s := { s with pool := q }) hsound target

theorem done_make {source : Source} (ho : Owned.make source = .ok o) (target : String) :
    (s.step (.make target source)).2 = .done := by
  have hmade := Pool.make_made s.pool source
  rw [ho] at hmade
  obtain ⟨made, hmake, -⟩ := map_eq_ok hmade
  simp only [Session.step, Session.make, hmake]

section

variable {how : Resizing} (hf : s.packets.find? packet = some h)

include hf

theorem standsFor_resize (ho : Resized.owned (how.apply s.pool h) = .ok o) :
    (s.step (.resize packet how)).1.StandsFor packet o := by
  rcases happly : how.apply s.pool h with ⟨q, e | g⟩
  · rw [happly] at ho
    cases ho
  · rw [happly] at ho
    have hstep : (s.step (.resize packet how)).1
        = ({ s with pool := q } : Session).update packet g := resize_of_ok hf happly
    rw [hstep, ← Except.ok.inj ho]
    exact standsFor_update { s with pool := q } packet g

theorem allocFailed_resize (ho : Pool.Refused (how.apply s.pool h)) :
    ∃ e, (s.step (.resize packet how)).2 = .allocFailed e := by
  obtain ⟨e, he⟩ := ho
  rcases happly : how.apply s.pool h with ⟨q, e' | g⟩
  · rw [happly] at he
    obtain rfl : e' = .alloc e := Except.error.inj he
    refine ⟨e, ?_⟩
    simp only [Session.step, Session.resize, withPacket_some hf, happly]
  · rw [happly] at he
    cases he

end

theorem StandsFor.resize (hp : s.StandsFor packet o) (hs : s.Sound) {how : Resizing}
    (hl : o.bytes.length ≤ maxBuffer) (ho : o.resize how = .ok o') :
    (s.step (.resize packet how)).1.StandsFor packet o' := by
  obtain ⟨h, hf, rfl⟩ := hp
  exact standsFor_resize hf ((how.apply_owned (hs.focus hf) hl).trans ho)

theorem StandsFor.moved_resize (hp : s.StandsFor packet o) (hs : s.Sound) {how : Resizing}
    (hl : o.bytes.length ≤ maxBuffer) (ho : o.resize how = .ok o') :
    ∃ elsewhere, (s.step (.resize packet how)).2 = .moved elsewhere := by
  obtain ⟨h, hf, rfl⟩ := hp
  have howned := (how.apply_owned (hs.focus hf) hl).trans ho
  rcases happly : how.apply s.pool h with ⟨q, e | g⟩
  · rw [happly] at howned
    cases howned
  · simp only [Session.step, Session.resize, withPacket_some hf, happly]
    exact ⟨_, rfl⟩

/-- In a buffer of any size, room can be made unless memory for it is refused. -/
theorem StandsFor.makeRoom (hp : s.StandsFor packet o) (hs : s.Sound) {how : Resizing}
    (hr : how.makesRoom = true) :
    (∃ o', o.resize how = .ok o' ∧ (s.step (.resize packet how)).1.StandsFor packet o')
      ∨ ∃ e, (s.step (.resize packet how)).2 = .allocFailed e := by
  obtain ⟨h, hf, rfl⟩ := hp
  rcases Resizing.makesRoom_owned (hs.focus hf) hr with hown | hrefused
  · cases ho : (s.pool.owned h).resize how with
    | ok o' => exact .inl ⟨o', rfl, standsFor_resize hf (hown.trans ho)⟩
    | error e =>
        obtain ⟨cause, rfl⟩ := Owned.error_of_makesRoom hr ho
        exact .inr (allocFailed_resize hf ⟨cause, hown.trans ho⟩)
  · exact .inr (allocFailed_resize hf hrefused)

/-- A clone is what its original is, and neither may be written to. -/
theorem StandsFor.clone (hp : s.StandsFor packet o) (hs : s.Sound) (target : String) :
    (s.step (.clone packet target)).1.StandsFor packet (o.setWritable false)
      ∧ (s.step (.clone packet target)).1.StandsFor target (o.setWritable false) := by
  obtain ⟨h, hf, rfl⟩ := hp
  set q := (s.pool.clone h).1 with hq
  set other := (s.pool.clone h).2 with hother
  set before : Session := ({ s with pool := q } : Session).update packet h.toShared
  have hsound : before.pool.Sound (other :: before.handles) :=
    (Pool.Sound.clone (hs.focus hf)).perm ((handles_update _ _ _).symm.cons _)
  have hstep : (s.step (.clone packet target)).1 = before.store target other := by
    simp only [Session.step, Session.clone, withPacket_some hf]
    rfl
  have howned : ∀ g : Handle, g.buffer = h.buffer → g.frame = h.frame →
      g.annotations = h.annotations → g.writable = false →
      q.owned g = (s.pool.owned h).setWritable false := by
    intro g hb hframe ha hw
    have hbytes : q.bytes h.buffer = s.pool.bytes h.buffer := Pool.bytes_retain
    rw [Pool.owned, hb, hbytes, hframe, ha, hw]
    rfl
  have hnew : (before.store target other).StandsFor target
      ((s.pool.owned h).setWritable false) := by
    rw [← howned other rfl rfl rfl rfl]
    exact standsFor_store hsound target
  rw [hstep]
  refine ⟨?_, hnew⟩
  -- a clone may be put where its original was
  by_cases hsame : target = packet
  · rw [← hsame]
    exact hnew
  · rw [← howned h.toShared rfl rfl rfl rfl]
    exact StandsFor.store hsound (standsFor_update { s with pool := q } packet h.toShared) hsame

theorem StandsFor.adjust (hp : s.StandsFor packet o) {how : Adjustment}
    (ho : o.adjust how = .ok o') : (s.step (.adjust packet how)).1.StandsFor packet o' := by
  obtain ⟨h, hf, rfl⟩ := hp
  obtain ⟨frame, hframe, rfl⟩ : ∃ frame, how.apply h.frame (s.pool.limit h) = .ok frame
      ∧ { s.pool.owned h with frame := frame } = o' := map_eq_ok ho
  have hstep : (s.step (.adjust packet how)).1 = s.update packet { h with frame := frame } :=
    congrArg Prod.fst (adjust_of_ok hf hframe)
  rw [hstep]
  exact standsFor_update s packet { h with frame := frame }

theorem StandsFor.done_adjust (hp : s.StandsFor packet o) {how : Adjustment}
    (ho : o.adjust how = .ok o') : (s.step (.adjust packet how)).2 = .done := by
  obtain ⟨h, hf, rfl⟩ := hp
  obtain ⟨frame, hframe, -⟩ : ∃ frame, how.apply h.frame (s.pool.limit h) = .ok frame ∧ _ :=
    map_eq_ok ho
  exact congrArg Prod.snd (adjust_of_ok hf hframe)

end Session

end PacketPath
