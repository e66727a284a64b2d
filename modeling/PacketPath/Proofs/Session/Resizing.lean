import PacketPath.Proofs.DeepCopy.Widened
import PacketPath.Proofs.Session.Places

set_option autoImplicit false

/-! # Resizing in a session

What a session makes of an operation that resizes a packet: where the packet is then, what is
answered, and what is read of the packet if the operation has made it the only one on its buffer.
-/

namespace PacketPath

namespace Pool

variable {p q : Pool} {live : List Handle} {h k : Handle}

/-! ## Being alone, and being among others -/

/-- A live handle is shared exactly if it is not the owner of its buffer. -/
theorem Sound.shared_eq_false_iff (hs : p.Sound live) (hh : h ∈ live) :
    p.shared h = false ↔ p.exclusive h = true := by
  have hpos := hs.uses_pos hh
  rw [Pool.exclusive_iff, Pool.shared, Bool.or_eq_false_iff, decide_eq_false_iff_not]
  exact and_congr_right fun _ => by omega

/-- What is read of a packet that is alone on its buffer. -/
theorem observe_of_exclusive (hex : p.exclusive h = true) : p.observe h = (p.owned h).view := by
  obtain ⟨hcloned, huses⟩ := exclusive_iff.mp hex
  rw [observe_eq, shared, hcloned, huses]
  rfl

/-- A handle whose bytes are kept sees no more than a change in how they are shared. -/
theorem Keeps.observe_eq (hk : p.Keeps q live) (hm : k ∈ live) :
    q.observe k
      = { p.observe k with shared := q.shared k, uses := q.uses k.buffer } := by
  rw [Pool.observe_eq, Pool.observe_eq p, owned_congr (hk k hm)]

/-- Without a change in the count nothing is seen. -/
theorem Keeps.observe_congr (hk : p.Keeps q live) (hm : k ∈ live)
    (hu : q.uses k.buffer = p.uses k.buffer) : q.observe k = p.observe k := by
  rw [hk.observe_eq hm, Pool.shared, hu]
  rfl

end Pool

/-! ## The step of a session -/

namespace Session

variable {s : Session} {packet : String} {h g : Handle} {q : Pool} {how : Resizing}

/-- The pool after an operation is what the operation leaves. -/
theorem pool_step_resize (hf : s.packets.find? packet = some h) :
    (s.step (.resize packet how)).1.pool = (how.apply s.pool h).1 := by
  rcases happly : how.apply s.pool h with ⟨q, e | g⟩
  · exact congrArg Session.pool (resize_of_error hf happly)
  · exact congrArg Session.pool (resize_of_ok hf happly)

/-- The handles at other places are not touched. -/
theorem handleAt_step_resize_of_ne {a : Place} (hf : s.packets.find? packet = some h)
    (hne : a ≠ .packet packet) : (s.step (.resize packet how)).1.handleAt a = s.handleAt a := by
  show (s.resize packet how).1.handleAt a = _
  rcases happly : how.apply s.pool h with ⟨q, e | g⟩
  · rw [resize_of_error hf happly, handleAt_remove, if_neg hne]
    cases a <;> rfl
  · rw [resize_of_ok hf happly, handleAt_update, if_neg hne]
    cases a <;> rfl

/-- Two operations that do the same to a packet do the same in a session. -/
theorem step_resize_congr {how' : Resizing} (hf : s.packets.find? packet = some h)
    (happly : how.apply s.pool h = how'.apply s.pool h) :
    s.step (.resize packet how) = s.step (.resize packet how') := by
  simp only [Session.step, Session.resize, withPacket_some hf, happly]

/-- An operation that leaves the pool as it is changes what stands under the name, and nothing
else. -/
theorem step_resize_inPlace (hf : s.packets.find? packet = some h)
    (happly : how.apply s.pool h = (s.pool, .ok g)) :
    s.step (.resize packet how) = (s.update packet g, .moved (s.movedElsewhere h g)) := by
  simp only [Session.step, Session.resize, withPacket_some hf, happly]

theorem step_resize_of_ok (hf : s.packets.find? packet = some h)
    (happly : how.apply s.pool h = (q, .ok g)) :
    (s.step (.resize packet how)).1.packets.find? packet = some g
      ∧ (s.step (.resize packet how)).1.pool = q
      ∧ ∃ elsewhere, (s.step (.resize packet how)).2 = .moved elsewhere := by
  have hstep : (s.step (.resize packet how)).1 = ({ s with pool := q } : Session).update packet g :=
    resize_of_ok hf happly
  refine ⟨?_, ?_, ?_⟩
  · rw [hstep]
    exact find?_update _ packet g
  · rw [hstep]
    rfl
  · simp only [Session.step, Session.resize, withPacket_some hf, happly]
    exact ⟨_, rfl⟩

/-- A packet that could not be resized is gone. -/
theorem find?_step_resize_of_error {e : ResizeError} (hf : s.packets.find? packet = some h)
    (happly : how.apply s.pool h = (q, .error e)) :
    (s.step (.resize packet how)).1.packets.find? packet = none := by
  have hstep : (s.step (.resize packet how)).1 = ({ s with pool := q } : Session).remove packet :=
    resize_of_error hf happly
  rw [hstep, Session.remove, Registry.find?_erase, if_pos rfl]

theorem step_resize_of_refused {e : AllocError} (hf : s.packets.find? packet = some h)
    (happly : Resized.owned (how.apply s.pool h) = .error (.alloc e)) :
    (s.step (.resize packet how)).1.packets.find? packet = none
      ∧ (s.step (.resize packet how)).2 = .allocFailed e := by
  rcases hr : how.apply s.pool h with ⟨q, e' | g⟩
  · rw [hr] at happly
    obtain rfl : e' = .alloc e := Except.error.inj happly
    refine ⟨find?_step_resize_of_error hf hr, ?_⟩
    simp only [Session.step, Session.resize, withPacket_some hf, hr]
  · rw [hr] at happly
    cases happly

/-- A packet that was made writable is read as one with a buffer of its own. -/
theorem Sound.step_resize_of_owns {o : Owned} (hs : s.Sound)
    (hf : s.packets.find? packet = some h) (howns : how.owns = true)
    (ho : Resized.owned (how.apply s.pool h) = .ok o) :
    ∃ g elsewhere, (s.step (.resize packet how)).1.packets.find? packet = some g
      ∧ (s.step (.resize packet how)).2 = .moved elsewhere
      ∧ (s.step (.resize packet how)).1.pool.observe g = o.view
      ∧ g.annotations = o.annotations
      ∧ how.apply s.pool h = ((s.step (.resize packet how)).1.pool, .ok g) := by
  rcases happly : how.apply s.pool h with ⟨q, e | g⟩
  · rw [happly] at ho
    cases ho
  · rw [happly] at ho
    obtain ⟨hfound, hpool, elsewhere, hreply⟩ := step_resize_of_ok hf happly
    have hg : q.owned g = o := Except.ok.inj ho
    have hex := Resizing.exclusive_of_owns (hs.focus hf) howns happly
    refine ⟨g, elsewhere, hfound, hreply, ?_, ?_, ?_⟩
    · rw [hpool, Pool.observe_of_exclusive hex, hg]
    · rw [← hg]
      rfl
    · rw [hpool]

end Session

end PacketPath
