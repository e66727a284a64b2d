import PacketPath.Proofs.Annotation.UserArea
import PacketPath.Proofs.Session.Conservation
import PacketPath.Proofs.Session.Descent

set_option autoImplicit false

/-! # Annotations belong to one handle

The annotations of a handle are those that it was born with, and what was done to them since. The
life of a handle remembers both, as a run is watched: which handle a command makes, clones or moves
to another place, and which annotations it is told to change. It never looks at the annotations
that handles have, and what goes into a user area goes into a plain memory here. `Lives.Tells.run`
says that these are the ones that come out if the life of a handle is lived again, and so that
nothing else ever changes them.
-/

namespace PacketPath

/-! ## Changes -/

/-- The annotations after a store into the user area, which is made as in a plain memory. One that
goes elsewhere changes nothing there. -/
def Annotations.store (a : Annotations) (w : UserWrite) : Annotations :=
  { a with block.user := .ofMemory (a.block.user.memory.store w) }

/-- The annotations after an operation on them; one that is refused changes nothing. -/
def Annotating.on (a : Annotations) : Annotating → Annotations
  | setByte i v => a.store (.byte i v)
  | setWord i v => a.store (.word i v)
  | setInt i v => a.store (.int i v)
  | setCounter v => { a with block.counter := v }
  | setDestination d => { a with block.destination := d }
  | setPacketType number =>
    { a with packetType := (PacketType.ofNumber? number).getD a.packetType }
  | setTimestamp t => { a with timestamp := t }
  | setDevice d => { a with device := d }
  | clear => {}

/-- What is done to the annotations of a handle. -/
inductive Edit
  | change (how : Annotating)
  /-- All of them are replaced by these. -/
  | takeOver (a : Annotations)

def Edit.on (a : Annotations) : Edit → Annotations
  | change how => how.on a
  | takeOver b => b

/-! ## Lives -/

/-- What is remembered of a handle: the annotations that it was born with, and what was done to them
since, the oldest first. -/
structure Life where
  birth : Annotations := {}
  edits : List Edit := []

namespace Life

/-- The annotations after everything that was done. -/
def now (l : Life) : Annotations := l.edits.foldl Edit.on l.birth

def edited (l : Life) (e : Option Edit) : Life := { l with edits := l.edits ++ e.toList }

theorem edited_none (l : Life) : l.edited none = l := by
  rw [edited, Option.toList_none, List.append_nil]

theorem now_edited_some (l : Life) (e : Edit) : (l.edited (some e)).now = e.on l.now := by
  rw [now, edited, Option.toList_some, List.foldl_append]
  rfl

end Life

/-- The lives of the handles at all places. -/
abbrev Lives := Place → Life

namespace Lives

/-- What a command does to the annotations of the handle at a place, if it does something. -/
def edit? (l : Lives) (s : Session) (c : Command) (a : Place) : Option Edit :=
  match c with
  | .annotate packet how => if a = .packet packet then some (.change how) else none
  | .copyAnnotations packet source =>
    if a = .packet packet ∧ s.packets.contains source then
      some (.takeOver (l (.packet source)).now)
    else none
  | _ => none

/-- The lives after a command that is executed in the session `s`. A clone is born with the
annotations that its original has at this moment. -/
def step (l : Lives) (s : Session) (c : Command) : Lives := fun a =>
  match s.descent c a with
  | .made => {}
  | .clone original => { birth := (l original).now }
  | .came before => (l before).edited (l.edit? s c before)

/-- The lives after a run from the session `s` on. -/
def run (l : Lives) (s : Session) : List Command → Lives
  | [] => l
  | c :: rest => (l.step s c).run (s.step c).1 rest

/-- The handles of a session have the annotations that their lives lead to. -/
def Tells (l : Lives) (s : Session) : Prop :=
  ∀ a h, s.handleAt a = some h → h.annotations = (l a).now

end Lives

/-! ## Changes of handles -/

namespace Annotating

variable {how : Annotating} {h g : Handle} {reply : Reply}

/-- An operation on a handle does to its annotations what it does to annotations. -/
theorem annotations_of_ok (hg : how.apply h = .ok g) : g.annotations = how.on h.annotations := by
  have hstore : ∀ w : UserWrite, h.setUser (h.annotations.block.user.write? w) = .ok g →
      g.annotations = h.annotations.store w := by
    intro w hu
    by_cases hw : w.InRange
    · obtain ⟨user, huser, hmemory⟩ := UserArea.write?_of_inRange hw h.annotations.block.user
      rw [huser] at hu
      cases hu
      rw [Annotations.store, ← hmemory, UserArea.ofMemory_memory]
    · -- a store that goes elsewhere has no result
      rw [UserArea.write?_of_not_inRange hw] at hu
      cases hu
  cases how with
  | setByte i v => exact hstore (.byte i v) hg
  | setWord i v => exact hstore (.word i v) hg
  | setInt i v => exact hstore (.int i v) hg
  | setPacketType number =>
      simp only [apply] at hg
      split at hg
      · next ht =>
        cases hg
        rw [on, ht]
        rfl
      · cases hg
  | _ =>
      cases hg
      rfl

/-- One that is refused does nothing to them. -/
theorem on_of_error (hr : how.apply h = .error reply) : how.on h.annotations = h.annotations := by
  have hstore : ∀ w : UserWrite, h.setUser (h.annotations.block.user.write? w) = .error reply →
      h.annotations.store w = h.annotations := by
    intro w hu
    by_cases hw : w.InRange
    · obtain ⟨user, huser, -⟩ := UserArea.write?_of_inRange hw h.annotations.block.user
      rw [huser] at hu
      cases hu
    · rw [Annotations.store, Memory.store_of_not_inRange hw, UserArea.ofMemory_memory]
  cases how with
  | setByte i v => exact hstore (.byte i v) hr
  | setWord i v => exact hstore (.word i v) hr
  | setInt i v => exact hstore (.int i v) hr
  | setPacketType number =>
      simp only [apply] at hr
      split at hr
      · cases hr
      · next ht =>
        rw [on, ht]
        rfl
  | _ => cases hr

end Annotating

/-- Whether a command leaves every handle that it keeps at its place, with its annotations. -/
def Command.leavesAnnotations : Command → Bool
  | .make .. | .clone .. | .annotate .. | .copyAnnotations .. | .process .. | .drain .. => false
  | _ => true

namespace Session

variable {s after : Session} {h g : Handle} {name packet : String} {c : Command} {l : Lives}

/-! ## Commands that do nothing to annotations -/

/-- Every handle of the session `after` was at the same place before, with the same annotations. -/
def LeavesAnnotations (s after : Session) : Prop :=
  ∀ a g, after.handleAt a = some g →
    ∃ h, s.handleAt a = some h ∧ g.annotations = h.annotations

theorem leavesAnnotations_refl (s : Session) : s.LeavesAnnotations s := fun _ g hg => ⟨g, hg, rfl⟩

theorem LeavesAnnotations.congr {after' : Session} (ha : s.LeavesAnnotations after)
    (hp : after'.packets = after.packets) (hq : after'.sinks = after.sinks) :
    s.LeavesAnnotations after' := fun a g hg => ha a g (by rwa [handleAt_congr hp hq] at hg)

/-- A packet that keeps its annotations. -/
theorem leavesAnnotations_update (hf : s.packets.find? name = some h)
    (ha : g.annotations = h.annotations) : s.LeavesAnnotations (s.update name g) := by
  intro a k hk
  rw [handleAt_update] at hk
  split at hk
  · next hplace =>
    subst hplace
    cases hk
    exact ⟨h, hf, ha⟩
  · exact ⟨k, hk, rfl⟩

theorem leavesAnnotations_remove (s : Session) (name : String) :
    s.LeavesAnnotations (s.remove name) := by
  intro a k hk
  rw [handleAt_remove] at hk
  split at hk
  · cases hk
  · exact ⟨k, hk, rfl⟩

theorem leavesAnnotations_withPacket {act : Handle → Session × Reply}
    (hact : ∀ h, s.packets.find? name = some h → s.LeavesAnnotations (act h).1) :
    s.LeavesAnnotations (s.withPacket name act).1 :=
  withPacket_cases (P := fun r => s.LeavesAnnotations r.1) s.leavesAnnotations_refl hact

theorem leavesAnnotations_withChecker {act : Checker → Session × Reply}
    (hact : ∀ c, s.LeavesAnnotations (act c).1) :
    s.LeavesAnnotations (s.withChecker name act).1 :=
  withChecker_cases (P := fun r => s.LeavesAnnotations r.1) s.leavesAnnotations_refl
    fun c _ => hact c

theorem leavesAnnotations_resize (hs : s.Sound) (packet : String) (how : Resizing) :
    s.LeavesAnnotations (s.resize packet how).1 := by
  cases hf : s.packets.find? packet with
  | none =>
      rw [Session.resize, withPacket_none hf]
      exact s.leavesAnnotations_refl
  | some h =>
      rcases happly : how.apply s.pool h with ⟨q, e | g⟩
      · rw [resize_of_error hf happly]
        exact (s.leavesAnnotations_remove packet).congr rfl rfl
      · rw [resize_of_ok hf happly]
        have hkept := Resizing.annotations_apply (hs.focus hf) happly
        exact (leavesAnnotations_update hf hkept).congr rfl rfl

theorem packets_ensureSink (s : Session) (sink : Option String) :
    (s.ensureSink sink).packets = s.packets := by
  cases sink with
  | none => rfl
  | some sink =>
      unfold ensureSink
      simp only
      split <;> rfl

theorem leavesAnnotations_createChecker (s : Session) (checker : String) (transport : Transport)
    (name : String) (settings : List (String × Bool)) (divert : Option String) :
    s.LeavesAnnotations (s.createChecker checker transport name settings divert).1 := by
  have hpackets : (s.createChecker checker transport name settings divert).1.packets
      = s.packets := by
    unfold Session.createChecker
    split
    · rfl
    · simp only
      split <;> exact s.packets_ensureSink divert
  have hqueue := s.queueOf_createChecker checker transport name settings divert
  intro a g hg
  refine ⟨g, ?_, rfl⟩
  cases a with
  | packet packet => rwa [handleAt, hpackets] at hg
  | queued sink position => rwa [handleAt, hqueue] at hg

theorem leavesAnnotations_step (hs : s.Sound) (hc : c.leavesAnnotations = true) :
    s.LeavesAnnotations (s.step c).1 := by
  have hsame := s.leavesAnnotations_refl
  cases c with
  | toShared packet =>
      exact leavesAnnotations_withPacket fun h hf => leavesAnnotations_update hf rfl
  | kill packet =>
      exact leavesAnnotations_withPacket fun h _ =>
        (s.leavesAnnotations_remove packet).congr rfl rfl
  | resize packet how => exact leavesAnnotations_resize hs packet how
  | write packet region position bytes =>
      refine leavesAnnotations_withPacket fun h _ => ?_
      split <;> exact hsame.congr rfl rfl
  | adjust packet how =>
      refine leavesAnnotations_withPacket fun h hf => ?_
      split
      · exact leavesAnnotations_update hf rfl
      · exact hsame
  | inquire packet what => exact leavesAnnotations_withPacket fun _ _ => hsame
  | sameAnnotations packet other | sameStorage packet other =>
      exact leavesAnnotations_withPacket fun _ _ => leavesAnnotations_withPacket fun _ _ => hsame
  | createChecker checker transport name settings divert =>
      exact s.leavesAnnotations_createChecker checker transport name settings divert
  | inspect checker => exact leavesAnnotations_withChecker fun _ => hsame
  | validate checker packet times =>
      exact leavesAnnotations_withChecker fun c => leavesAnnotations_withPacket fun h hf =>
        (leavesAnnotations_update (g := h.toShared) hf rfl).congr rfl rfl
  | readHandler checker handler =>
      refine leavesAnnotations_withChecker fun c => ?_
      split <;> exact hsame
  | sinkLength sink =>
      exact withSink_cases (P := fun r => s.LeavesAnnotations r.1) hsame fun _ _ => hsame
  | _ => cases hc

end Session

/-! ## Lives that tell the annotations -/

namespace Lives

open Session

variable {l : Lives} {s after : Session} {c : Command} {a b : Place}

theorem tells_empty (l : Lives) : l.Tells {} := by
  intro a h ha
  cases a <;> cases ha

theorem step_of_made (hd : s.descent c a = .made) : l.step s c a = {} := by
  rw [step, hd]

theorem step_of_clone (hd : s.descent c a = .clone b) :
    l.step s c a = { birth := (l b).now } := by
  rw [step, hd]

theorem step_of_came (hd : s.descent c a = .came b) :
    l.step s c a = (l b).edited (l.edit? s c b) := by
  rw [step, hd]

/-- A handle of which nothing is remembered but its place. -/
theorem step_of_moved (hd : s.descent c a = .came b) (he : l.edit? s c b = none) :
    l.step s c a = l b := by
  rw [step_of_came hd, he, Life.edited_none]

/-- Its annotations are told as they were at that place. -/
theorem Tells.moved {g : Handle} (ht : l.Tells s) (hd : s.descent c a = .came b)
    (he : l.edit? s c b = none) (hg : s.handleAt b = some g) :
    g.annotations = (l.step s c a).now := by
  rw [step_of_moved hd he]
  exact ht b g hg

/-- A command that leaves all annotations is not remembered. -/
theorem step_of_leavesAnnotations (hc : c.leavesAnnotations = true) : l.step s c = l := by
  funext a
  have hdescent : s.descent c a = .came a := by cases c <;> first | rfl | cases hc
  have hedit : l.edit? s c a = none := by cases c <;> first | rfl | cases hc
  exact step_of_moved hdescent hedit

theorem Tells.leaves (ht : l.Tells s) (ha : s.LeavesAnnotations after) : l.Tells after := by
  intro a g hg
  obtain ⟨h, hh, hkept⟩ := ha a g hg
  rw [hkept]
  exact ht a h hh

theorem Tells.make (ht : l.Tells s) (target : String) (source : Source) :
    (l.step s (.make target source)).Tells (s.make target source).1 := by
  intro a g hg
  unfold Session.make at hg
  cases hm : s.pool.make source with
  | error e =>
      have hd : s.descent (.make target source) a = .came a := by
        simp only [descent, hm, Except.isOk, Except.toBool, Bool.false_eq_true, and_false, if_false]
      rw [hm] at hg
      cases e <;> exact ht.moved hd rfl hg
  | ok made =>
      rw [hm] at hg
      replace hg := (handleAt_store _ target made.2 a).symm.trans hg
      by_cases ha : a = .packet target
      · have hd : s.descent (.make target source) a = .made := by
          simp only [descent, hm, ha, Except.isOk, Except.toBool, and_self, if_true]
        rw [if_pos ha] at hg
        cases hg
        rw [step_of_made hd]
        exact Pool.annotations_make hm
      · have hd : s.descent (.make target source) a = .came a := by
          simp only [descent, ha, false_and, if_false]
        rw [if_neg ha] at hg
        exact ht.moved hd rfl ((handleAt_congr rfl rfl a).symm.trans hg)

theorem Tells.clone (ht : l.Tells s) (packet target : String) :
    (l.step s (.clone packet target)).Tells (s.clone packet target).1 := by
  intro a g hg
  cases hf : s.packets.find? packet with
  | none =>
      have hd : s.descent (.clone packet target) a = .came a := by
        simp only [descent, Registry.contains, hf, Option.isSome_none, Bool.false_eq_true,
          and_false, if_false]
      rw [Session.clone, withPacket_none hf] at hg
      exact ht.moved hd rfl hg
  | some h =>
      rw [Session.clone, withPacket_some hf] at hg
      replace hg := (handleAt_store _ target (s.pool.clone h).2 a).symm.trans hg
      by_cases ha : a = .packet target
      · have hd : s.descent (.clone packet target) a = .clone (.packet packet) := by
          simp only [descent, Registry.contains, hf, ha, Option.isSome_some, and_self, if_true]
        rw [if_pos ha] at hg
        cases hg
        rw [step_of_clone hd]
        exact ht (.packet packet) h hf
      · have hd : s.descent (.clone packet target) a = .came a := by
          simp only [descent, ha, false_and, if_false]
        rw [if_neg ha] at hg
        rw [step_of_moved hd rfl]
        -- the original has only become a shared packet
        have hleaves : s.LeavesAnnotations (s.update packet h.toShared) :=
          leavesAnnotations_update hf rfl
        exact ht.leaves hleaves a g ((handleAt_congr rfl rfl a).symm.trans hg)

/-- A change is remembered of the packet that it is asked of, and of no other. -/
theorem Tells.edit {e : Edit} {packet : String} {h g : Handle} (ht : l.Tells s)
    (hd : ∀ a, s.descent c a = .came a)
    (he : ∀ a, l.edit? s c a = if a = .packet packet then some e else none)
    (hf : s.packets.find? packet = some h) (hg : g.annotations = e.on h.annotations) :
    (l.step s c).Tells (s.update packet g) := by
  intro a k hk
  rw [step_of_came (hd a), he]
  rw [handleAt_update] at hk
  by_cases ha : a = .packet packet
  · rw [if_pos ha] at hk ⊢
    cases hk
    subst ha
    rw [Life.now_edited_some, hg, ht (.packet packet) h hf]
  · rw [if_neg ha] at hk ⊢
    rw [Life.edited_none]
    exact ht a k hk

/-- Without a packet under the name there is none that a change would have to be remembered of. -/
theorem Tells.edit_absent {e : Edit} {packet : String} (ht : l.Tells s)
    (hd : ∀ a, s.descent c a = .came a)
    (he : ∀ a, l.edit? s c a = if a = .packet packet then some e else none)
    (hf : s.packets.find? packet = none) : (l.step s c).Tells s := by
  intro a k hk
  have ha : a ≠ .packet packet := by
    rintro rfl
    rw [handleAt, hf] at hk
    cases hk
  exact ht.moved (hd a) ((he a).trans (if_neg ha)) hk

/-- A change that is refused is remembered too, and does nothing when it is made again. -/
theorem Tells.edit_refused {e : Edit} {packet : String} {h : Handle} (ht : l.Tells s)
    (hd : ∀ a, s.descent c a = .came a)
    (he : ∀ a, l.edit? s c a = if a = .packet packet then some e else none)
    (hf : s.packets.find? packet = some h) (hsame : e.on h.annotations = h.annotations) :
    (l.step s c).Tells s := by
  intro a k hk
  rw [step_of_came (hd a), he]
  by_cases ha : a = .packet packet
  · subst ha
    obtain rfl : h = k := Option.some.inj (hf.symm.trans hk)
    rw [if_pos rfl, Life.now_edited_some, ← ht (.packet packet) h hf, hsame]
  · rw [if_neg ha, Life.edited_none]
    exact ht a k hk

theorem Tells.annotate (ht : l.Tells s) (packet : String) (how : Annotating) :
    (l.step s (.annotate packet how)).Tells (s.annotate packet how).1 := by
  have hd : ∀ a, s.descent (.annotate packet how) a = .came a := fun _ => rfl
  have he : ∀ a, l.edit? s (.annotate packet how) a
      = if a = .packet packet then some (.change how) else none := fun _ => rfl
  cases hf : s.packets.find? packet with
  | none =>
      rw [Session.annotate, withPacket_none hf]
      exact ht.edit_absent hd he hf
  | some h =>
      rw [Session.annotate, withPacket_some hf]
      cases happly : how.apply h with
      | ok g => exact ht.edit hd he hf (Annotating.annotations_of_ok happly)
      | error reply => exact ht.edit_refused hd he hf (Annotating.on_of_error happly)

theorem Tells.copyAnnotations (ht : l.Tells s) (packet source : String) :
    (l.step s (.copyAnnotations packet source)).Tells (s.copyAnnotations packet source).1 := by
  have hd : ∀ a, s.descent (.copyAnnotations packet source) a = .came a := fun _ => rfl
  cases ho : s.packets.find? source with
  | none =>
      have he : ∀ a, l.edit? s (.copyAnnotations packet source) a = none := fun a => by
        simp only [edit?, Registry.contains, ho, Option.isSome_none, Bool.false_eq_true, and_false,
          if_false]
      have hsame : (s.copyAnnotations packet source).1 = s := by
        refine withPacket_cases (P := fun r => r.1 = s) rfl fun h _ => ?_
        rw [withPacket_none ho]
      rw [hsame]
      exact fun a _ hg => ht.moved (hd a) (he a) hg
  | some other =>
      have he : ∀ a, l.edit? s (.copyAnnotations packet source) a
          = if a = .packet packet then some (.takeOver (l (.packet source)).now) else none :=
        fun a => by
          simp only [edit?, Registry.contains, ho, Option.isSome_some, and_true]
      cases hf : s.packets.find? packet with
      | none =>
          rw [Session.copyAnnotations, withPacket_none hf]
          exact ht.edit_absent hd he hf
      | some h =>
          rw [Session.copyAnnotations, withPacket_some hf, withPacket_some ho]
          exact ht.edit hd he hf (ht (.packet source) other ho)

theorem Tells.process (ht : l.Tells s) (checker packet : String) :
    (l.step s (.process checker packet)).Tells (s.process checker packet).1 := by
  -- unless the packet goes to a sink, every handle is where it was, or gone
  have hstay : s.divertTarget checker packet = none →
      s.LeavesAnnotations (s.process checker packet).1 →
      (l.step s (.process checker packet)).Tells (s.process checker packet).1 := by
    intro htarget hleaves a g hg
    have hd : s.descent (.process checker packet) a = .came a := by simp only [descent, htarget]
    rw [step_of_moved hd rfl]
    exact ht.leaves hleaves a g hg
  rcases s.process_outcome checker packet with ⟨hnone, hafter⟩
    | ⟨c, h, hc, hf, ⟨hv, hafter⟩ | ⟨reason, hv, ⟨hdivert, hafter⟩ | ⟨sink, hdivert, hafter⟩⟩⟩
  · refine hstay ?_ ?_
    · rcases hnone with hc | hf
      · simp only [divertTarget, hc]
      · rw [divertTarget, hf]
        cases s.checkers.find? checker <;> rfl
    · rw [hafter]
      exact s.leavesAnnotations_refl
  · refine hstay (by simp only [divertTarget, hc, hf, hv]) ?_
    rw [hafter]
    exact (leavesAnnotations_update (g := h.toShared) hf rfl).congr rfl rfl
  · refine hstay (by simp only [divertTarget, hc, hf, hv, hdivert]) ?_
    rw [hafter]
    exact (s.leavesAnnotations_remove packet).congr rfl rfl
  · have htarget : s.divertTarget checker packet = some sink := by
      simp only [divertTarget, hc, hf, hv, hdivert]
    intro a g hg
    rw [hafter, handleAt_enqueue] at hg
    by_cases ha : a = .queued sink (s.queueOf sink).length
    · have hd : s.descent (.process checker packet) a = .came (.packet packet) := by
        simp only [descent, htarget, ha, if_true]
      have hend : a = .queued sink (((s.checked checker c h).remove packet).queueOf sink).length :=
        ha
      rw [if_pos hend] at hg
      cases hg
      exact ht.moved (g := h) hd rfl hf
    · have hd : s.descent (.process checker packet) a = .came a := by
        simp only [descent, htarget, ha, if_false]
      have hend : a ≠ .queued sink (((s.checked checker c h).remove packet).queueOf sink).length :=
        ha
      rw [if_neg hend] at hg
      rw [step_of_moved hd rfl]
      exact ht.leaves (s.leavesAnnotations_remove packet) a g
        ((handleAt_congr rfl rfl a).symm.trans hg)

theorem Tells.drain (ht : l.Tells s) (sink target : String) :
    (l.step s (.drain sink target)).Tells (s.drain sink target).1 := by
  intro a g hg
  cases hq : s.sinks.find? sink with
  | none =>
      have hqueue : s.queueOf sink = [] := by rw [queueOf, hq]; rfl
      have hd : s.descent (.drain sink target) a = .came a := by
        cases a with
        | packet name => simp only [descent, hqueue]; rfl
        | queued _ _ => rfl
      rw [Session.drain, withSink, hq] at hg
      exact ht.moved hd rfl hg
  | some queue =>
      have hqueue : s.queueOf sink = queue := by rw [queueOf, hq]; rfl
      rw [Session.drain, withSink, hq] at hg
      cases a with
      | packet name =>
          simp only [handleAt, find?_storeAll] at hg
          cases hfrom : drainedFrom target queue.length name with
          | some i =>
              have hd : s.descent (.drain sink target) (.packet name) = .came (.queued sink i) := by
                simp only [descent, hqueue, hfrom]
              rw [hfrom] at hg
              exact ht.moved hd rfl (by rwa [handleAt, hqueue])
          | none =>
              have hd : s.descent (.drain sink target) (.packet name) = .came (.packet name) := by
                simp only [descent, hqueue, hfrom]
              rw [hfrom] at hg
              exact ht.moved hd rfl hg
      | queued sink' position =>
          refine ht.moved (b := .queued sink' position) rfl rfl ?_
          simp only [handleAt, queueOf_congr (sinks_storeAll _ target 0 queue), queueOf_insert]
            at hg
          split at hg
          · cases hg
          · exact hg

/-- **One command**: what is remembered of a handle goes on telling its annotations. -/
theorem Tells.step (ht : l.Tells s) (hs : s.Sound) (c : Command) :
    (l.step s c).Tells (s.step c).1 := by
  cases hc : c.leavesAnnotations with
  | true =>
      rw [step_of_leavesAnnotations hc]
      exact ht.leaves (leavesAnnotations_step hs hc)
  | false =>
      cases c with
      | make target source => exact ht.make target source
      | clone packet target => exact ht.clone packet target
      | annotate packet how => exact ht.annotate packet how
      | copyAnnotations packet source => exact ht.copyAnnotations packet source
      | process checker packet => exact ht.process checker packet
      | drain sink target => exact ht.drain sink target
      | _ => cases hc

/-- **Lives tell the annotations** after every run. -/
theorem Tells.run (ht : l.Tells s) (hs : s.Sound) (cs : List Command) :
    (l.run s cs).Tells (s.run cs) := by
  induction cs generalizing l s with
  | nil => exact ht
  | cons c rest ih => exact ih (ht.step hs c) (hs.step c)

/-- The lives of handles that were all born now. Where there is no handle, there is a life with the
given birth. -/
def ofSession (s : Session) (absent : Annotations) : Lives := fun a =>
  { birth := ((s.handleAt a).map (·.annotations)).getD absent }

theorem tells_ofSession (s : Session) (absent : Annotations) : (ofSession s absent).Tells s := by
  intro a h ha
  show h.annotations = ((s.handleAt a).map (·.annotations)).getD absent
  rw [ha]
  rfl

end Lives

/-- Whether a command is to change the annotations of the handle at a place. -/
def Command.edits : Command → Place → Bool
  | .annotate packet _, a | .copyAnnotations packet _, a => a = .packet packet
  | _, _ => false

namespace Session

variable {s : Session} {c : Command} {a b : Place} {packet source : String} {h g other : Handle}

/-- A handle that was there before a command has the annotations that it had, unless the command is
to change them. -/
theorem Sound.annotations_kept (hs : s.Sound) (hg : (s.step c).1.handleAt a = some g)
    (hd : s.descent c a = .came b) (hc : c.edits b = false) :
    ∃ h, s.handleAt b = some h ∧ g.annotations = h.annotations := by
  have htold : ∀ absent, g.annotations = ((s.handleAt b).map (·.annotations)).getD absent := by
    intro absent
    have hedit : (Lives.ofSession s absent).edit? s c b = none := by
      cases c with
      | annotate packet how => exact if_neg (of_decide_eq_false hc)
      | copyAnnotations packet source => exact if_neg fun h => of_decide_eq_false hc h.1
      | _ => rfl
    have ht := (Lives.tells_ofSession s absent).step hs c a g hg
    rwa [Lives.step_of_moved hd hedit] at ht
  cases hb : s.handleAt b with
  | some h => exact ⟨h, rfl, by rw [htold {}, hb]; rfl⟩
  | none =>
      -- a handle that was nowhere before could have any annotations
      have hany : ∀ absent : Annotations, g.annotations = absent := fun absent => by
        rw [htold absent, hb]
        rfl
      have hdiffer : ({} : Annotations) = { packetType := .loopback } :=
        (hany _).symm.trans (hany _)
      exact absurd hdiffer (by decide)

theorem view_update (s : Session) (packet : String) (g : Handle) :
    (s.update packet g).view packet = some (s.pool.observe g) := by
  rw [view, find?_update, Option.map_some]
  rfl

theorem step_copyAnnotations (hf : s.packets.find? packet = some h)
    (ho : s.packets.find? source = some other) : s.step (.copyAnnotations packet source)
      = (s.update packet { h with annotations := other.annotations }, .done) := by
  rw [Session.step, Session.copyAnnotations, withPacket_some hf, withPacket_some ho]

theorem step_clear (hf : s.packets.find? packet = some h) : s.step (.annotate packet .clear)
    = (s.update packet h.clearAnnotations, .annotations {}) := by
  rw [Session.step, Session.annotate, withPacket_some hf]
  rfl

end Session

/-- What the lives of handles say about the annotations in a session. -/
structure AnnotationsTold (l : Lives) (s : Session) : Prop where
  /-- The annotations of a handle are what comes out if its life is lived again. -/
  told : ∀ a h, s.handleAt a = some h → h.annotations = (l a).now
  /-- No command that is not to change the annotations of a handle changes them, wherever it moves
  the handle. -/
  kept : ∀ c a b g, (s.step c).1.handleAt a = some g → s.descent c a = .came b →
    c.edits b = false → ∃ h, s.handleAt b = some h ∧ g.annotations = h.annotations
  /-- All annotations of another packet can be taken over. The header marks, the window and the
  bytes stay as they are, and so does every other packet. -/
  copied : ∀ packet source h other, s.packets.find? packet = some h →
    s.packets.find? source = some other →
    let after := (s.step (.copyAnnotations packet source)).1
    s.Becomes packet { h with annotations := other.annotations } after
      ∧ after.view packet = s.view packet
  /-- All annotations can be reset. Then the header is not marked any more either. -/
  cleared : ∀ packet h, s.packets.find? packet = some h →
    let after := (s.step (.annotate packet .clear)).1
    s.Becomes packet { h with annotations := {}, frame := { h.frame with marks := none } } after
      ∧ after.view packet = (s.view packet).map fun v => { v with header := none }
  /-- There is at most one destination. -/
  one_destination : ∀ a h, s.handleAt a = some h →
    h.annotations.block.destination.ipv4? = none ∨ h.annotations.block.destination.ipv6? = none

/-- **Annotations belong to one handle.** In every run, those of a handle are the ones that it was
born with, changed by what was asked of this handle since. -/
theorem annotations_told (cs : List Command) :
    AnnotationsTold (Lives.run (fun _ => {}) {} cs) (({} : Session).run cs) where
  told := (Lives.tells_empty _).run Session.sound_empty cs
  kept := fun _ _ _ _ hg hd hc => (Session.sound_empty.run cs).annotations_kept hg hd hc
  copied := fun packet source h other hf ho => by
    rw [Session.step_copyAnnotations hf ho]
    refine ⟨(Session.becomes_refl hf).update _, (Session.view_update _ packet _).trans ?_⟩
    rw [Session.view, hf]
    rfl
  cleared := fun packet h hf => by
    rw [Session.step_clear hf]
    refine ⟨(Session.becomes_refl hf).update _, (Session.view_update _ packet _).trans ?_⟩
    rw [Session.view, hf]
    rfl
  one_destination := fun a h _ => by
    cases h.annotations.block.destination with
    | unset => exact .inl rfl
    | v4 ip => exact .inr rfl
    | v6 ip => exact .inl rfl

/-- A clone is born with what its original had been told until then, and has taken it along through
a sink when it is told something itself. -/
example :
    let cs : List Command := [.make "p" (.copy 0 [1, 2] 0), .annotate "p" (.setCounter 1),
      .clone "p" "c", .annotate "p" (.setCounter 2), .createChecker "k" .udp "k" [] (some "s"),
      .process "k" "c", .drain "s" "d", .annotate "d0" (.setTimestamp ⟨3, 4⟩)]
    let life := Lives.run (fun _ => {}) {} cs (.packet "d0")
    life.birth.block.counter = 1 ∧ life.edits.length = 1 ∧ life.now.timestamp = ⟨3, 4⟩ := by
  decide +kernel

end PacketPath
