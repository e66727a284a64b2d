import PacketPath.Proofs.Pool.Making
import PacketPath.Session.Basic

set_option autoImplicit false

/-! # Sessions that account for their handles

The live handles of a session are those under names and those in sinks. Each command changes the
place of one handle, or of a queue of them; what becomes of the pool is then a matter of the
operation that the command calls. `Session.Sound` holds of the empty session and is kept by every
command, hence by every run.
-/

namespace PacketPath

/-! ## Changes in place -/

/-- An adjusted frame stays inside the buffer. -/
theorem Adjustment.apply_fits {f g : Frame} {limit : Nat} (how : Adjustment) (hf : f.Fits limit)
    (hg : how.apply f limit = .ok g) : g.Fits limit := by
  cases how with
  | pull n => exact hf.pull (mapError_eq_ok hg)
  | take n => exact hf.take (mapError_eq_ok hg)
  | reposition headroom length => exact hf.reposition (mapError_eq_ok hg)
  | markHeader offset length => exact hf.markHeader (mapError_eq_ok hg)
  | clearMarks =>
      cases hg
      exact hf.clearMarks

/-- An annotation changes nothing about the buffer, and at most clears the marks. -/
theorem Annotating.apply_keeps {h g : Handle} (how : Annotating) (hg : how.apply h = .ok g) :
    g.buffer = h.buffer ∧ g.cloned = h.cloned ∧ g.writable = h.writable
      ∧ (g.frame = h.frame ∨ g.frame = h.frame.clearMarks) := by
  have huser : ∀ u, h.setUser u = .ok g → g.buffer = h.buffer ∧ g.cloned = h.cloned
      ∧ g.writable = h.writable ∧ (g.frame = h.frame ∨ g.frame = h.frame.clearMarks) := by
    intro u hu
    cases u with
    | none => cases hu
    | some user =>
        cases hu
        exact ⟨rfl, rfl, rfl, .inl rfl⟩
  cases how with
  | setByte i v => exact huser _ hg
  | setWord i v => exact huser _ hg
  | setInt i v => exact huser _ hg
  | setPacketType number =>
      simp only [Annotating.apply] at hg
      split at hg
      · cases hg
        exact ⟨rfl, rfl, rfl, .inl rfl⟩
      · cases hg
  | clear =>
      cases hg
      exact ⟨rfl, rfl, rfl, .inr rfl⟩
  | _ =>
      cases hg
      exact ⟨rfl, rfl, rfl, .inl rfl⟩

theorem Annotating.apply_fits {h g : Handle} {limit : Nat} (how : Annotating)
    (hg : how.apply h = .ok g) (hf : h.frame.Fits limit) : g.frame.Fits limit := by
  obtain ⟨-, -, -, hframe | hframe⟩ := how.apply_keeps hg
  · rwa [hframe]
  · rw [hframe]
    exact hf.clearMarks

namespace Session

open scoped List

/-- The pool accounts for the handles under names and in sinks. -/
def Sound (s : Session) : Prop := s.pool.Sound s.handles

/-- The live handles apart from the one under a name. -/
def others (s : Session) (name : String) : List Handle :=
  (s.packets.erase name).values ++ s.sinks.values.flatten

variable {s : Session} {name sink : String} {h : Handle} {queue : List Handle}

/-! ## Where the handles are -/

theorem handles_perm (hf : s.packets.find? name = some h) :
    s.handles ~ h :: s.others name :=
  (Registry.values_perm hf).append_right _

theorem mem_handles_of_find (hf : s.packets.find? name = some h) : h ∈ s.handles :=
  (handles_perm hf).mem_iff.mpr List.mem_cons_self

theorem mem_others_of_ne {name' : String} (hne : name ≠ name')
    (hf : s.packets.find? name' = some h) : h ∈ s.others name := by
  refine List.mem_append_left _ ((Registry.mem_values_iff _ _).mpr ⟨name', ?_⟩)
  rw [Registry.find?_erase, if_neg hne]
  exact hf

theorem others_eq_handles (hf : s.packets.find? name = none) : s.others name = s.handles := by
  rw [others, Registry.erase_eq_self hf, handles]

theorem find?_update (s : Session) (name : String) (h : Handle) :
    (s.update name h).packets.find? name = some h :=
  (s.packets.find?_insert name name h).trans (if_pos rfl)

theorem handles_update (s : Session) (name : String) (h : Handle) :
    (s.update name h).handles ~ h :: s.others name :=
  (s.packets.values_insert_perm name h).append_right _

/-- The queues apart from the one of a sink. -/
def otherQueues (s : Session) (sink : String) : List Handle :=
  s.packets.values ++ (s.sinks.erase sink).values.flatten

theorem handles_of_queue (hq : s.sinks.find? sink = some queue) :
    s.handles ~ queue ++ s.otherQueues sink := by
  have hp : s.sinks.values.flatten ~ queue ++ (s.sinks.erase sink).values.flatten := by
    have := (Registry.values_perm hq).flatten
    rwa [List.flatten_cons] at this
  calc s.handles
      _ ~ s.packets.values ++ s.sinks.values.flatten := .refl _
      _ ~ s.packets.values ++ (queue ++ (s.sinks.erase sink).values.flatten) := hp.append_left _
      _ ~ queue ++ s.otherQueues sink := List.perm_append_comm_assoc _ _ _

theorem handles_of_no_queue (hq : s.sinks.find? sink = none) : s.otherQueues sink = s.handles := by
  rw [otherQueues, Registry.erase_eq_self hq, handles]

theorem handles_insert_queue (s : Session) (sink : String) (queue : List Handle) :
    ({ s with sinks := s.sinks.insert sink queue } : Session).handles
      ~ queue ++ s.otherQueues sink := by
  have hp : (s.sinks.insert sink queue).values.flatten
      ~ queue ++ (s.sinks.erase sink).values.flatten := by
    have := (s.sinks.values_insert_perm sink queue).flatten
    rwa [List.flatten_cons] at this
  calc ({ s with sinks := s.sinks.insert sink queue } : Session).handles
      _ ~ s.packets.values ++ (s.sinks.insert sink queue).values.flatten := .refl _
      _ ~ s.packets.values ++ (queue ++ (s.sinks.erase sink).values.flatten) := hp.append_left _
      _ ~ queue ++ s.otherQueues sink := List.perm_append_comm_assoc _ _ _

theorem handles_enqueue (s : Session) (sink : String) (h : Handle) :
    (s.enqueue sink h).handles ~ h :: s.handles := by
  refine (s.handles_insert_queue sink _).trans ?_
  cases hq : s.sinks.find? sink with
  | none =>
      rw [handles_of_no_queue hq]
      exact .refl _
  | some queue =>
      have hswap : queue ++ [h] ++ s.otherQueues sink ~ h :: (queue ++ s.otherQueues sink) := by
        rw [List.append_assoc]
        exact List.perm_middle
      exact hswap.trans ((handles_of_queue hq).symm.cons h)

theorem pool_ensureSink (s : Session) (sink : Option String) : (s.ensureSink sink).pool = s.pool := by
  cases sink with
  | none => rfl
  | some sink =>
      unfold ensureSink
      simp only
      split <;> rfl

theorem handles_ensureSink (s : Session) (sink : Option String) :
    (s.ensureSink sink).handles ~ s.handles := by
  cases sink with
  | none => exact .refl _
  | some sink =>
      unfold ensureSink
      simp only
      split
      · exact .refl _
      · next hc =>
        have hq : s.sinks.find? sink = none := by
          simpa [Registry.contains] using hc
        refine (s.handles_insert_queue sink []).trans ?_
        rw [handles_of_no_queue hq]
        exact .refl _

/-! ## Storing and taking away -/

theorem sound_empty : ({} : Session).Sound := Pool.sound_empty

/-- The account with one handle in front. -/
theorem Sound.focus (hs : s.Sound) (hf : s.packets.find? name = some h) :
    s.pool.Sound (h :: s.others name) :=
  Pool.Sound.perm hs (handles_perm hf)

theorem sound_update {pool : Pool} (hs : pool.Sound (h :: s.others name)) :
    ({ s with pool := pool }.update name h).Sound :=
  hs.perm (handles_update s name h).symm

theorem sound_remove {pool : Pool} (hs : pool.Sound (s.others name)) :
    ({ s with pool := pool }.remove name).Sound := hs

/-- Storing takes a handle from outside the session to its name, and releases what was there. The
handles in `outside` stay where they are. -/
theorem sound_store (outside : List Handle) (hs : s.pool.Sound (h :: (outside ++ s.handles))) :
    (s.store name h).pool.Sound (outside ++ (s.store name h).handles) := by
  have hnew : (s.store name h).handles ~ h :: s.others name := handles_update s name h
  have hgoal : h :: (outside ++ s.others name) ~ outside ++ (s.store name h).handles :=
    List.perm_middle.symm.trans (hnew.symm.append_left outside)
  unfold store
  simp only
  cases hf : s.packets.find? name with
  | none =>
      rw [others_eq_handles hf] at hgoal
      exact hs.perm hgoal
  | some old =>
      -- only the old handle goes; the others have changed their order
      have hold : h :: (outside ++ s.handles) ~ old :: h :: (outside ++ s.others name) := by
        have hout : outside ++ s.handles ~ old :: (outside ++ s.others name) :=
          ((handles_perm hf).append_left outside).trans List.perm_middle
        exact (hout.cons h).trans (.swap _ _ _)
      exact ((hs.perm hold).release).perm hgoal

theorem sound_storeAll {target : String} {i : Nat} (hs : s.pool.Sound (queue ++ s.handles)) :
    (s.storeAll target i queue).Sound := by
  -- the packets that are still to be stored count as live outside the session
  induction queue generalizing s i with
  | nil => exact hs
  | cons h rest ih => exact ih (sound_store rest hs)

/-! ## Commands -/

theorem withPacket_some (hf : s.packets.find? name = some h) (act : Handle → Session × Reply) :
    s.withPacket name act = act h := by
  rw [withPacket, hf]

theorem withPacket_none (hf : s.packets.find? name = none) (act : Handle → Session × Reply) :
    s.withPacket name act = (s, .noPacket) := by
  rw [withPacket, hf]

/-- A packet that was resized is under its name again. -/
theorem resize_of_ok {packet : String} {how : Resizing} {pool : Pool} {after : Handle}
    (hf : s.packets.find? packet = some h) (happly : how.apply s.pool h = (pool, .ok after)) :
    (s.resize packet how).1 = { s with pool := pool }.update packet after := by
  rw [Session.resize, withPacket_some hf, happly]

/-- A packet that could not be resized is gone. -/
theorem resize_of_error {packet : String} {how : Resizing} {pool : Pool} {e : ResizeError}
    (hf : s.packets.find? packet = some h) (happly : how.apply s.pool h = (pool, .error e)) :
    (s.resize packet how).1 = { s with pool := pool }.remove packet := by
  rw [Session.resize, withPacket_some hf, happly]
  cases e <;> rfl

/-- A packet that was adjusted is under its name with another frame. -/
theorem adjust_of_ok {packet : String} {how : Adjustment} {f : Frame}
    (hf : s.packets.find? packet = some h) (happly : how.apply h.frame (s.pool.limit h) = .ok f) :
    s.adjust packet how = (s.update packet { h with frame := f }, .done) := by
  rw [Session.adjust, withPacket_some hf, happly]

/-- An adjustment that is refused changes nothing. -/
theorem adjust_of_error {packet : String} {how : Adjustment} {reply : Reply}
    (hf : s.packets.find? packet = some h)
    (happly : how.apply h.frame (s.pool.limit h) = .error reply) :
    s.adjust packet how = (s, reply) := by
  rw [Session.adjust, withPacket_some hf, happly]

/-- To show something of an action on the packet under a name, show it of the action on any packet
and of the answer that there is none. -/
theorem withPacket_cases {P : Session × Reply → Prop} {act : Handle → Session × Reply}
    (hnone : P (s, .noPacket)) (hact : ∀ h, s.packets.find? name = some h → P (act h)) :
    P (s.withPacket name act) := by
  unfold withPacket
  split
  · next h hf => exact hact h hf
  · exact hnone

theorem withChecker_cases {P : Session × Reply → Prop} {act : Checker → Session × Reply}
    (hnone : P (s, .noChecker)) (hact : ∀ c, s.checkers.find? name = some c → P (act c)) :
    P (s.withChecker name act) := by
  unfold withChecker
  split
  · next c hc => exact hact c hc
  · exact hnone

theorem withSink_cases {P : Session × Reply → Prop} {act : List Handle → Session × Reply}
    (hnone : P (s, .noSink)) (hact : ∀ queue, s.sinks.find? name = some queue → P (act queue)) :
    P (s.withSink name act) := by
  unfold withSink
  split
  · next queue hq => exact hact queue hq
  · exact hnone

theorem withPacket_sound {act : Handle → Session × Reply} (hs : s.Sound)
    (hact : ∀ h, s.packets.find? name = some h → (act h).1.Sound) :
    (s.withPacket name act).1.Sound :=
  withPacket_cases (P := fun after => after.1.Sound) hs hact

section Process

variable {checker packet : String} {c : Checker}

/-- The session in which a packet has been checked but not yet moved. -/
def checked (s : Session) (checker : String) (c : Checker) (h : Handle) : Session :=
  s.updateChecker checker (c.validateTimes (s.pool.headerViews h) 0).checker

theorem process_of_pass (hc : s.checkers.find? checker = some c)
    (hf : s.packets.find? packet = some h)
    (hv : (c.validateTimes (s.pool.headerViews h) 0).verdict = .ok ()) :
    (s.process checker packet).1 = (s.checked checker c h).update packet h.toShared := by
  simp only [Session.process, withChecker, hc, withPacket_some hf, hv, checked]

theorem process_of_divert {reason : DropReason} (hc : s.checkers.find? checker = some c)
    (hf : s.packets.find? packet = some h)
    (hv : (c.validateTimes (s.pool.headerViews h) 0).verdict = .error reason)
    (hd : c.divert = some sink) : (s.process checker packet).1
      = ((s.checked checker c h).remove packet).enqueue sink h.toShared := by
  simp only [Session.process, withChecker, hc, withPacket_some hf, hv, hd, checked]

theorem process_of_release {reason : DropReason} (hc : s.checkers.find? checker = some c)
    (hf : s.packets.find? packet = some h)
    (hv : (c.validateTimes (s.pool.headerViews h) 0).verdict = .error reason)
    (hd : c.divert = none) :
    (s.process checker packet).1 = (s.checked checker c h).drop packet h := by
  simp only [Session.process, withChecker, hc, withPacket_some hf, hv, hd, checked]

end Process

theorem withChecker_sound {act : Checker → Session × Reply} (hs : s.Sound)
    (hact : ∀ c, (act c).1.Sound) : (s.withChecker name act).1.Sound :=
  withChecker_cases (P := fun after => after.1.Sound) hs fun c _ => hact c

theorem withSink_sound {act : List Handle → Session × Reply} (hs : s.Sound)
    (hact : ∀ queue, s.sinks.find? name = some queue → (act queue).1.Sound) :
    (s.withSink name act).1.Sound :=
  withSink_cases (P := fun after => after.1.Sound) hs hact

/-- A packet that changes in place: its buffer and its descent are the same, its frame fits, and it
does not become writable. -/
theorem Sound.changed {g : Handle} (hs : s.Sound) (hf : s.packets.find? name = some h)
    (hb : g.buffer = h.buffer) (hc : g.cloned = h.cloned)
    (hw : g.writable = true → h.writable = true) (hfit : g.frame.Fits (s.pool.limit h)) :
    (s.update name g).Sound := by
  have hfocus := hs.focus hf
  have hex : g.writable = true → s.pool.exclusive h = true := fun hg =>
    hfocus.exclusive h List.mem_cons_self (hw hg)
  exact sound_update (hfocus.exchange hb hc hex hfit)

theorem Sound.fits (hs : s.Sound) (hf : s.packets.find? name = some h) :
    h.frame.Fits (s.pool.limit h) :=
  Pool.Sound.fits (hs.focus hf) h List.mem_cons_self

theorem Sound.toShared (hs : s.Sound) (hf : s.packets.find? name = some h) :
    (s.update name h.toShared).Sound := by
  have hfit := hs.fits hf
  exact hs.changed hf rfl rfl (fun hw => nomatch hw) hfit

theorem Sound.make (hs : s.Sound) (target : String) (source : Source) :
    (s.make target source).1.Sound := by
  unfold Session.make
  split
  · next pool h hm =>
    exact sound_store (s := { s with pool := pool }) [] (Pool.make_admits hs hm).sound
  · exact hs
  · exact hs

theorem Sound.clone (hs : s.Sound) (packet target : String) :
    (s.clone packet target).1.Sound := by
  refine withPacket_sound hs fun h hf => ?_
  have hpool := Pool.Sound.clone (hs.focus hf)
  have hperm := (handles_update { s with pool := (s.pool.clone h).1 } packet h.toShared).symm
  exact sound_store [] (hpool.perm (hperm.cons _))

theorem Sound.resize (hs : s.Sound) (packet : String) (how : Resizing) :
    (s.resize packet how).1.Sound := by
  cases hf : s.packets.find? packet with
  | none =>
      rw [Session.resize, withPacket_none hf]
      exact hs
  | some h =>
      have hleaves := how.apply_leaves (hs.focus hf)
      rcases happly : how.apply s.pool h with ⟨pool, e | after⟩
      · rw [happly] at hleaves
        rw [resize_of_error hf happly]
        exact sound_remove hleaves.sound
      · rw [happly] at hleaves
        rw [resize_of_ok hf happly]
        exact sound_update hleaves.sound

theorem Sound.write (hs : s.Sound) (packet : String) (region : Region) (position : Nat)
    (bytes : Bytes) : (s.write packet region position bytes).1.Sound := by
  refine withPacket_sound hs fun h hf => ?_
  split
  · next pool hw =>
    obtain ⟨hpool, -, -⟩ := Pool.write_leaves (hs.focus hf) hw
    exact hpool.perm (handles_perm hf).symm
  all_goals exact hs

theorem Sound.adjust (hs : s.Sound) (packet : String) (how : Adjustment) :
    (s.adjust packet how).1.Sound := by
  refine withPacket_sound hs fun h hf => ?_
  split
  · next frame hframe => exact hs.changed hf rfl rfl id (how.apply_fits (hs.fits hf) hframe)
  · exact hs

theorem Sound.annotate (hs : s.Sound) (packet : String) (how : Annotating) :
    (s.annotate packet how).1.Sound := by
  refine withPacket_sound hs fun h hf => ?_
  split
  · next g hg =>
    obtain ⟨hb, hc, hw, -⟩ := how.apply_keeps hg
    exact hs.changed hf hb hc (hw ▸ id) (how.apply_fits hg (hs.fits hf))
  · exact hs

theorem Sound.copyAnnotations (hs : s.Sound) (packet source : String) :
    (s.copyAnnotations packet source).1.Sound := by
  refine withPacket_sound hs fun h hf => ?_
  refine withPacket_sound hs fun other _ => ?_
  have hfit := hs.fits hf
  exact hs.changed hf rfl rfl id hfit

theorem Sound.createChecker (hs : s.Sound) (checker : String) (transport : Transport)
    (name : String) (settings : List (String × Bool)) (divert : Option String) :
    (s.createChecker checker transport name settings divert).1.Sound := by
  unfold Session.createChecker
  split
  · exact hs
  · have hsink : (s.ensureSink divert).Sound := by
      have hpool : (s.ensureSink divert).pool = s.pool := pool_ensureSink s divert
      rw [Sound, hpool]
      exact Pool.Sound.perm hs (handles_ensureSink s divert).symm
    simp only
    split
    · exact hsink
    · exact hsink

theorem Sound.validate (hs : s.Sound) (checker packet : String) (times : Nat) :
    (s.validate checker packet times).1.Sound := by
  refine withChecker_sound hs fun c => ?_
  exact withPacket_sound hs fun h hf => hs.toShared hf

/-- A packet that a sink receives is shared from then on. -/
theorem Sound.divert (hs : s.Sound) (hf : s.packets.find? name = some h) (sink : String) :
    ((s.remove name).enqueue sink h.toShared).Sound :=
  Pool.Sound.perm (Pool.Sound.toShared (hs.focus hf))
    (handles_enqueue (s.remove name) sink h.toShared).symm

theorem Sound.drop (hs : s.Sound) (hf : s.packets.find? name = some h) : (s.drop name h).Sound :=
  Pool.Sound.release (hs.focus hf)

theorem Sound.process (hs : s.Sound) (checker packet : String) :
    (s.process checker packet).1.Sound := by
  cases hc : s.checkers.find? checker with
  | none =>
      rw [Session.process, withChecker, hc]
      exact hs
  | some c =>
      cases hf : s.packets.find? packet with
      | none =>
          simp only [Session.process, withChecker, hc, withPacket_none hf]
          exact hs
      | some h =>
          -- what the checker counts is no business of the pool
          have hs' : (s.checked checker c h).Sound := hs
          cases hv : (c.validateTimes (s.pool.headerViews h) 0).verdict with
          | ok _ =>
              rw [process_of_pass hc hf hv]
              exact hs'.toShared hf
          | error reason =>
              cases hd : c.divert with
              | none =>
                  rw [process_of_release hc hf hv hd]
                  exact hs'.drop hf
              | some sink =>
                  rw [process_of_divert hc hf hv hd]
                  exact hs'.divert hf sink

theorem Sound.drain (hs : s.Sound) (sink target : String) : (s.drain sink target).1.Sound := by
  refine withSink_sound hs fun queue hq => ?_
  -- once the queue is empty, its packets are outside the session
  have hrest : ({ s with sinks := s.sinks.insert sink [] } : Session).handles
      ~ s.otherQueues sink := s.handles_insert_queue sink []
  have hall : s.handles ~ queue ++ ({ s with sinks := s.sinks.insert sink [] } : Session).handles :=
    (handles_of_queue hq).trans (hrest.symm.append_left queue)
  exact sound_storeAll (s := { s with sinks := s.sinks.insert sink [] }) (Pool.Sound.perm hs hall)

/-- **One command keeps the account**, whatever it answers. -/
theorem Sound.step (hs : s.Sound) (c : Command) : (s.step c).1.Sound := by
  cases c with
  | make target source => exact hs.make target source
  | clone packet target => exact hs.clone packet target
  | toShared packet => exact withPacket_sound hs fun h hf => hs.toShared hf
  | kill packet => exact withPacket_sound hs fun h hf => hs.drop hf
  | resize packet how => exact hs.resize packet how
  | write packet region position bytes => exact hs.write packet region position bytes
  | adjust packet how => exact hs.adjust packet how
  | annotate packet how => exact hs.annotate packet how
  | inquire packet what => exact withPacket_sound hs fun _ _ => hs
  | copyAnnotations packet source => exact hs.copyAnnotations packet source
  | sameAnnotations packet other =>
      exact withPacket_sound hs fun _ _ => withPacket_sound hs fun _ _ => hs
  | sameStorage packet other =>
      exact withPacket_sound hs fun _ _ => withPacket_sound hs fun _ _ => hs
  | createChecker checker transport name settings divert =>
      exact hs.createChecker checker transport name settings divert
  | inspect checker => exact withChecker_sound hs fun _ => hs
  | validate checker packet times => exact hs.validate checker packet times
  | process checker packet => exact hs.process checker packet
  | readHandler checker handler =>
      refine withChecker_sound hs fun c => ?_
      split
      · exact hs
      · exact hs
  | sinkLength sink => exact withSink_sound hs fun _ _ => hs
  | drain sink target => exact hs.drain sink target

theorem run_append (s : Session) (cs ds : List Command) : s.run (cs ++ ds) = (s.run cs).run ds := by
  induction cs generalizing s with
  | nil => rfl
  | cons c cs ih => exact ih _

/-- A run keeps the account as its commands do. -/
theorem Sound.run (hs : s.Sound) (cs : List Command) : (s.run cs).Sound := by
  induction cs generalizing s with
  | nil => exact hs
  | cons c rest ih => exact ih (hs.step c)

end Session

end PacketPath
