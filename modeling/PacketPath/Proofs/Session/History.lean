import PacketPath.Proofs.Session.Places

set_option autoImplicit false

/-! # Where handles come from

A handle is an original, made with its buffer or moved to a copy of it, or it was cloned from
another handle on the buffer. A history remembers which, for the handle at each place, by watching
the commands of a run: what is made, cloned, copied and moved from place to place. It never looks at
the flag by which a handle remembers the same for itself. `History.Tracks.run` says that the two
agree throughout every run.
-/

namespace PacketPath

/-- How a handle came to the buffer that it is on. -/
inductive Origin
  /-- It was made with the buffer, or moved to it when it was copied. -/
  | original
  /-- It was cloned from another handle on the buffer. -/
  | clone
deriving DecidableEq

/-- What is remembered of the live handles. -/
structure History where
  packets : Registry String Origin := .empty
  sinks : Registry String (List Origin) := .empty

namespace History

def queueOf (o : History) (sink : String) : List Origin := (o.sinks.find? sink).getD []

/-- The origin of the handle at a place. -/
def originAt (o : History) : Place → Option Origin
  | .packet name => o.packets.find? name
  | .queued sink position => (o.queueOf sink)[position]?

/-! ## Watching a run -/

def record (o : History) (name : String) (origin : Origin) : History :=
  { o with packets := o.packets.insert name origin }

def forget (o : History) (name : String) : History := { o with packets := o.packets.erase name }

/-- A packet leaves its name for the end of a queue. -/
def enqueue (o : History) (name sink : String) : History :=
  match o.packets.find? name with
  | some origin =>
    { o.forget name with sinks := o.sinks.insert sink (o.queueOf sink ++ [origin]) }
  | none => o

/-- Packets come to numbered names, from a number on. -/
def recordAll (o : History) (target : String) : Nat → List Origin → History
  | _, [] => o
  | i, origin :: rest => (o.record (target ++ i.repr) origin).recordAll target (i + 1) rest

/-- A queue is emptied, and its packets come to numbered names. -/
def drain (o : History) (sink target : String) : History :=
  { o with sinks := o.sinks.insert sink [] }.recordAll target 0 (o.queueOf sink)

/-- The history after a command that is executed in the session `s`. A packet has been copied if it
is in another buffer afterwards. -/
def step (o : History) (s : Session) (c : Command) (env : Environment := .standard) : History :=
  match c with
  | .make target source =>
    match s.pool.make source env with
    | .ok _ => o.record target .original
    | .error _ => o
  | .clone packet target =>
    match s.packets.find? packet with
    | some _ => o.record target .clone
    | none => o
  | .kill packet => o.forget packet
  | .resize packet how =>
    match s.packets.find? packet, (s.resize packet how env).1.packets.find? packet with
    | some before, some after =>
      if after.buffer = before.buffer then o else o.record packet .original
    | _, _ => o.forget packet
  | .process checker packet =>
    match (s.process checker packet).1.packets.find? packet,
      (s.checkers.find? checker).map (·.divert) with
    | none, some (some sink) => o.enqueue packet sink
    | none, some none => o.forget packet
    | _, _ => o
  | .drain sink target =>
    match s.sinks.find? sink with
    | some _ => o.drain sink target
    | none => o
  | _ => o

/-- The history of a run from the session `s` on. -/
def run (o : History) (s : Session) : List Command → History
  | [] => o
  | c :: rest => (o.step s c).run (s.step c).1 rest

theorem run_append (o : History) (s : Session) (cs ds : List Command) :
    o.run s (cs ++ ds) = (o.run s cs).run (s.run cs) ds := by
  induction cs generalizing o s with
  | nil => rfl
  | cons c cs ih => exact ih _ _

end History

/-! ## Histories and flags -/

/-- The origin that a handle remembers for itself. -/
def Handle.origin (h : Handle) : Origin := if h.cloned then .clone else .original

theorem Handle.origin_eq_clone_iff {h : Handle} : h.origin = .clone ↔ h.cloned = true := by
  unfold Handle.origin
  cases h.cloned <;> decide

theorem Handle.origin_eq_original_iff {h : Handle} : h.origin = .original ↔ h.cloned = false := by
  unfold Handle.origin
  cases h.cloned <;> decide

theorem Handle.origin_congr {g h : Handle} (hc : g.cloned = h.cloned) : g.origin = h.origin := by
  rw [Handle.origin, Handle.origin, hc]

namespace History

/-- The history of a session: at each place, what the handle there remembers. -/
structure Tracks (o : History) (s : Session) : Prop where
  packets : ∀ name, o.packets.find? name = (s.packets.find? name).map Handle.origin
  queues : ∀ sink, o.queueOf sink = (s.queueOf sink).map Handle.origin

variable {o : History} {s : Session} {h g : Handle} {name sink : String} {queue : List Handle}

theorem Tracks.originAt (ht : o.Tracks s) (a : Place) :
    o.originAt a = (s.handleAt a).map Handle.origin := by
  cases a with
  | packet name => exact ht.packets name
  | queued sink position => rw [History.originAt, Session.handleAt, ht.queues, List.getElem?_map]

theorem tracks_empty : ({} : History).Tracks {} := ⟨fun _ => rfl, fun _ => rfl⟩

theorem Tracks.record (ht : o.Tracks s) (name : String) (h : Handle) :
    (o.record name h.origin).Tracks (s.update name h) := by
  refine ⟨fun name' => ?_, ht.queues⟩
  simp only [History.record, Session.update, Registry.find?_insert]
  split
  · rfl
  · exact ht.packets name'

/-- What else is in the session does not matter. -/
theorem Tracks.congr {s' : Session} (ht : o.Tracks s) (hp : s'.packets = s.packets)
    (hq : s'.sinks = s.sinks) : o.Tracks s' :=
  ⟨fun name => hp ▸ ht.packets name, fun sink => by
    rw [Session.queueOf, hq]
    exact ht.queues sink⟩

theorem Tracks.store (ht : o.Tracks s) (name : String) (h : Handle) :
    (o.record name h.origin).Tracks (s.store name h) :=
  (ht.record name h).congr rfl rfl

/-- A packet that is the same original or clone as before. -/
theorem Tracks.update (ht : o.Tracks s) (hf : s.packets.find? name = some h)
    (hc : g.cloned = h.cloned) : o.Tracks (s.update name g) := by
  refine ⟨fun name' => ?_, ht.queues⟩
  rw [Session.update, Registry.find?_insert, ht.packets]
  split
  · next he =>
    rw [← he, hf, Option.map_some, Option.map_some, Handle.origin_congr hc]
  · rfl

theorem Tracks.forget (ht : o.Tracks s) (name : String) :
    (o.forget name).Tracks (s.remove name) := by
  refine ⟨fun name' => ?_, ht.queues⟩
  simp only [History.forget, Session.remove, Registry.find?_erase]
  split
  · rfl
  · exact ht.packets name'

/-- To forget a packet that is not there changes nothing. -/
theorem Tracks.forget_absent (ht : o.Tracks s) (hf : s.packets.find? name = none) :
    (o.forget name).Tracks s :=
  (ht.forget name).congr (Registry.erase_eq_self hf).symm rfl

theorem Tracks.enqueue (ht : o.Tracks s) (hf : s.packets.find? name = some h)
    (hc : g.cloned = h.cloned) (sink : String) :
    (o.enqueue name sink).Tracks ((s.remove name).enqueue sink g) := by
  have ho : o.packets.find? name = some h.origin := by rw [ht.packets, hf, Option.map_some]
  have hqueue : ∀ sink, (s.remove name).queueOf sink = s.queueOf sink := fun _ => rfl
  simp only [History.enqueue, ho]
  refine ⟨(ht.forget name).packets, fun sink' => ?_⟩
  simp only [History.queueOf, Session.queueOf, Session.enqueue, Registry.find?_insert]
  split
  · show o.queueOf sink ++ [h.origin] = ((s.remove name).queueOf sink ++ [g]).map Handle.origin
    rw [List.map_append, hqueue, ← ht.queues, ← Handle.origin_congr hc, List.map_singleton]
  · exact ht.queues sink'

theorem Tracks.recordAll (ht : o.Tracks s) (target : String) (i : Nat) (queue : List Handle) :
    (o.recordAll target i (queue.map Handle.origin)).Tracks (s.storeAll target i queue) := by
  induction queue generalizing o s i with
  | nil => exact ht
  | cons h rest ih => exact ih (ht.store _ h) (i + 1)

theorem Tracks.drain (ht : o.Tracks s) (hq : s.sinks.find? sink = some queue) (target : String) :
    (o.drain sink target).Tracks
      (({ s with sinks := s.sinks.insert sink [] } : Session).storeAll target 0 queue) := by
  have hempty : ({ o with sinks := o.sinks.insert sink [] } : History).Tracks
      { s with sinks := s.sinks.insert sink [] } := by
    refine ⟨ht.packets, fun sink' => ?_⟩
    simp only [History.queueOf, Session.queueOf, Registry.find?_insert]
    split
    · rfl
    · exact ht.queues sink'
  have hqueue : o.queueOf sink = queue.map Handle.origin := by
    rw [ht.queues, Session.queueOf, hq, Option.getD_some]
  rw [History.drain, hqueue]
  exact hempty.recordAll target 0 queue

/-! ## Histories of runs -/

theorem Tracks.make (ht : o.Tracks s) (hs : s.Sound) (target : String) (source : Source) :
    (o.step s (.make target source)).Tracks (s.make target source).1 := by
  simp only [History.step, Session.make]
  cases hm : s.pool.make source with
  | error e => cases e <;> exact ht
  | ok made =>
      have hmade : made.2.origin = .original :=
        Handle.origin_eq_original_iff.mpr (Pool.make_admits hs hm).original
      have hpool : o.Tracks { s with pool := made.1 } := ht.congr rfl rfl
      simp only
      rw [← hmade]
      exact hpool.store target made.2

theorem Tracks.clone (ht : o.Tracks s) (packet target : String) :
    (o.step s (.clone packet target)).Tracks (s.clone packet target).1 := by
  simp only [History.step, Session.clone]
  cases hf : s.packets.find? packet with
  | none =>
      rw [Session.withPacket_none hf]
      exact ht
  | some h =>
      have hpool : o.Tracks { s with pool := (s.pool.clone h).1 } := ht.congr rfl rfl
      -- the packet stays what it was, and its clone comes in
      have hfirst := hpool.update (g := h.toShared) hf rfl
      rw [Session.withPacket_some hf]
      exact hfirst.store target (s.pool.clone h).2

/-- A resized packet has been copied if it is in another buffer. -/
theorem Tracks.resize (ht : o.Tracks s) (hs : s.Sound) (packet : String) (how : Resizing) :
    (o.step s (.resize packet how)).Tracks (s.resize packet how).1 := by
  simp only [History.step]
  cases hf : s.packets.find? packet with
  | none =>
      have hsame : s.resize packet how = (s, .noPacket) := Session.withPacket_none hf _
      rw [hsame]
      exact ht.forget_absent hf
  | some h =>
      have hleaves := how.apply_leaves (hs.focus hf)
      rcases happly : how.apply s.pool h with ⟨pool, e | after⟩
      · rw [Session.resize_of_error hf happly]
        simp only [Session.remove, Registry.find?_erase, if_true]
        exact (ht.forget packet).congr rfl rfl
      · rw [happly] at hleaves
        rw [Session.resize_of_ok hf happly]
        have hpool : o.Tracks { s with pool := pool } := ht.congr rfl rfl
        simp only [Session.update, Registry.find?_insert, if_true]
        rcases hleaves.placed after rfl with ⟨hb, hc⟩ | ⟨hb, hc⟩
        · rw [if_pos hb]
          exact hpool.update hf hc
        · -- a new buffer has a number that no live handle had
          have hlt := (hs.focus hf).buffer_lt_next List.mem_cons_self
          have hne : after.buffer ≠ h.buffer := hb ▸ Nat.ne_of_gt hlt
          rw [if_neg hne, ← Handle.origin_eq_original_iff.mpr hc]
          exact hpool.record packet after

/-- A packet that leaves its name after a check is in the sink of the checker, or nowhere. -/
theorem Tracks.process (ht : o.Tracks s) (checker packet : String) :
    (o.step s (.process checker packet)).Tracks (s.process checker packet).1 := by
  simp only [History.step]
  cases hc : s.checkers.find? checker with
  | none =>
      have hsame : s.process checker packet = (s, .noChecker) := by
        rw [Session.process, Session.withChecker, hc]
      rw [hsame]
      cases s.packets.find? packet <;> exact ht
  | some c =>
      cases hf : s.packets.find? packet with
      | none =>
          have hsame : s.process checker packet = (s, .noPacket) := by
            simp only [Session.process, Session.withChecker, hc, Session.withPacket, hf]
          rw [hsame]
          -- a history that watches for packets that leave sees a missing one leave again
          have ho : o.packets.find? packet = none := by rw [ht.packets, hf, Option.map_none]
          simp only [hf, Option.map_some]
          cases c.divert with
          | none => exact ht.forget_absent hf
          | some sink => simpa only [History.enqueue, ho] using ht
      | some h =>
          have ht' : o.Tracks (s.checked checker c h) := ht.congr rfl rfl
          cases hv : (c.validateTimes (s.pool.headerViews h) 0).verdict with
          | ok _ =>
              rw [Session.process_of_pass hc hf hv]
              simp only [Session.update, Registry.find?_insert, if_true]
              exact ht'.update hf rfl
          | error reason =>
              cases hd : c.divert with
              | none =>
                  rw [Session.process_of_release hc hf hv hd]
                  simp only [Session.drop, Session.remove, Registry.find?_erase, if_true,
                    Option.map_some, hd]
                  exact (ht'.forget packet).congr rfl rfl
              | some sink =>
                  rw [Session.process_of_divert hc hf hv hd]
                  simp only [Session.enqueue, Session.remove, Registry.find?_erase, if_true,
                    Option.map_some, hd]
                  exact (ht'.enqueue (g := h.toShared) hf rfl sink).congr rfl rfl

theorem Tracks.ensureSink (ht : o.Tracks s) (sink : Option String) :
    o.Tracks (s.ensureSink sink) := by
  cases sink with
  | none => exact ht
  | some sink =>
      unfold Session.ensureSink
      simp only
      split
      · exact ht
      · next hc =>
        refine ⟨ht.packets, fun sink' => ?_⟩
        rw [ht.queues, Session.queueOf, Session.queueOf, Registry.find?_insert]
        split
        · next he =>
          have hnone : s.sinks.find? sink = none := by simpa [Registry.contains] using hc
          rw [← he, hnone]
          rfl
        · rfl

theorem Tracks.createChecker (ht : o.Tracks s) (checker : String) (transport : Transport)
    (name : String) (settings : List (String × Bool)) (divert : Option String) :
    o.Tracks (s.createChecker checker transport name settings divert).1 := by
  unfold Session.createChecker
  split
  · exact ht
  · simp only
    split
    · exact ht.ensureSink divert
    · exact (ht.ensureSink divert).congr rfl rfl

/-- An action on a packet that leaves it the original or clone that it was, if it keeps it. -/
theorem Tracks.withPacket {act : Handle → Session × Reply} (ht : o.Tracks s)
    (hact : ∀ h, s.packets.find? name = some h → o.Tracks (act h).1) :
    o.Tracks (s.withPacket name act).1 :=
  Session.withPacket_cases (P := fun after => o.Tracks after.1) ht hact

theorem Tracks.withChecker {act : Checker → Session × Reply} (ht : o.Tracks s)
    (hact : ∀ c, o.Tracks (act c).1) : o.Tracks (s.withChecker name act).1 :=
  Session.withChecker_cases (P := fun after => o.Tracks after.1) ht fun c _ => hact c

/-- **One command**: the history and the flags change alike. -/
theorem Tracks.step (ht : o.Tracks s) (hs : s.Sound) (c : Command) :
    (o.step s c).Tracks (s.step c).1 := by
  cases c with
  | make target source => exact ht.make hs target source
  | clone packet target => exact ht.clone packet target
  | toShared packet => exact ht.withPacket fun h hf => ht.update hf rfl
  | kill packet =>
      simp only [History.step, Session.step]
      cases hf : s.packets.find? packet with
      | none =>
          rw [Session.withPacket_none hf]
          exact ht.forget_absent hf
      | some h =>
          rw [Session.withPacket_some hf]
          exact (ht.forget packet).congr rfl rfl
  | resize packet how => exact ht.resize hs packet how
  | write packet region position bytes =>
      refine ht.withPacket fun h hf => ?_
      split
      · exact ht.congr rfl rfl
      all_goals exact ht
  | adjust packet how =>
      refine ht.withPacket fun h hf => ?_
      split
      · exact ht.update hf rfl
      · exact ht
  | annotate packet how =>
      refine ht.withPacket fun h hf => ?_
      split
      · next g hg =>
        obtain ⟨-, hc, -⟩ := how.apply_keeps hg
        exact ht.update hf hc
      · exact ht
  | inquire packet what => exact ht.withPacket fun _ _ => ht
  | copyAnnotations packet source =>
      refine ht.withPacket fun h hf => ?_
      exact ht.withPacket fun other _ => ht.update hf rfl
  | sameAnnotations packet other => exact ht.withPacket fun _ _ => ht.withPacket fun _ _ => ht
  | sameStorage packet other => exact ht.withPacket fun _ _ => ht.withPacket fun _ _ => ht
  | createChecker checker transport name settings divert =>
      exact ht.createChecker checker transport name settings divert
  | inspect checker => exact ht.withChecker fun _ => ht
  | validate checker packet times =>
      refine ht.withChecker fun c => ?_
      exact ht.withPacket fun h hf => (ht.update (g := h.toShared) hf rfl).congr rfl rfl
  | process checker packet => exact ht.process checker packet
  | readHandler checker handler =>
      refine ht.withChecker fun c => ?_
      split
      · exact ht
      · exact ht
  | sinkLength sink =>
      simp only [History.step, Session.step, Session.withSink]
      split
      · exact ht
      · exact ht
  | drain sink target =>
      simp only [History.step, Session.step, Session.drain, Session.withSink]
      cases hq : s.sinks.find? sink with
      | none => exact ht
      | some queue => exact ht.drain hq target

/-- **A run**: what a history remembers of a handle is what the handle remembers for itself. -/
theorem Tracks.run (ht : o.Tracks s) (hs : s.Sound) (cs : List Command) :
    (o.run s cs).Tracks (s.run cs) := by
  induction cs generalizing o s with
  | nil => exact ht
  | cons c rest ih => exact ih (ht.step hs c) (hs.step c)

end History

end PacketPath
