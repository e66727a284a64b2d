import PacketPath.Proofs.Session.Queues

set_option autoImplicit false

/-! # Validation stages lose no packet

A checker that processes a packet returns it, passes it on to its sink, or releases it, as the
verdict and its configuration say (`Processed`). Nothing else changes: in the first two cases not
even the pool, and in the third only the count of the buffer that was released.

Over a run of checks and drains the packets that went in are those that are left and those that were
released (`Conserves`). Which were released is told from verdicts, and from the names that a drain
takes for its packets, not from what the pool counts.
-/

namespace PacketPath

/-- Whether a packet was passed on, if the reply is about that. -/
def Reply.forwarded? : Reply → Option Bool
  | .processed forwarded _ _ => some forwarded
  | _ => none

/-- Whether a command is a part of a validation stage: it checks packets, or empties a sink. -/
def Command.isStage : Command → Bool
  | .validate .. | .process .. | .drain .. => true
  | _ => false

namespace Pool

/-- Between two states of a pool, buffers have gone, and those that are left have kept their
bytes. -/
def Shrinks (p q : Pool) : Prop :=
  ∀ id c, q.buffers.find? id = some c → ∃ b, p.buffers.find? id = some b ∧ c.bytes = b.bytes

variable {p q r : Pool} {live : List Handle}

theorem Shrinks.refl (p : Pool) : p.Shrinks p := fun _ c hc => ⟨c, hc, rfl⟩

theorem Shrinks.trans (hpq : p.Shrinks q) (hqr : q.Shrinks r) : p.Shrinks r := by
  intro id c hc
  obtain ⟨b, hb, hcb⟩ := hqr id c hc
  obtain ⟨a, ha, hba⟩ := hpq id b hb
  exact ⟨a, ha, hcb.trans hba⟩

theorem shrinks_release (p : Pool) (id : BufferId) : p.Shrinks (p.release id) := by
  intro j c hc
  obtain ⟨b, hb, hcb, -⟩ := find?_of_release hc
  exact ⟨b, hb, by rw [hcb]⟩

/-- Whoever is live in the end has seen no byte change. -/
theorem Shrinks.keeps (hpq : p.Shrinks q) (hs : q.Sound live) : p.Keeps q live := by
  intro h hh
  obtain ⟨c, hc⟩ := hs.found hh
  obtain ⟨b, hb, hcb⟩ := hpq h.buffer c hc
  simp only [Pool.bytes, hc, hb, Option.map_some, Option.getD_some, hcb]

end Pool

namespace Session

open scoped List

variable {s : Session} {name target checker packet sink : String} {h : Handle} {c : Checker}

/-! ## One packet -/

/-- A queued packet is behind all others in its queue. -/
theorem handleAt_enqueue (s : Session) (sink : String) (g : Handle) (place : Place) :
    (s.enqueue sink g).handleAt place
      = if place = .queued sink (s.queueOf sink).length then some g else s.handleAt place := by
  cases place with
  | packet name =>
      rw [if_neg (by simp only [reduceCtorEq, not_false_eq_true])]
      rfl
  | queued sink' position =>
      simp only [handleAt, queueOf_enqueue, Place.queued.injEq]
      by_cases hsame : sink = sink'
      · subst hsame
        simp only [if_true, true_and]
        rcases Nat.lt_trichotomy position (s.queueOf sink).length with hlt | rfl | hgt
        · rw [List.getElem?_append_left hlt, if_neg (Nat.ne_of_lt hlt)]
        · rw [List.getElem?_append_right (Nat.le_refl _), if_pos rfl, Nat.sub_self]
          rfl
        · have hend : (s.queueOf sink ++ [g]).length ≤ position := by
            rw [List.length_append, List.length_singleton]
            omega
          rw [List.getElem?_eq_none hend, if_neg (Nat.ne_of_gt hgt),
            List.getElem?_eq_none (Nat.le_of_lt hgt)]
      · have hne : ¬ (sink' = sink ∧ position = (s.queueOf sink).length) := fun he =>
          hsame he.1.symm
        rw [if_neg hsame, if_neg hne, List.append_nil]

/-- What has become of a packet that a checker has processed. -/
structure Processed (s : Session) (packet : String) (c : Checker) (h : Handle)
    (after : Session × Reply) : Prop where
  /-- It is returned, if it passes. -/
  returned : c.transport.classify c.config.checksum (s.pool.headerViews h) = .ok () →
    after.2.forwarded? = some true ∧ after.1.pool = s.pool
      ∧ ∀ place, after.1.handleAt place
        = if place = .packet packet then some h.toShared else s.handleAt place
  /-- Otherwise it goes to the end of the sink, if there is one. -/
  diverted : ∀ reason sink,
    c.transport.classify c.config.checksum (s.pool.headerViews h) = .error reason →
    c.divert = some sink →
    after.2.forwarded? = some false ∧ after.1.pool = s.pool
      ∧ ∀ place, after.1.handleAt place
        = if place = .queued sink (s.queueOf sink).length then some h.toShared
          else if place = .packet packet then none
          else s.handleAt place
  /-- Without a sink it is released, and whoever is left on its buffer is one less. -/
  released : ∀ reason,
    c.transport.classify c.config.checksum (s.pool.headerViews h) = .error reason →
    c.divert = none →
    after.2.forwarded? = some false ∧ after.1.pool = s.pool.release h.buffer
      ∧ (∀ place, after.1.handleAt place
        = if place = .packet packet then none else s.handleAt place)
      ∧ ∀ g ∈ after.1.handles, after.1.pool.bytes g.buffer = s.pool.bytes g.buffer
        ∧ s.pool.uses g.buffer = after.1.pool.uses g.buffer + if g.buffer = h.buffer then 1 else 0

/-- A release is seen by whoever is left on the buffer in its count only, and by nobody else at
all. -/
theorem released_others {p : Pool} {others : List Handle} {g : Handle} (hs : p.Sound (h :: others))
    (hg : g ∈ others) : (p.release h.buffer).bytes g.buffer = p.bytes g.buffer
      ∧ p.uses g.buffer
        = (p.release h.buffer).uses g.buffer + if g.buffer = h.buffer then 1 else 0 := by
  refine ⟨hs.keeps_release g hg, ?_⟩
  by_cases hsame : g.buffer = h.buffer
  · have hpos : 0 < p.uses h.buffer := hs.uses_pos List.mem_cons_self
    rw [if_pos hsame, hsame, Pool.uses_release_self]
    omega
  · rw [if_neg hsame, Pool.uses_release_of_ne (Ne.symm hsame), Nat.add_zero]

theorem Sound.processed (hs : s.Sound) (hc : s.checkers.find? checker = some c)
    (hf : s.packets.find? packet = some h) :
    Processed s packet c h (s.step (.process checker packet)) := by
  have hv := verdict_validateTimes c (s.pool.headerViews h)
  have hreply : ∀ verdict, (c.validateTimes (s.pool.headerViews h) 0).verdict = verdict →
      (s.step (.process checker packet)).2.forwarded? = some verdict.isOk := by
    intro verdict hverdict
    cases verdict with
    | ok _ =>
        simp only [Session.step, Session.process, withChecker, hc, withPacket_some hf, hverdict]
        rfl
    | error reason =>
        simp only [Session.step, Session.process, withChecker, hc, withPacket_some hf, hverdict]
        rfl
  constructor
  case returned =>
    intro hpass
    have hafter : (s.step (.process checker packet)).1
        = (s.checked checker c h).update packet h.toShared :=
      process_of_pass hc hf (hv.trans hpass)
    rw [hafter]
    exact ⟨hreply _ (hv.trans hpass), rfl, handleAt_update _ packet h.toShared⟩
  case diverted =>
    intro reason sink hfail hd
    have hafter : (s.step (.process checker packet)).1
        = ((s.checked checker c h).remove packet).enqueue sink h.toShared :=
      process_of_divert hc hf (hv.trans hfail) hd
    rw [hafter]
    refine ⟨hreply _ (hv.trans hfail), rfl, fun place => ?_⟩
    rw [handleAt_enqueue, handleAt_remove]
    rfl
  case released =>
    intro reason hfail hd
    have hafter : (s.step (.process checker packet)).1 = (s.checked checker c h).drop packet h :=
      process_of_release hc hf (hv.trans hfail) hd
    rw [hafter]
    exact ⟨hreply _ (hv.trans hfail), rfl, handleAt_remove (s.checked checker c h) packet,
      fun g hg => released_others (hs.focus hf) hg⟩

/-! ## What a run of stages releases -/

/-- The packets that a stage releases: one that fails and cannot be diverted, or those under the
names that a drain needs. -/
def releasedBy (s : Session) : Command → List Handle
  | .process checker packet =>
    match s.checkers.find? checker, s.packets.find? packet with
    | some c, some h =>
      match c.transport.classify c.config.checksum (s.pool.headerViews h), c.divert with
      | .error _, none => [h]
      | _, _ => []
    | _, _ => []
  | .drain sink target =>
    (List.range (s.queueOf sink).length).filterMap fun i => s.packets.find? (target ++ i.repr)
  | _ => []

/-- The packets that a run of stages releases. -/
def released (s : Session) : List Command → List Handle
  | [] => []
  | c :: rest => s.releasedBy c ++ (s.step c).1.released rest

/-- A run of stages keeps every packet that it does not release. -/
structure Conserves (s : Session) (stages : List Command) : Prop where
  /-- The packets are the same, each in one place, but for the right to write. -/
  packets : s.handles.map Handle.toShared
    ~ ((s.run stages).handles ++ s.released stages).map Handle.toShared
  /-- No byte changes that anyone can see. -/
  bytes : s.pool.Keeps (s.run stages).pool (s.run stages).handles
  /-- Counts go down for the released packets, one for each. -/
  uses : ∀ id, s.pool.uses id = (s.run stages).pool.uses id + handlesOn (s.released stages) id

theorem handles_store (s : Session) (name : String) (h : Handle) :
    h :: s.handles ~ (s.store name h).handles ++ (s.packets.find? name).toList := by
  have hnew : (s.store name h).handles ~ h :: s.others name := handles_update s name h
  cases hf : s.packets.find? name with
  | none =>
      rw [Option.toList_none, List.append_nil, ← others_eq_handles hf]
      exact hnew.symm
  | some old =>
      calc h :: s.handles
          _ ~ h :: old :: s.others name := (handles_perm hf).cons h
          _ ~ old :: h :: s.others name := .swap _ _ _
          _ ~ old :: (s.store name h).handles := hnew.symm.cons old
          _ ~ (s.store name h).handles ++ [old] := List.perm_append_singleton _ _ |>.symm

/-- Packets that are put under names take the places of those that were there. -/
theorem handles_storeAll (s : Session) (target : String) (i : Nat) (queue : List Handle) :
    queue ++ s.handles ~ (s.storeAll target i queue).handles
      ++ (List.range' i queue.length).filterMap fun k => s.packets.find? (target ++ k.repr) := by
  induction queue generalizing s i with
  | nil =>
      rw [List.length_nil, List.range'_zero, List.filterMap_nil, List.append_nil]
      exact .refl _
  | cons h rest ih =>
      set after := s.store (target ++ i.repr) h with hafter
      set old := s.packets.find? (target ++ i.repr) with hold
      set later := (List.range' (i + 1) rest.length).filterMap fun k =>
        s.packets.find? (target ++ k.repr) with hlater
      -- the names that are still to come have what they had
      have hsame : ((List.range' (i + 1) rest.length).filterMap fun k =>
          after.packets.find? (target ++ k.repr)) = later := by
        refine List.filterMap_congr fun k hk => ?_
        have hlt : i < k := (List.mem_range'_1.mp hk).1
        rw [hafter, find?_store, if_neg fun he => Nat.ne_of_lt hlt (eq_of_numbered he)]
      have htaken : ((List.range' i (h :: rest).length).filterMap fun k =>
          s.packets.find? (target ++ k.repr)) = old.toList ++ later := by
        rw [List.length_cons, List.range'_succ, List.filterMap_cons, ← hold]
        cases old <;> rfl
      rw [htaken]
      calc h :: rest ++ s.handles
          _ ~ rest ++ (h :: s.handles) := List.perm_middle.symm
          _ ~ rest ++ (after.handles ++ old.toList) := (handles_store s _ h).append_left rest
          _ ~ rest ++ after.handles ++ old.toList := .of_eq (List.append_assoc _ _ _).symm
          _ ~ (after.storeAll target (i + 1) rest).handles ++ later ++ old.toList := by
              rw [← hsame]
              exact (ih after (i + 1)).append_right _
          _ ~ (after.storeAll target (i + 1) rest).handles ++ (old.toList ++ later) := by
              rw [List.append_assoc]
              exact List.perm_append_comm.append_left _

/-! ## One stage -/

theorem shrinks_store (s : Session) (name : String) (h : Handle) :
    s.pool.Shrinks (s.store name h).pool := by
  unfold store
  split
  · exact Pool.shrinks_release _ _
  · exact .refl _

theorem shrinks_storeAll (s : Session) (target : String) (i : Nat) (queue : List Handle) :
    s.pool.Shrinks (s.storeAll target i queue).pool := by
  induction queue generalizing s i with
  | nil => exact .refl _
  | cons h rest ih => exact (s.shrinks_store _ h).trans (ih _ (i + 1))

/-- What one stage does to the packets and the pool. -/
structure Stage (s : Session) (gone : List Handle) (after : Session) : Prop where
  packets : s.handles.map Handle.toShared ~ (after.handles ++ gone).map Handle.toShared
  shrinks : s.pool.Shrinks after.pool

theorem stage_refl (s : Session) : Stage s [] s := by
  refine ⟨?_, .refl _⟩
  rw [List.append_nil]

/-- A packet that has lost the right to write, and is in its place or in another one. -/
theorem stage_of_perm {after : Session} {others : List Handle} (hbefore : s.handles ~ h :: others)
    (hafter : after.handles ~ h.toShared :: others) (hpool : after.pool = s.pool) :
    Stage s [] after := by
  refine ⟨?_, hpool ▸ .refl _⟩
  rw [List.append_nil]
  exact (hbefore.map Handle.toShared).trans (hafter.map Handle.toShared).symm

theorem stage_validate (s : Session) (checker packet : String) (times : Nat) :
    Stage s [] (s.validate checker packet times).1 := by
  refine withChecker_cases (P := fun after => Stage s [] after.1) s.stage_refl fun c _ => ?_
  refine withPacket_cases (P := fun after => Stage s [] after.1) s.stage_refl fun h hf => ?_
  exact stage_of_perm (handles_perm hf) (handles_update s packet h.toShared) rfl

theorem stage_process (s : Session) (checker packet : String) :
    Stage s (s.releasedBy (.process checker packet)) (s.process checker packet).1 := by
  rcases s.process_outcome checker packet with ⟨hnone, hafter⟩
    | ⟨c, h, hc, hf, ⟨hv, hafter⟩ | ⟨reason, hv, ⟨hd, hafter⟩ | ⟨sink, hd, hafter⟩⟩⟩
  · have hnothing : s.releasedBy (.process checker packet) = [] := by
      rcases hnone with hc | hf
      · simp only [releasedBy, hc]
      · simp only [releasedBy, hf]
        cases s.checkers.find? checker <;> rfl
    rw [hafter, hnothing]
    exact s.stage_refl
  · rw [hafter]
    simp only [releasedBy, hc, hf, hv]
    exact stage_of_perm (handles_perm hf) (handles_update (s.checked checker c h) packet _) rfl
  · -- the one way out of the session
    rw [hafter]
    simp only [releasedBy, hc, hf, hv, hd]
    refine ⟨((handles_perm hf).trans ?_).map _, Pool.shrinks_release _ _⟩
    exact (List.perm_append_singleton h (s.others packet)).symm
  · rw [hafter]
    simp only [releasedBy, hc, hf, hv, hd]
    exact stage_of_perm (handles_perm hf)
      (handles_enqueue ((s.checked checker c h).remove packet) sink h.toShared) rfl

theorem stage_drain (s : Session) (sink target : String) :
    Stage s (s.releasedBy (.drain sink target)) (s.drain sink target).1 := by
  cases hq : s.sinks.find? sink with
  | none =>
      have hqueue : s.queueOf sink = [] := by rw [queueOf, hq]; rfl
      simp only [Session.drain, withSink, hq, releasedBy, hqueue]
      exact s.stage_refl
  | some queue =>
      have hqueue : s.queueOf sink = queue := by rw [queueOf, hq]; rfl
      -- once the queue is empty, its packets take the places of those under the names they need
      set empty : Session := { s with sinks := s.sinks.insert sink [] }
      have hrest : empty.handles ~ s.otherQueues sink := s.handles_insert_queue sink []
      have hall : s.handles ~ queue ++ empty.handles :=
        (handles_of_queue hq).trans (hrest.symm.append_left queue)
      have hstored := handles_storeAll empty target 0 queue
      simp only [Session.drain, withSink, hq, releasedBy, hqueue, List.range_eq_range']
      exact ⟨(hall.trans hstored).map _, shrinks_storeAll empty target 0 queue⟩

theorem stage_step {cmd : Command} (s : Session) (hc : cmd.isStage = true) :
    Stage s (s.releasedBy cmd) (s.step cmd).1 := by
  cases cmd with
  | validate checker packet times => exact s.stage_validate checker packet times
  | process checker packet => exact s.stage_process checker packet
  | drain sink target => exact s.stage_drain sink target
  | _ => cases hc

/-- Stages one after the other release what each of them releases. -/
theorem stage_run {stages : List Command} (s : Session) (hall : ∀ c ∈ stages, c.isStage = true) :
    Stage s (s.released stages) (s.run stages) := by
  induction stages generalizing s with
  | nil => exact s.stage_refl
  | cons c rest ih =>
      have hfirst := s.stage_step (hall c List.mem_cons_self)
      have hrest := ih (s.step c).1 fun d hd => hall d (List.mem_cons_of_mem _ hd)
      refine ⟨?_, hfirst.shrinks.trans hrest.shrinks⟩
      set next := (s.step c).1
      set gone := s.releasedBy c
      calc s.handles.map Handle.toShared
          _ ~ (next.handles ++ gone).map Handle.toShared := hfirst.packets
          _ ~ next.handles.map Handle.toShared ++ gone.map Handle.toShared :=
              .of_eq (List.map_append)
          _ ~ ((next.run rest).handles ++ next.released rest).map Handle.toShared
                ++ gone.map Handle.toShared := hrest.packets.append_right _
          _ ~ ((next.run rest).handles ++ (gone ++ next.released rest)).map Handle.toShared := by
              rw [← List.map_append, List.append_assoc]
              exact (List.perm_append_comm.append_left _).map _

theorem handlesOn_map_toShared (live : List Handle) (id : BufferId) :
    handlesOn (live.map Handle.toShared) id = handlesOn live id :=
  List.countP_map

theorem handlesOn_append (l₁ l₂ : List Handle) (id : BufferId) :
    handlesOn (l₁ ++ l₂) id = handlesOn l₁ id + handlesOn l₂ id := List.countP_append

/-- The counts follow from the account: each counts the live handles. -/
theorem Sound.conserves_run {stages : List Command} (hs : s.Sound)
    (hall : ∀ c ∈ stages, c.isStage = true) : Conserves s stages := by
  have hstage := s.stage_run hall
  have hafter : (s.run stages).Sound := hs.run stages
  refine ⟨hstage.packets, hstage.shrinks.keeps hafter, fun id => ?_⟩
  calc s.pool.uses id
      _ = handlesOn (s.handles.map Handle.toShared) id := by
          rw [handlesOn_map_toShared, Pool.Sound.uses_eq hs]
      _ = handlesOn ((s.run stages).handles ++ s.released stages) id := by
          rw [handlesOn_perm hstage.packets, handlesOn_map_toShared]
      _ = (s.run stages).pool.uses id + handlesOn (s.released stages) id := by
          rw [handlesOn_append, Pool.Sound.uses_eq hafter]

/-! ## The conservation of packets -/

/-- What holds of the packets of a session that is checked and drained. -/
structure Conserving (s : Session) : Prop where
  /-- A check that leaves the packet where it is changes nothing but the right to write. -/
  validated : ∀ checker packet times c h, s.checkers.find? checker = some c →
    s.packets.find? packet = some h →
    let after := (s.step (.validate checker packet times)).1
    after.pool = s.pool ∧ ∀ place, after.handleAt place
      = if place = .packet packet then some h.toShared else s.handleAt place
  processed : ∀ checker packet c h, s.checkers.find? checker = some c →
    s.packets.find? packet = some h → Processed s packet c h (s.step (.process checker packet))
  /-- However many stages follow one another, on however many checkers and sinks. -/
  run : ∀ stages, (∀ c ∈ stages, c.isStage = true) → Conserves s stages

theorem Sound.conserving (hs : s.Sound) : Conserving s where
  validated := by
    intro checker packet times c h hc hf
    have hafter : (s.step (.validate checker packet times)).1
        = (s.update packet h.toShared).updateChecker checker
          (c.validateTimes (s.pool.headerViews h) (times - 1)).checker := by
      simp only [Session.step, Session.validate, withChecker, hc, withPacket_some hf]
    simp only [hafter]
    exact ⟨rfl, handleAt_update s packet h.toShared⟩
  processed := fun checker packet c h hc hf => hs.processed hc hf
  run := fun stages hall => hs.conserves_run hall

end Session

/-- **A validation stage conserves packets**, whatever has happened in the session before. A packet
that is checked ends in one place, no other packet and no byte changes, and counts go down for the
packets that are released only. What is diverted to a sink comes out of it in order, and what has
not come out yet is still there. -/
theorem conserving_run (cs : List Command) :
    (({} : Session).run cs).Conserving
      ∧ ∀ sink, ({} : Session).drained sink cs ++ (({} : Session).run cs).queueOf sink
        = ({} : Session).diverted sink cs := by
  have hs : (({} : Session).run cs).Sound := Session.sound_empty.run cs
  exact ⟨hs.conserving, fun sink => (({} : Session).queueOf_run sink cs).symm⟩

end PacketPath
