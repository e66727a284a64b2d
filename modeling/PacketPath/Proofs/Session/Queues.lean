import PacketPath.Proofs.Check.Verdict
import PacketPath.Proofs.Session.Places

set_option autoImplicit false

/-! # Sinks are queues

What is diverted to a sink comes out of it in the same order, however many checkers divert to it
and however often it is drained. What goes in is told from the verdicts of the checkers
(`diverted`), and what comes out is read off the names that a drain has put it under (`drained`);
neither looks at what a sink holds.
-/

namespace PacketPath

namespace Session

variable {s : Session} {name sink target : String} {h : Handle} {c : Command}

/-! ## What goes in and what comes out -/

/-- The packet that a command diverts to a sink, if it does. -/
def divertedBy (s : Session) (sink : String) : Command → List Handle
  | .process checker packet =>
    match s.checkers.find? checker, s.packets.find? packet with
    | some c, some h =>
      match c.transport.classify c.config.checksum (s.pool.headerViews h) with
      | .ok () => []
      | .error _ => if c.divert = some sink then [h.toShared] else []
    | _, _ => []
  | _ => []

/-- The packets that a drain has put under numbered names, as many as it says. -/
def delivered (after : Session × Reply) (target : String) : List Handle :=
  match after.2 with
  | .drained n => (List.range n).filterMap fun i => after.1.packets.find? (target ++ i.repr)
  | _ => []

/-- The packets that a command takes out of a sink. -/
def drainedBy (s : Session) (sink : String) : Command → List Handle
  | .drain drained target =>
    if drained = sink then delivered (s.drain drained target) target else []
  | _ => []

/-- What goes into a sink in a run. -/
def diverted (s : Session) (sink : String) : List Command → List Handle
  | [] => []
  | c :: rest => s.divertedBy sink c ++ (s.step c).1.diverted sink rest

/-- What comes out of a sink in a run. -/
def drained (s : Session) (sink : String) : List Command → List Handle
  | [] => []
  | c :: rest => s.drainedBy sink c ++ (s.step c).1.drained sink rest

/-! ## Numbered names -/

/-- A number can be read back from a name. -/
theorem eq_of_numbered {i j : Nat} (h : target ++ i.repr = target ++ j.repr) : i = j := by
  have hrepr : i.repr = j.repr := (String.append_right_inj target).mp h
  calc i
      _ = Nat.ofDigitChars 10 i.repr.toList 0 := by
          rw [Nat.toList_repr, Nat.ofDigitChars_ten_toDigits]
      _ = Nat.ofDigitChars 10 j.repr.toList 0 := by rw [hrepr]
      _ = j := by rw [Nat.toList_repr, Nat.ofDigitChars_ten_toDigits]

theorem find?_store (s : Session) (name : String) (h : Handle) (name' : String) :
    (s.store name h).packets.find? name' = if name = name' then some h else s.packets.find? name' :=
  s.packets.find?_insert name name' h

/-- Names with lower numbers keep what they have. -/
theorem find?_storeAll_of_lt {i j : Nat} (hj : j < i) (target : String) (queue : List Handle) :
    (s.storeAll target i queue).packets.find? (target ++ j.repr)
      = s.packets.find? (target ++ j.repr) := by
  induction queue generalizing s i with
  | nil => rfl
  | cons h rest ih =>
      have hne : target ++ i.repr ≠ target ++ j.repr := fun he => by
        have := eq_of_numbered he
        omega
      rw [storeAll, ih (Nat.lt_succ_of_lt hj), find?_store, if_neg hne]

/-- The packets are under the names in their order. -/
theorem filterMap_storeAll (s : Session) (target : String) (i : Nat) (queue : List Handle) :
    (List.range' i queue.length).filterMap
        (fun k => (s.storeAll target i queue).packets.find? (target ++ k.repr)) = queue := by
  induction queue generalizing s i with
  | nil => rfl
  | cons h rest ih =>
      have hfirst : (s.storeAll target i (h :: rest)).packets.find? (target ++ i.repr)
          = some h := by
        rw [storeAll, find?_storeAll_of_lt (Nat.lt_succ_self i), find?_store, if_pos rfl]
      rw [List.length_cons, List.range'_succ, List.filterMap_cons, hfirst]
      exact congrArg (h :: ·) (ih (s.store (target ++ i.repr) h) (i + 1))

/-! ## Queues that stay as they are -/

theorem sinks_storeAll (s : Session) (target : String) (i : Nat) (queue : List Handle) :
    (s.storeAll target i queue).sinks = s.sinks := by
  induction queue generalizing s i with
  | nil => rfl
  | cons h rest ih => exact ih _ (i + 1)

theorem queueOf_congr {s' : Session} (hs : s'.sinks = s.sinks) (sink : String) :
    s'.queueOf sink = s.queueOf sink := by
  rw [queueOf, queueOf, hs]

theorem queueOf_insert (s : Session) (sink : String) (queue : List Handle) (sink' : String) :
    ({ s with sinks := s.sinks.insert sink queue } : Session).queueOf sink'
      = if sink = sink' then queue else s.queueOf sink' := by
  rw [queueOf, Registry.find?_insert]
  split <;> rfl

/-- A sink that is new is empty. -/
theorem queueOf_ensureSink (s : Session) (divert : Option String) (sink : String) :
    (s.ensureSink divert).queueOf sink = s.queueOf sink := by
  cases divert with
  | none => rfl
  | some name =>
      unfold ensureSink
      simp only
      split
      · rfl
      · next hnew =>
        have hnone : s.sinks.find? name = none := by simpa [Registry.contains] using hnew
        rw [queueOf_insert]
        split
        · next hsame => rw [queueOf, ← hsame, hnone]; rfl
        · rfl

theorem withPacket_sinks {act : Handle → Session × Reply}
    (hact : ∀ h, (act h).1.sinks = s.sinks) : (s.withPacket name act).1.sinks = s.sinks :=
  withPacket_cases (P := fun after => after.1.sinks = s.sinks) rfl fun h _ => hact h

theorem withChecker_sinks {act : Checker → Session × Reply}
    (hact : ∀ c, (act c).1.sinks = s.sinks) : (s.withChecker name act).1.sinks = s.sinks :=
  withChecker_cases (P := fun after => after.1.sinks = s.sinks) rfl fun c _ => hact c

/-- Whether a command acts on sinks. -/
def involvesSink : Command → Bool
  | .createChecker .. | .process .. | .drain .. => true
  | _ => false

theorem sinks_step (s : Session) (hc : involvesSink c = false) : (s.step c).1.sinks = s.sinks := by
  cases c with
  | make target source =>
      show (s.make target source).1.sinks = s.sinks
      unfold Session.make
      split <;> rfl
  | clone packet target => exact withPacket_sinks fun h => rfl
  | toShared packet => exact withPacket_sinks fun h => rfl
  | kill packet => exact withPacket_sinks fun h => rfl
  | resize packet how =>
      refine withPacket_sinks fun h => ?_
      split <;> rfl
  | write packet region position bytes =>
      refine withPacket_sinks fun h => ?_
      split <;> rfl
  | adjust packet how =>
      refine withPacket_sinks fun h => ?_
      split <;> rfl
  | annotate packet how =>
      refine withPacket_sinks fun h => ?_
      split <;> rfl
  | inquire packet what => exact withPacket_sinks fun h => rfl
  | copyAnnotations packet source =>
      exact withPacket_sinks fun h => withPacket_sinks fun other => rfl
  | sameAnnotations packet other =>
      exact withPacket_sinks fun a => withPacket_sinks fun b => rfl
  | sameStorage packet other => exact withPacket_sinks fun a => withPacket_sinks fun b => rfl
  | inspect checker => exact withChecker_sinks fun c => rfl
  | validate checker packet times =>
      exact withChecker_sinks fun c => withPacket_sinks fun h => rfl
  | readHandler checker handler =>
      refine withChecker_sinks fun c => ?_
      split <;> rfl
  | sinkLength sink =>
      exact withSink_cases (P := fun after => after.1.sinks = s.sinks) rfl fun queue _ => rfl
  | _ => cases hc

/-! ## Queues that change -/

theorem queueOf_enqueue (s : Session) (sink : String) (h : Handle) (sink' : String) :
    (s.enqueue sink h).queueOf sink'
      = s.queueOf sink' ++ if sink = sink' then [h] else [] := by
  refine (s.queueOf_insert sink _ sink').trans ?_
  by_cases hsame : sink = sink'
  · subst hsame
    rw [if_pos rfl, if_pos rfl, queueOf]
  · rw [if_neg hsame, if_neg hsame, List.append_nil]

theorem verdict_validateTimes (c : Checker) (views : Option (Bytes × Bytes)) :
    (c.validateTimes views 0).verdict = c.transport.classify c.config.checksum views :=
  verdict_validate c views

/-- All that can come of processing a packet. -/
theorem process_outcome (s : Session) (checker packet : String) :
    ((s.checkers.find? checker = none ∨ s.packets.find? packet = none)
        ∧ (s.process checker packet).1 = s)
      ∨ ∃ c h, s.checkers.find? checker = some c ∧ s.packets.find? packet = some h
        ∧ ((c.transport.classify c.config.checksum (s.pool.headerViews h) = .ok ()
            ∧ (s.process checker packet).1 = (s.checked checker c h).update packet h.toShared)
          ∨ ∃ reason, c.transport.classify c.config.checksum (s.pool.headerViews h) = .error reason
            ∧ ((c.divert = none
                ∧ (s.process checker packet).1 = (s.checked checker c h).drop packet h)
              ∨ ∃ sink, c.divert = some sink ∧ (s.process checker packet).1
                = ((s.checked checker c h).remove packet).enqueue sink h.toShared)) := by
  cases hc : s.checkers.find? checker with
  | none => exact .inl ⟨.inl rfl, by rw [Session.process, withChecker, hc]⟩
  | some c =>
      cases hf : s.packets.find? packet with
      | none =>
          exact .inl ⟨.inr rfl, by simp only [Session.process, withChecker, hc, withPacket_none hf]⟩
      | some h =>
          have hverdict := verdict_validateTimes c (s.pool.headerViews h)
          refine .inr ⟨c, h, rfl, rfl, ?_⟩
          cases hv : c.transport.classify c.config.checksum (s.pool.headerViews h) with
          | ok _ => exact .inl ⟨rfl, process_of_pass hc hf (hverdict.trans hv)⟩
          | error reason =>
              refine .inr ⟨reason, rfl, ?_⟩
              cases hd : c.divert with
              | none => exact .inl ⟨rfl, process_of_release hc hf (hverdict.trans hv) hd⟩
              | some sink =>
                  exact .inr ⟨sink, rfl, process_of_divert hc hf (hverdict.trans hv) hd⟩

theorem queueOf_process (s : Session) (checker packet sink : String) :
    (s.process checker packet).1.queueOf sink
      = s.queueOf sink ++ s.divertedBy sink (.process checker packet) := by
  rcases s.process_outcome checker packet with ⟨hnone, hafter⟩
    | ⟨c, h, hc, hf, ⟨hv, hafter⟩ | ⟨reason, hv, ⟨hd, hafter⟩ | ⟨other, hd, hafter⟩⟩⟩
  · have hnothing : s.divertedBy sink (.process checker packet) = [] := by
      rcases hnone with hc | hf
      · simp only [divertedBy, hc]
      · simp only [divertedBy, hf]
        cases s.checkers.find? checker <;> rfl
    rw [hafter, hnothing, List.append_nil]
  · rw [hafter]
    simp only [divertedBy, hc, hf, hv, List.append_nil]
    rfl
  · rw [hafter]
    simp only [divertedBy, hc, hf, hv, hd, reduceCtorEq, if_false, List.append_nil]
    rfl
  · rw [hafter, queueOf_enqueue]
    simp only [divertedBy, hc, hf, hv, hd, Option.some.injEq]
    rfl

/-- A drain takes out all that a sink holds, and leaves the others alone. -/
theorem queueOf_drain (s : Session) (drained target sink : String) :
    s.queueOf sink = s.drainedBy sink (.drain drained target)
      ++ (s.drain drained target).1.queueOf sink := by
  cases hq : s.sinks.find? drained with
  | none =>
      simp only [drainedBy, Session.drain, withSink, hq, delivered, ite_self, List.nil_append]
  | some queue =>
      have hqueue : s.queueOf drained = queue := by rw [queueOf, hq]; rfl
      have hdelivered : delivered (s.drain drained target) target = queue := by
        simp only [Session.drain, withSink, hq, delivered, List.range_eq_range']
        exact filterMap_storeAll _ target 0 queue
      have hafter : (s.drain drained target).1.queueOf sink
          = if drained = sink then [] else s.queueOf sink := by
        simp only [Session.drain, withSink, hq]
        rw [queueOf_congr (sinks_storeAll _ target 0 queue), queueOf_insert]
      rw [drainedBy, hdelivered, hafter]
      by_cases hsame : drained = sink
      · rw [if_pos hsame, if_pos hsame, ← hsame, hqueue, List.append_nil]
      · rw [if_neg hsame, if_neg hsame, List.nil_append]

theorem queueOf_createChecker (s : Session) (checker : String) (transport : Transport)
    (name : String) (settings : List (String × Bool)) (divert : Option String) (sink : String) :
    (s.createChecker checker transport name settings divert).1.queueOf sink = s.queueOf sink := by
  unfold Session.createChecker
  split
  · rfl
  · have hsink := s.queueOf_ensureSink divert sink
    simp only
    split
    · exact hsink
    · exact hsink

/-- **What a command adds to a sink goes to its end, and what it takes comes from its front.** -/
theorem queueOf_step (s : Session) (sink : String) (c : Command) :
    s.queueOf sink ++ s.divertedBy sink c = s.drainedBy sink c ++ (s.step c).1.queueOf sink := by
  cases c with
  | process checker packet => exact (s.queueOf_process checker packet sink).symm
  | drain drained target =>
      show s.queueOf sink ++ [] = _
      rw [List.append_nil]
      exact s.queueOf_drain drained target sink
  | createChecker checker transport name settings divert =>
      exact (List.append_nil _).trans
        (s.queueOf_createChecker checker transport name settings divert sink).symm
  | _ => exact (List.append_nil _).trans (queueOf_congr (s.sinks_step rfl) sink).symm

/-- What has gone into a sink is what has come out of it, and after it what it holds. -/
theorem queueOf_run (s : Session) (sink : String) (cs : List Command) :
    s.queueOf sink ++ s.diverted sink cs = s.drained sink cs ++ (s.run cs).queueOf sink := by
  induction cs generalizing s with
  | nil => exact List.append_nil _
  | cons c rest ih =>
      calc s.queueOf sink ++ s.diverted sink (c :: rest)
          _ = (s.queueOf sink ++ s.divertedBy sink c) ++ (s.step c).1.diverted sink rest := by
              rw [diverted, List.append_assoc]
          _ = s.drainedBy sink c
                ++ ((s.step c).1.queueOf sink ++ (s.step c).1.diverted sink rest) := by
              rw [queueOf_step, List.append_assoc]
          _ = s.drained sink (c :: rest) ++ (s.run (c :: rest)).queueOf sink := by
              rw [ih, drained, run, List.append_assoc]

end Session

end PacketPath
