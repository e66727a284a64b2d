import PacketPath.Proofs.Check.Events
import PacketPath.Proofs.Session.Sound

set_option autoImplicit false

/-! # The accounts of checkers

The events of a run are what happens to its checkers, read off the commands and the packets that
these are about. They give each checker its docket, and the log its messages, without a look at any
counter (`Accounted`).
-/

namespace PacketPath

/-- The most events for checkers that a command can bring. -/
def Command.checks : Command → Nat
  | .createChecker .. => 1
  | .validate _ _ times => times - 1 + 1
  | .process .. => 1
  | _ => 0

/-- What is logged with a reply. -/
def Reply.log : Reply → List LogRecord
  | .checked _ log _ => log
  | .processed _ log _ => log
  | _ => []

namespace Session

open CheckEvent

/-- One packet is given to a checker several times, if both are there. -/
def given (s : Session) (checker packet : String) (times : Nat) : List CheckEvent :=
  match s.checkers.find? checker, s.packets.find? packet with
  | some _, some h => (List.replicate times (s.pool.headerViews h)).map (.given checker)
  | _, _ => []

/-- What happens to checkers by a command. -/
def checkEvents (s : Session) : Command → List CheckEvent
  | .createChecker checker transport name settings divert =>
    match CheckConfig.ofKeywords settings with
    | .error _ => []
    | .ok config =>
      match Checker.create transport name config divert with
      | .error _ => []
      | .ok _ => [.made checker transport name config divert]
  | .validate checker packet times => s.given checker packet (times - 1 + 1)
  | .process checker packet => s.given checker packet 1
  | _ => []

/-- What happens to checkers in a run. -/
def events (s : Session) : List Command → List CheckEvent
  | [] => []
  | c :: rest => s.checkEvents c ++ (s.step c).1.events rest

/-- What is logged in a run. -/
def log (s : Session) : List Command → List LogRecord
  | [] => []
  | c :: rest => (s.step c).2.log ++ (s.step c).1.log rest

/-- The checkers are those of the dockets. -/
def Follows (s : Session) (es : List CheckEvent) : Prop :=
  ∀ key, s.checkers.find? key = (docket key es).map Docket.checker

variable {s : Session} {name : String} {es : List CheckEvent} {c : Command}

theorem length_given_le (s : Session) (checker packet : String) (times : Nat) :
    (s.given checker packet times).length ≤ times := by
  unfold given
  split
  · refine Nat.le_of_eq ?_
    rw [List.length_map, List.length_replicate]
  · exact Nat.zero_le _

theorem length_checkEvents_le (s : Session) (c : Command) : (s.checkEvents c).length ≤ c.checks := by
  cases c with
  | createChecker checker transport name settings divert =>
      simp only [checkEvents]
      split
      · exact Nat.zero_le _
      · split
        · exact Nat.zero_le _
        · exact Nat.le_refl _
  | validate checker packet times => exact s.length_given_le checker packet _
  | process checker packet => exact s.length_given_le checker packet 1
  | _ => exact Nat.zero_le _

/-- A run brings no more events than its commands can. -/
theorem length_events_le (s : Session) (cs : List Command) :
    (s.events cs).length ≤ (cs.map Command.checks).sum := by
  induction cs generalizing s with
  | nil => exact Nat.le_refl _
  | cons c rest ih =>
      rw [events, List.length_append, List.map_cons, List.sum_cons]
      exact Nat.add_le_add (s.length_checkEvents_le c) (ih _)

/-! ## Commands without checkers -/

theorem mapError_eq_error {α ε ε' : Type} {x : Except ε α} {f : ε → ε'} {e : ε'}
    (hx : x.mapError f = .error e) : ∃ cause, e = f cause := by
  cases x with
  | ok a => cases hx
  | error cause =>
      cases hx
      exact ⟨cause, rfl⟩

/-- A command that has left the checkers and the log alone. -/
def Uninvolved (s : Session) (after : Session × Reply) : Prop :=
  after.1.checkers = s.checkers ∧ after.2.log = []

theorem uninvolved_withPacket {act : Handle → Session × Reply}
    (hact : ∀ h, s.Uninvolved (act h)) : s.Uninvolved (s.withPacket name act) :=
  withPacket_cases (P := s.Uninvolved) ⟨rfl, rfl⟩ fun h _ => hact h

theorem uninvolved_withChecker {act : Checker → Session × Reply}
    (hact : ∀ c, s.Uninvolved (act c)) : s.Uninvolved (s.withChecker name act) :=
  withChecker_cases (P := s.Uninvolved) ⟨rfl, rfl⟩ fun c _ => hact c

theorem uninvolved_withSink {act : List Handle → Session × Reply}
    (hact : ∀ queue, s.Uninvolved (act queue)) : s.Uninvolved (s.withSink name act) :=
  withSink_cases (P := s.Uninvolved) ⟨rfl, rfl⟩ fun queue _ => hact queue

theorem checkers_storeAll (s : Session) (target : String) (i : Nat) (queue : List Handle) :
    (s.storeAll target i queue).checkers = s.checkers := by
  induction queue generalizing s i with
  | nil => rfl
  | cons h rest ih => exact ih _ (i + 1)

theorem log_of_refused {f : Frame} {limit : Nat} {how : Adjustment} {reply : Reply}
    (hr : how.apply f limit = .error reply) : reply.log = [] := by
  cases how with
  | pull n =>
      obtain ⟨e, rfl⟩ := mapError_eq_error hr
      rfl
  | take n =>
      obtain ⟨e, rfl⟩ := mapError_eq_error hr
      rfl
  | reposition headroom length =>
      obtain ⟨e, rfl⟩ := mapError_eq_error hr
      rfl
  | markHeader offset length =>
      obtain ⟨e, rfl⟩ := mapError_eq_error hr
      rfl
  | clearMarks => cases hr

theorem log_of_unchanged {h : Handle} {how : Annotating} {reply : Reply}
    (hr : how.apply h = .error reply) : reply.log = [] := by
  have huser : ∀ u, h.setUser u = .error reply → reply.log = [] := by
    intro u hu
    cases u with
    | none =>
        cases hu
        rfl
    | some user => cases hu
  cases how with
  | setByte i v => exact huser _ hr
  | setWord i v => exact huser _ hr
  | setInt i v => exact huser _ hr
  | setPacketType number =>
      simp only [Annotating.apply] at hr
      split at hr
      · cases hr
      · cases hr
        rfl
  | _ => cases hr

theorem log_of_answer (p : Pool) (h : Handle) (what : Inquiry) : (what.answer p h).log = [] := by
  have hread : ∀ value, (Reply.ofRead value).log = [] := by
    intro value
    cases value <;> rfl
  cases what with
  | byte i => exact hread _
  | word i => exact hread _
  | int i => exact hread _
  | _ => rfl

/-- Whether a command makes a checker or gives packets to one. -/
def involvesChecker : Command → Bool
  | .createChecker .. | .validate .. | .process .. => true
  | _ => false

theorem uninvolved_step (s : Session) (hc : involvesChecker c = false) :
    s.Uninvolved (s.step c) := by
  have hsame : ∀ reply : Reply, reply.log = [] → s.Uninvolved (s, reply) := fun _ hr => ⟨rfl, hr⟩
  cases c with
  | make target source =>
      show s.Uninvolved (s.make target source)
      unfold Session.make
      split
      · exact ⟨rfl, rfl⟩
      · exact hsame _ rfl
      · exact hsame _ rfl
  | clone packet target => exact uninvolved_withPacket fun h => ⟨rfl, rfl⟩
  | toShared packet => exact uninvolved_withPacket fun h => ⟨rfl, rfl⟩
  | kill packet => exact uninvolved_withPacket fun h => ⟨rfl, rfl⟩
  | resize packet how =>
      refine uninvolved_withPacket fun h => ?_
      split <;> exact ⟨rfl, rfl⟩
  | write packet region position bytes =>
      refine uninvolved_withPacket fun h => ?_
      split <;> exact ⟨rfl, rfl⟩
  | adjust packet how =>
      refine uninvolved_withPacket fun h => ?_
      split
      · exact ⟨rfl, rfl⟩
      · next reply hr => exact hsame reply (log_of_refused hr)
  | annotate packet how =>
      refine uninvolved_withPacket fun h => ?_
      split
      · exact ⟨rfl, rfl⟩
      · next reply hr => exact hsame reply (log_of_unchanged hr)
  | inquire packet what =>
      exact uninvolved_withPacket fun h => hsame _ (log_of_answer s.pool h what)
  | copyAnnotations packet source =>
      exact uninvolved_withPacket fun h => uninvolved_withPacket fun other => ⟨rfl, rfl⟩
  | sameAnnotations packet other =>
      exact uninvolved_withPacket fun a => uninvolved_withPacket fun b => hsame _ rfl
  | sameStorage packet other =>
      exact uninvolved_withPacket fun a => uninvolved_withPacket fun b => hsame _ rfl
  | inspect checker => exact uninvolved_withChecker fun c => hsame _ rfl
  | readHandler checker handler =>
      refine uninvolved_withChecker fun c => ?_
      split <;> exact hsame _ rfl
  | sinkLength sink => exact uninvolved_withSink fun queue => hsame _ rfl
  | drain sink target =>
      exact uninvolved_withSink fun queue => ⟨checkers_storeAll _ target 0 queue, rfl⟩
  | _ => cases hc

/-! ## Making checkers -/

theorem checkers_ensureSink (s : Session) (sink : Option String) :
    (s.ensureSink sink).checkers = s.checkers := by
  cases sink with
  | none => rfl
  | some sink =>
      unfold ensureSink
      simp only
      split <;> rfl

/-- After some events a command brings new ones, and logs what there is to log about them. -/
structure Accounts (es : List CheckEvent) (after : Session × Reply) (new : List CheckEvent) :
    Prop where
  follows : after.1.Follows (es ++ new)
  logged : after.2.log = reports es new

theorem Follows.uninvolved {after : Session × Reply} (hs : s.Follows es)
    (hafter : s.Uninvolved after) : Accounts es after [] := by
  refine ⟨fun key => ?_, hafter.2⟩
  rw [hafter.1, List.append_nil]
  exact hs key

theorem Follows.createChecker (hs : s.Follows es) (checker : String) (transport : Transport)
    (name : String) (settings : List (String × Bool)) (divert : Option String) :
    Accounts es (s.createChecker checker transport name settings divert)
      (s.checkEvents (.createChecker checker transport name settings divert)) := by
  cases hk : CheckConfig.ofKeywords settings with
  | error e =>
      simp only [Session.createChecker, checkEvents, hk]
      exact hs.uninvolved ⟨rfl, rfl⟩
  | ok config =>
      cases hc : Checker.create transport name config divert with
      | error e =>
          simp only [Session.createChecker, checkEvents, hk, hc]
          exact hs.uninvolved ⟨checkers_ensureSink s divert, rfl⟩
      | ok c =>
          simp only [Session.createChecker, checkEvents, hk, hc]
          refine ⟨fun key => ?_, rfl⟩
          show ((s.ensureSink divert).checkers.insert checker c).find? key = _
          rw [Registry.find?_insert, checkers_ensureSink, docket_made, Docket.create_eq_ok hc, hs key]
          split <;> rfl

/-! ## Giving packets -/

theorem given_of_found {checker packet : String} {c : Checker} {h : Handle}
    (hc : s.checkers.find? checker = some c) (hf : s.packets.find? packet = some h) (times : Nat) :
    s.given checker packet times
      = (List.replicate times (s.pool.headerViews h)).map (.given checker) := by
  simp only [Session.given, hc, hf]

/-- A packet that a checker of the session is given several times. -/
theorem Follows.given {after : Session × Reply} {checker packet : String} {c : Checker} {h : Handle}
    {again : Nat} (hs : s.Follows es) (hc : s.checkers.find? checker = some c)
    (hf : s.packets.find? packet = some h) (hfew : Few (es ++ s.given checker packet (again + 1)))
    (hcheckers : after.1.checkers = s.checkers.insert checker
      (c.validateTimes (s.pool.headerViews h) again).checker)
    (hlog : after.2.log = (c.validateTimes (s.pool.headerViews h) again).log) :
    Accounts es after (s.given checker packet (again + 1)) := by
  rw [given_of_found hc hf] at hfew ⊢
  generalize s.pool.headerViews h = views at hfew hcheckers hlog ⊢
  -- the checker is that of a docket
  have hdocket := hs checker
  rw [hc] at hdocket
  obtain ⟨d, hd, hdc⟩ := Option.map_eq_some_iff.mp hdocket.symm
  subst hdc
  have hall : docket checker (es ++ (List.replicate (again + 1) views).map (.given checker))
      = some (d.giveAll (List.replicate (again + 1) views)) := by
    rw [docket_given, if_pos rfl, hd]
    rfl
  constructor
  · intro key
    rw [hcheckers, Registry.find?_insert, d.validateTimes_checker, docket_given, hs key]
    by_cases hkey : checker = key
    · subst hkey
      rw [if_pos rfl, if_pos rfl, hd]
      rfl
    · rw [if_neg hkey, if_neg hkey]
  · have hlt := hfew _ List.prefix_rfl checker _ hall
    rw [Docket.giveAll, List.length_append, List.length_replicate] at hlt
    rw [hlog, Docket.validateTimes_log (by omega), reports_given hd]

theorem Follows.validate (hs : s.Follows es) (checker packet : String) (times : Nat)
    (hfew : Few (es ++ s.given checker packet (times - 1 + 1))) :
    Accounts es (s.validate checker packet times) (s.given checker packet (times - 1 + 1)) := by
  cases hc : s.checkers.find? checker with
  | none =>
      simp only [Session.validate, withChecker, Session.given, hc]
      exact hs.uninvolved ⟨rfl, rfl⟩
  | some c =>
      cases hf : s.packets.find? packet with
      | none =>
          simp only [Session.validate, withChecker, Session.given, hc, withPacket_none hf, hf]
          exact hs.uninvolved ⟨rfl, rfl⟩
      | some h =>
          refine hs.given hc hf hfew ?_ ?_
          · simp only [Session.validate, withChecker, hc, withPacket_some hf]
            rfl
          · simp only [Session.validate, withChecker, hc, withPacket_some hf]
            rfl

/-- A packet that is passed on or disposed of is given once, whatever becomes of it. -/
theorem Follows.process (hs : s.Follows es) (checker packet : String)
    (hfew : Few (es ++ s.given checker packet 1)) :
    Accounts es (s.process checker packet) (s.given checker packet 1) := by
  cases hc : s.checkers.find? checker with
  | none =>
      simp only [Session.process, withChecker, Session.given, hc]
      exact hs.uninvolved ⟨rfl, rfl⟩
  | some c =>
      cases hf : s.packets.find? packet with
      | none =>
          simp only [Session.process, withChecker, Session.given, hc, withPacket_none hf, hf]
          exact hs.uninvolved ⟨rfl, rfl⟩
      | some h =>
          refine hs.given hc hf hfew ?_ ?_
          · simp only [Session.process, withChecker, hc, withPacket_some hf]
            split
            · rfl
            · cases c.divert <;> rfl
          · simp only [Session.process, withChecker, hc, withPacket_some hf]
            split <;> rfl

/-! ## Runs -/

theorem Follows.step (hs : s.Follows es) (c : Command) (hfew : Few (es ++ s.checkEvents c)) :
    Accounts es (s.step c) (s.checkEvents c) := by
  cases c with
  | createChecker checker transport name settings divert =>
      exact hs.createChecker checker transport name settings divert
  | validate checker packet times => exact hs.validate checker packet times hfew
  | process checker packet => exact hs.process checker packet hfew
  | _ => exact hs.uninvolved (s.uninvolved_step rfl)

/-- A run keeps the dockets as its commands do, and logs what they log. -/
theorem Follows.run (hs : s.Follows es) (cs : List Command) (hfew : Few (es ++ s.events cs)) :
    (s.run cs).Follows (es ++ s.events cs) ∧ s.log cs = reports es (s.events cs) := by
  induction cs generalizing s es with
  | nil =>
      rw [events, List.append_nil]
      exact ⟨hs, rfl⟩
  | cons c rest ih =>
      rw [events, ← List.append_assoc] at hfew ⊢
      have hstep := hs.step c (hfew.mono (List.prefix_append _ _))
      -- the events of the first command are in the past of the others
      obtain ⟨hfollows, hlog⟩ := ih hstep.follows hfew
      refine ⟨hfollows, ?_⟩
      rw [log, hstep.logged, hlog, reports_append]

end Session

/-! ## The accounts -/

theorem recorded_logAll (messages : List LogRecord) :
    (LogProvider.recording.logAll messages).recorded = messages := by
  have hall : ∀ (out : LogOutput), (messages.foldl (fun out message => out.log .recording message)
      out).recorded = out.recorded ++ messages := by
    induction messages with
    | nil => exact fun out => (List.append_nil _).symm
    | cons message rest ih =>
        intro out
        rw [List.foldl_cons, ih]
        exact List.append_assoc _ _ _
  exact hall {}

open CheckEvent in
/-- How the checkers of a session, and the log that they share, account for what has happened. -/
structure Accounted (s : Session) (log : List LogRecord) (events : List CheckEvent) : Prop where
  /-- What is known of a checker is a matter of its own events. -/
  own : ∀ key, docket key events = docket key (events.filter fun e => e.key = key)
  /-- The checkers are those of their dockets. -/
  checkers : ∀ key, s.checkers.find? key = (docket key events).map Docket.checker
  /-- Their counters are exact. -/
  counted : ∀ key d, docket key events = some d → d.Counts d.checker
  /-- The log has the warnings about the packets that failed, in order. -/
  recorded : (LogProvider.recording.logAll log).recorded = reports [] events

/-- **Checkers account for their packets.** After any commands, in any order and on any packets,
checkers and sinks, whatever they answered, if no checker was given 2^64 packets. -/
theorem accounted_run (cs : List Command) (hfew : CheckEvent.Few (({} : Session).events cs)) :
    Accounted (({} : Session).run cs) (({} : Session).log cs) (({} : Session).events cs) := by
  have hempty : ({} : Session).Follows [] := fun _ => rfl
  obtain ⟨hfollows, hlog⟩ := hempty.run cs hfew
  refine ⟨fun key => CheckEvent.docket_filter key _, hfollows, ?_, ?_⟩
  · intro key d hd
    exact Docket.counts_checker (hfew _ List.prefix_rfl key d hd)
  · rw [recorded_logAll, hlog]

/-- A run with a TCP checker that logs everything and a UDP checker that does not, both given the
same packets in turn. -/
theorem accounted_run_interleaved :
    let cs : List Command :=
      [.make "p" (.copy 0 [69, 0] 0), .make "q" (.udp {} [1, 2, 3]),
       .createChecker "t" .tcp "in" [("VERBOSE", true), ("DETAILS", true)] (some "bad"),
       .createChecker "u" .udp "out" [] none,
       .validate "t" "q" 2, .validate "u" "q" 1, .validate "u" "p" 3, .process "t" "p",
       .process "u" "q"]
    CheckEvent.Few (({} : Session).events cs) ∧
      Accounted (({} : Session).run cs) (({} : Session).log cs) (({} : Session).events cs) := by
  intro cs
  have hfew : CheckEvent.Few (({} : Session).events cs) := by
    have hle := ({} : Session).length_events_le cs
    have hsum : (cs.map Command.checks).sum = 10 := by decide
    exact CheckEvent.few_of_length (by omega)
  exact ⟨hfew, accounted_run cs hfew⟩

end PacketPath
