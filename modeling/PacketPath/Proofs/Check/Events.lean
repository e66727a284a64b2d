import PacketPath.Proofs.Check.Docket

set_option autoImplicit false

/-! # Checkers that share a log

Any number of checkers are made and given packets, in any order. From these events follow the docket
of each checker, which is a matter of its own events (`docket_filter`), and what is logged about all
of them, in order.

A name for checkers may be given again to a new one, which then starts with an empty docket.
-/

namespace PacketPath

/-- What happens to the checker under a name. -/
inductive CheckEvent
  /-- It is made, in place of any other. -/
  | made (key : String) (transport : Transport) (name : String) (config : CheckConfig)
      (divert : Option String)
  | given (key : String) (views : Option (Bytes × Bytes))

namespace CheckEvent

def key : CheckEvent → String
  | made key .. => key
  | given key .. => key

/-- What is known of the checker under a name after one event more. -/
def record (key : String) (known : Option Docket) : CheckEvent → Option Docket
  | made k transport name config divert =>
    if k = key then some ⟨transport, name, config, divert, []⟩ else known
  | given k views => if k = key then known.map (·.give views) else known

/-- The docket of the checker under a name. -/
def docket (key : String) (events : List CheckEvent) : Option Docket :=
  events.foldl (record key) none

/-- What is logged about an event, after some others. -/
def report (past : List CheckEvent) : CheckEvent → List LogRecord
  | made .. => []
  | given key views => ((docket key past).map (·.report views)).getD []

/-- What is logged about events, in order, after some others. -/
def reports (past : List CheckEvent) : List CheckEvent → List LogRecord
  | [] => []
  | e :: rest => e.report past ++ reports (past ++ [e]) rest

variable {key : String} {events more : List CheckEvent} {d : Docket}

/-! ## Dockets -/

theorem docket_append (key : String) (events more : List CheckEvent) :
    docket key (events ++ more) = more.foldl (record key) (docket key events) := by
  rw [docket, List.foldl_append]
  rfl

/-- The docket of a checker is a matter of its own events. -/
theorem docket_filter (key : String) (events : List CheckEvent) :
    docket key events = docket key (events.filter fun e => e.key = key) := by
  have hall : ∀ known, events.foldl (record key) known
      = (events.filter fun e => e.key = key).foldl (record key) known := by
    induction events with
    | nil => exact fun _ => rfl
    | cons e rest ih =>
        intro known
        by_cases he : e.key = key
        · rw [List.filter_cons_of_pos (by simpa using he), List.foldl_cons, List.foldl_cons, ih]
        · have hskip : record key known e = known := by
            cases e <;> exact if_neg he
          rw [List.filter_cons_of_neg (by simpa using he), List.foldl_cons, hskip, ih]
  exact hall none

theorem docket_made (key k : String) (transport : Transport) (name : String) (config : CheckConfig)
    (divert : Option String) (events : List CheckEvent) :
    docket key (events ++ [made k transport name config divert])
      = if k = key then some ⟨transport, name, config, divert, []⟩ else docket key events := by
  rw [docket_append]
  rfl

/-- Packets go into the docket of one checker. -/
theorem docket_given (key k : String) (events : List CheckEvent)
    (packets : List (Option (Bytes × Bytes))) :
    docket key (events ++ packets.map (given k))
      = if k = key then (docket key events).map (·.giveAll packets) else docket key events := by
  rw [docket_append]
  generalize docket key events = known
  by_cases hk : k = key
  · rw [if_pos hk]
    induction packets generalizing known with
    | nil => cases known <;> simp [Docket.giveAll]
    | cons views rest ih =>
        rw [List.map_cons, List.foldl_cons, record, if_pos hk, ih, Option.map_map]
        refine congrArg (known.map ·) (funext fun d => ?_)
        exact d.give_giveAll views rest
  · -- what another checker is given leaves no trace
    rw [if_neg hk]
    induction packets with
    | nil => rfl
    | cons views rest ih => rw [List.map_cons, List.foldl_cons, record, if_neg hk, ih]

/-- One event is at most one packet more. -/
theorem length_seen_record {known : Option Docket} {n : Nat} (e : CheckEvent)
    (hknown : ∀ d ∈ known, d.seen.length ≤ n) : ∀ d ∈ record key known e, d.seen.length ≤ n + 1 := by
  intro d hd
  cases e with
  | made k transport name config divert =>
      rw [record] at hd
      split at hd
      · cases hd
        exact Nat.zero_le _
      · exact Nat.le_succ_of_le (hknown d hd)
  | given k views =>
      rw [record] at hd
      split at hd
      · obtain ⟨before, hbefore, rfl⟩ := Option.map_eq_some_iff.mp hd
        have hle := hknown before hbefore
        rw [Docket.give, List.length_append, List.length_singleton]
        omega
      · exact Nat.le_succ_of_le (hknown d hd)

/-- A docket has no more packets than there were events. -/
theorem length_seen_le (hd : docket key events = some d) : d.seen.length ≤ events.length := by
  have hall : ∀ (l : List CheckEvent) (known : Option Docket) (n : Nat),
      (∀ d ∈ known, d.seen.length ≤ n) →
      ∀ d ∈ l.foldl (record key) known, d.seen.length ≤ n + l.length := by
    intro l
    induction l with
    | nil => exact fun _ _ hknown => hknown
    | cons e rest ih =>
        intro known n hknown d hmem
        have hrest := ih _ (n + 1) (length_seen_record e hknown) d hmem
        rw [List.length_cons]
        omega
  have hle := hall events none 0 nofun d hd
  omega

/-! ## Reports -/

theorem reports_append (past events more : List CheckEvent) :
    reports past (events ++ more) = reports past events ++ reports (past ++ events) more := by
  induction events generalizing past with
  | nil => rw [List.nil_append, List.append_nil, reports, List.nil_append]
  | cons e rest ih =>
      rw [List.cons_append, reports, reports, ih, List.append_assoc, List.append_assoc,
        List.singleton_append]

theorem reports_given {past : List CheckEvent} {k : String} (hd : docket k past = some d)
    (packets : List (Option (Bytes × Bytes))) :
    reports past (packets.map (given k)) = d.reports packets := by
  induction packets generalizing past d with
  | nil => rfl
  | cons views rest ih =>
      have hgiven : docket k (past ++ [given k views]) = some (d.give views) := by
        rw [docket_append, hd]
        exact if_pos rfl
      rw [List.map_cons, reports, report, hd, ih hgiven]
      rfl

/-- Whether no checker is ever given so many packets that a counter of it wraps. -/
def Few (events : List CheckEvent) : Prop :=
  ∀ past, past <+: events → ∀ key d, docket key past = some d → d.seen.length < 2 ^ 64

theorem Few.mono (hfew : Few more) (hle : events <+: more) : Few events :=
  fun past hpast => hfew past (hpast.trans hle)

/-- There are few packets where there are few events. -/
theorem few_of_length (hlt : events.length < 2 ^ 64) : Few events := by
  intro past hpast key d hd
  have hseen := length_seen_le hd
  have hle := hpast.length_le
  omega

end CheckEvent

end PacketPath
