import Mathlib.Algebra.GroupWithZero.Nat
import Mathlib.Data.List.Basic
import Mathlib.Tactic.Basic
import PacketPath.Check.Checker

set_option autoImplicit false

/-! # What a checker knows of its packets

A checker counts, and decides by a counter what it logs. A docket has what happened instead: how the
checker was made, and the packets that it was given, in order. From a docket follows the checker
(`Docket.checker`), counters included, and what is logged about the next packet (`Docket.report`);
that depends on whether a packet before it failed, and not on a counter.

Counters wrap. The numbers that they show are those of the packets as long as there are less than
2^64 of these.
-/

namespace PacketPath

namespace StatGroup

variable {n : Nat}

/-- The group that shows some counts. -/
def tally (owner name : String) (labels : Vector String n) (counts : Fin n → Nat) : StatGroup n :=
  ⟨owner, name, labels, Vector.ofFn fun i => UInt64.ofNat (counts i)⟩

variable {owner name : String} {labels : Vector String n} {counts counts' : Fin n → Nat}

theorem value_tally (i : Fin n) :
    (tally owner name labels counts).value i = UInt64.ofNat (counts i) := by
  simp only [value, tally, Fin.getElem_fin, Vector.getElem_ofFn]

/-- An increment counts one more. -/
theorem increment_tally (i : Fin n)
    (hcounts : ∀ j, counts' j = counts j + if i = j then 1 else 0) :
    ((tally owner name labels counts).increment i 1).2 = tally owner name labels counts' := by
  have hvalues : (Vector.ofFn fun j => UInt64.ofNat (counts j)).set i (UInt64.ofNat (counts i) + 1)
      = Vector.ofFn fun j => UInt64.ofNat (counts' j) := by
    refine Vector.ext fun j hj => ?_
    rw [Vector.getElem_set, Vector.getElem_ofFn, Vector.getElem_ofFn, hcounts]
    by_cases hij : i.val = j
    · have hfin : i = ⟨j, hj⟩ := Fin.ext hij
      rw [if_pos hij, if_pos hfin, UInt64.ofNat_add, hfin]
      rfl
    · have hfin : i ≠ ⟨j, hj⟩ := fun he => hij (congrArg Fin.val he)
      rw [if_neg hij, if_neg hfin, Nat.add_zero]
  show StatGroup.mk owner name labels (Vector.set _ _ _) = _
  rw [value_tally]
  exact congrArg (StatGroup.mk owner name labels) hvalues

/-- A new group has counted nothing. -/
theorem register_eq_ok {g : StatGroup n} (hg : register owner name labels = .ok g) :
    g = tally owner name labels fun _ => 0 := by
  unfold register at hg
  split at hg
  · cases hg
    have hvalues : Vector.replicate n (0 : UInt64) = Vector.ofFn fun _ => UInt64.ofNat 0 := by
      refine Vector.ext fun j hj => ?_
      rw [Vector.getElem_replicate, Vector.getElem_ofFn]
      rfl
    exact congrArg (StatGroup.mk owner name labels) hvalues
  · cases hg

end StatGroup

/-- What is known of a checker without its counters. -/
structure Docket where
  transport : Transport
  name : String
  config : CheckConfig
  divert : Option String
  /-- The packets that it was given, oldest first: the bytes from the marks on, if there are marks. -/
  seen : List (Option (Bytes × Bytes)) := []

namespace Docket

/-- The outcome of a check. -/
def outcome (d : Docket) (views : Option (Bytes × Bytes)) : Except DropReason Unit :=
  d.transport.classify d.config.checksum views

/-- Why a packet fails, if it does. -/
def failure? (d : Docket) (views : Option (Bytes × Bytes)) : Option DropReason :=
  match d.outcome views with
  | .ok () => none
  | .error reason => some reason

/-- The number of packets that passed. -/
def passed (d : Docket) : Nat := d.seen.countP fun views => (d.failure? views).isNone

/-- Why packets failed, in order. -/
def failures (d : Docket) : List DropReason := d.seen.filterMap d.failure?

/-- One packet more. -/
def give (d : Docket) (views : Option (Bytes × Bytes)) : Docket :=
  { d with seen := d.seen ++ [views] }

/-- More packets, one after the other. -/
def giveAll (d : Docket) (packets : List (Option (Bytes × Bytes))) : Docket :=
  { d with seen := d.seen ++ packets }

/-- The checker that has counted these packets. -/
def checker (d : Docket) : Checker where
  name := d.name
  transport := d.transport
  config := d.config
  stats := .tally "pktcheck" d.name #["count", "drops"].toVector
    fun i => if i.val = 0 then d.passed else d.failures.length
  reasons :=
    if d.config.details then
      some (.tally "pktcheck_reasons" d.name #["not_proto", "bad_length", "bad_checksum"].toVector
        fun i => d.failures.countP fun reason => reason.index = i)
    else none
  divert := d.divert

/-- The name of the protocol in a message. -/
def protocolName (d : Docket) : String :=
  match d.transport with
  | .tcp => "TCP"
  | .udp => "UDP"

/-- What is logged about a packet: a warning if it fails, and is the first one or all are logged. -/
def report (d : Docket) (views : Option (Bytes × Bytes)) : List LogRecord :=
  match d.failure? views with
  | none => []
  | some reason =>
    if d.failures = [] ∨ d.config.verbose then
      [⟨.warn, d.name ++ ": " ++ d.protocolName ++ " header check failed: "
        ++ d.transport.reasonText reason⟩]
    else []

/-- What is logged about packets that are given one after the other. -/
def reports (d : Docket) : List (Option (Bytes × Bytes)) → List LogRecord
  | [] => []
  | views :: rest => d.report views ++ (d.give views).reports rest

variable {d : Docket} {views : Option (Bytes × Bytes)} {reason : DropReason}

theorem outcome_of_pass (hv : d.failure? views = none) : d.outcome views = .ok () := by
  unfold failure? at hv
  split at hv
  · next h => exact h
  · cases hv

theorem outcome_of_fail (hv : d.failure? views = some reason) : d.outcome views = .error reason := by
  unfold failure? at hv
  split at hv
  · cases hv
  · next h =>
    cases hv
    exact h

/-! ## Making a checker -/

/-- A new checker has counted no packets. -/
theorem create_eq_ok {transport : Transport} {name : String} {config : CheckConfig}
    {divert : Option String} {c : Checker}
    (hc : Checker.create transport name config divert = .ok c) :
    c = (Docket.mk transport name config divert []).checker := by
  have hstats : StatGroup.tally "pktcheck" name #v["count", "drops"] (fun _ => 0)
      = (Docket.mk transport name config divert []).checker.stats := by
    refine congrArg (StatGroup.tally "pktcheck" name #v["count", "drops"]) (funext fun i => ?_)
    split <;> rfl
  unfold Checker.create at hc
  cases hs : StatGroup.register "pktcheck" name #v["count", "drops"] with
  | error e =>
      rw [hs] at hc
      cases hc
  | ok stats =>
      rw [hs] at hc
      obtain rfl := StatGroup.register_eq_ok hs
      cases hdetails : config.details with
      | false =>
          simp only [hdetails] at hc
          cases hc
          simp only [checker, hdetails, hstats]
          rfl
      | true =>
          simp only [hdetails] at hc
          cases hr : StatGroup.register "pktcheck_reasons" name
              #v["not_proto", "bad_length", "bad_checksum"] with
          | error e =>
              rw [hr] at hc
              cases hc
          | ok reasons =>
              rw [hr] at hc
              obtain rfl := StatGroup.register_eq_ok hr
              cases hc
              simp only [checker, hdetails, hstats]
              rfl

/-! ## Giving packets -/

theorem passed_give (d : Docket) (views : Option (Bytes × Bytes)) :
    (d.give views).passed = d.passed + if (d.failure? views).isNone then 1 else 0 := by
  show (d.seen ++ [views]).countP _ = _
  rw [List.countP_append, List.countP_singleton]
  rfl

theorem failures_give (d : Docket) (views : Option (Bytes × Bytes)) :
    (d.give views).failures = d.failures ++ (d.failure? views).toList := by
  show (d.seen ++ [views]).filterMap d.failure? = _
  rw [List.filterMap_append]
  cases hv : d.failure? views with
  | none => simp [failures, hv]
  | some reason => simp [failures, hv]

/-- A packet passes or fails. -/
theorem passed_add_failures (d : Docket) : d.passed + d.failures.length = d.seen.length := by
  unfold passed failures
  induction d.seen with
  | nil => rfl
  | cons views rest ih =>
      cases hv : d.failure? views with
      | none =>
          rw [List.countP_cons_of_pos (by rw [hv]; rfl), List.filterMap_cons_none hv,
            List.length_cons]
          omega
      | some reason =>
          rw [List.countP_cons_of_neg (by rw [hv]; nofun), List.filterMap_cons_some hv,
            List.length_cons, List.length_cons]
          omega

theorem recordPass_checker (hv : d.failure? views = none) :
    d.checker.recordPass = (d.give views).checker := by
  have hpassed : (d.give views).passed = d.passed + 1 := by rw [passed_give, hv]; rfl
  have hfailures : (d.give views).failures = d.failures := by
    rw [failures_give, hv]
    exact List.append_nil _
  have hstats : (d.checker.stats.increment 0 1).2 = (d.give views).checker.stats := by
    refine StatGroup.increment_tally 0 fun j => ?_
    rw [hpassed, hfailures]
    by_cases hj : j.val = 0
    · have hzero : 0 = j := Fin.ext hj.symm
      rw [if_pos hj, if_pos hj, if_pos hzero]
    · have hzero : ¬ 0 = j := fun he => hj (congrArg Fin.val he.symm)
      rw [if_neg hj, if_neg hj, if_neg hzero, Nat.add_zero]
  have hreasons : d.checker.reasons = (d.give views).checker.reasons := by
    simp only [checker, hfailures]
    rfl
  rw [Checker.recordPass, hstats, hreasons]
  rfl

theorem recordDrop_checker (hv : d.failure? views = some reason) :
    (d.checker.recordDrop reason).1 = (d.give views).checker := by
  have hpassed : (d.give views).passed = d.passed := by rw [passed_give, hv]; rfl
  have hfailures : (d.give views).failures = d.failures ++ [reason] := by rw [failures_give, hv]; rfl
  have hstats : (d.checker.stats.increment 1 1).2 = (d.give views).checker.stats := by
    refine StatGroup.increment_tally 1 fun j => ?_
    rw [hpassed, hfailures, List.length_append, List.length_singleton]
    by_cases hj : j.val = 0
    · obtain rfl : j = 0 := Fin.ext hj
      rfl
    · have hone : 1 = j := by omega
      rw [if_neg hj, if_neg hj, if_pos hone]
  have hreasons : d.checker.reasons.map (fun group => (group.increment reason.index 1).2)
      = (d.give views).checker.reasons := by
    show Option.map _ (if d.config.details then some _ else none)
      = if d.config.details then some _ else none
    cases d.config.details with
    | false => rfl
    | true =>
        refine congrArg some (StatGroup.increment_tally reason.index fun j => ?_)
        rw [hfailures, List.countP_append, List.countP_singleton]
        simp only [decide_eq_true_eq]
  show ({ d.checker with
    stats := (d.checker.stats.increment 1 1).2
    reasons := d.checker.reasons.map fun group => (group.increment reason.index 1).2 } : Checker) = _
  rw [hstats, hreasons]
  rfl

/-- A checker counts the packet that passes, and logs nothing. -/
theorem validate_of_pass (hv : d.failure? views = none) :
    d.checker.validate views = ⟨(d.give views).checker, .ok (), none⟩ := by
  have hclassify : d.checker.transport.classify d.checker.config.checksum views = .ok () :=
    outcome_of_pass hv
  rw [Checker.validate, hclassify, ← recordPass_checker hv]

/-- A checker counts the packet that fails; what it logs is decided by its counter of drops. -/
theorem validate_of_fail (hv : d.failure? views = some reason) :
    d.checker.validate views = ⟨(d.give views).checker, .error reason,
      if d.checker.drops = 0 || d.config.verbose then some (d.checker.dropMessage reason)
      else none⟩ := by
  have hclassify : d.checker.transport.classify d.checker.config.checksum views = .error reason :=
    outcome_of_fail hv
  rw [Checker.validate, hclassify, ← recordDrop_checker hv]
  rfl

theorem validate_checker (d : Docket) (views : Option (Bytes × Bytes)) :
    (d.checker.validate views).checker = (d.give views).checker := by
  cases hv : d.failure? views with
  | none => rw [validate_of_pass hv]
  | some reason => rw [validate_of_fail hv]

/-! ## What the counters show -/

theorem failures_length_le (d : Docket) : d.failures.length ≤ d.seen.length := by
  have := d.passed_add_failures
  omega

theorem passed_le (d : Docket) : d.passed ≤ d.seen.length := by
  have := d.passed_add_failures
  omega

theorem count_eq (d : Docket) : d.checker.count = UInt64.ofNat d.passed := StatGroup.value_tally 0

theorem drops_eq (d : Docket) : d.checker.drops = UInt64.ofNat d.failures.length :=
  StatGroup.value_tally 1

/-- The reasons have different places in the group. -/
theorem countP_index (l : List DropReason) (reason : DropReason) :
    (l.countP fun r => r.index = reason.index) = l.count reason := by
  refine List.countP_congr fun r _ => ?_
  cases r <;> cases reason <;> decide

theorem reasonCount_eq (d : Docket) (reason : DropReason) : d.checker.reasonCount reason
    = if d.config.details then some (UInt64.ofNat (d.failures.count reason)) else none := by
  show Option.map _ (if d.config.details then some _ else none) = _
  cases d.config.details with
  | false => rfl
  | true =>
      refine congrArg some ((StatGroup.value_tally reason.index).trans ?_)
      rw [countP_index]

/-- There are no other reasons. -/
theorem count_reasons (l : List DropReason) :
    l.count .notProtocol + l.count .badLength + l.count .badChecksum = l.length := by
  induction l with
  | nil => rfl
  | cons reason rest ih =>
      simp only [List.count_cons, List.length_cons]
      cases reason <;> simp <;> omega

/-- What the counters of a checker say about the packets of a docket. -/
structure Counts (d : Docket) (c : Checker) : Prop where
  count : c.count.toNat = d.passed
  drops : c.drops.toNat = d.failures.length
  /-- Reasons are counted if the options say so. -/
  reasons : ∀ reason, (c.reasonCount reason).map UInt64.toNat
    = if d.config.details then some (d.failures.count reason) else none
  total : ∀ notProtocol badLength badChecksum, c.reasonCount .notProtocol = some notProtocol →
    c.reasonCount .badLength = some badLength → c.reasonCount .badChecksum = some badChecksum →
    notProtocol.toNat + badLength.toNat + badChecksum.toNat = c.drops.toNat

/-- The counters are exact as long as there are less than 2^64 packets. -/
theorem counts_checker (hlt : d.seen.length < 2 ^ 64) : d.Counts d.checker := by
  have hexact : ∀ n, n ≤ d.seen.length → (UInt64.ofNat n).toNat = n := by
    intro n hn
    exact UInt64.toNat_ofNat_of_lt' (Nat.lt_of_le_of_lt hn hlt)
  have hcount : ∀ reason, (UInt64.ofNat (d.failures.count reason)).toNat
      = d.failures.count reason := by
    intro reason
    exact hexact _ (Nat.le_trans List.count_le_length d.failures_length_le)
  refine ⟨?_, ?_, ?_, ?_⟩
  · rw [count_eq, hexact _ d.passed_le]
  · rw [drops_eq, hexact _ d.failures_length_le]
  · intro reason
    rw [reasonCount_eq]
    cases d.config.details with
    | false => rfl
    | true => exact congrArg some (hcount reason)
  · intro notProtocol badLength badChecksum h₁ h₂ h₃
    rw [reasonCount_eq] at h₁ h₂ h₃
    cases hdetails : d.config.details with
    | false =>
        rw [hdetails] at h₁
        cases h₁
    | true =>
        simp only [hdetails, if_true, Option.some_inj] at h₁ h₂ h₃
        rw [← h₁, ← h₂, ← h₃, hcount, hcount, hcount, count_reasons, drops_eq,
          hexact _ d.failures_length_le]

/-! ## What is logged -/

/-- A counter that shows zero has counted nothing, if it cannot have wrapped. -/
theorem drops_eq_zero_iff (hlt : d.seen.length < 2 ^ 64) :
    d.checker.drops = 0 ↔ d.failures = [] := by
  have hdrops := (counts_checker hlt).drops
  rw [← List.length_eq_zero_iff, ← hdrops, ← UInt64.toNat_inj]
  rfl

theorem dropMessage_checker (d : Docket) (reason : DropReason) :
    d.checker.dropMessage reason = ⟨.warn, d.name ++ ": " ++ d.protocolName
      ++ " header check failed: " ++ d.transport.reasonText reason⟩ := by
  have hname : d.transport.protocol.describe = d.protocolName := by
    unfold protocolName
    cases d.transport <;> rfl
  rw [← hname]
  rfl

/-- What a checker logs depends on the packets before, and not on what its counter shows. -/
theorem validate_logged (hlt : d.seen.length < 2 ^ 64) (views : Option (Bytes × Bytes)) :
    (d.checker.validate views).logged.toList = d.report views := by
  cases hv : d.failure? views with
  | none =>
      rw [validate_of_pass hv, report, hv]
      rfl
  | some reason =>
      rw [validate_of_fail hv, report, hv, dropMessage_checker]
      simp only [Bool.or_eq_true, decide_eq_true_eq, drops_eq_zero_iff hlt]
      split <;> rfl

/-! ## Several packets -/

theorem give_giveAll (d : Docket) (views : Option (Bytes × Bytes))
    (packets : List (Option (Bytes × Bytes))) :
    (d.give views).giveAll packets = d.giveAll (views :: packets) := by
  simp only [give, giveAll, List.append_assoc, List.singleton_append]

theorem giveAll_give (d : Docket) (views : Option (Bytes × Bytes))
    (packets : List (Option (Bytes × Bytes))) :
    (d.giveAll packets).give views = d.giveAll (packets ++ [views]) := by
  simp only [give, giveAll, List.append_assoc]

theorem reports_concat (d : Docket) (views : Option (Bytes × Bytes))
    (packets : List (Option (Bytes × Bytes))) :
    d.reports (packets ++ [views]) = d.reports packets ++ (d.giveAll packets).report views := by
  induction packets generalizing d with
  | nil =>
      have hnone : d.giveAll [] = d := by simp only [giveAll, List.append_nil]
      rw [hnone]
      exact List.append_nil _
  | cons first rest ih => rw [List.cons_append, reports, reports, ih, give_giveAll, List.append_assoc]

/-- A packet that is checked repeatedly counts as many. -/
theorem validateTimes_checker (d : Docket) (views : Option (Bytes × Bytes)) (again : Nat) :
    (d.checker.validateTimes views again).checker
      = (d.giveAll (List.replicate (again + 1) views)).checker := by
  induction again with
  | zero => exact d.validate_checker views
  | succ again ih =>
      rw [Checker.validateTimes, ih, validate_checker, giveAll_give, ← List.replicate_succ']

/-- A packet that is checked repeatedly is reported as many times, or once. -/
theorem validateTimes_log {again : Nat} (hlt : d.seen.length + again < 2 ^ 64)
    (views : Option (Bytes × Bytes)) :
    (d.checker.validateTimes views again).log = d.reports (List.replicate (again + 1) views) := by
  induction again with
  | zero =>
      have hone : d.reports (List.replicate 1 views) = d.report views := List.append_nil _
      rw [hone]
      exact validate_logged hlt views
  | succ again ih =>
      -- the last check is made with the counters that those before have left
      have hbefore : (d.giveAll (List.replicate (again + 1) views)).seen.length < 2 ^ 64 := by
        rw [giveAll, List.length_append, List.length_replicate]
        omega
      rw [Checker.validateTimes, validateTimes_checker, ih (by omega), validate_logged hbefore,
        ← reports_concat, ← List.replicate_succ']

-- packets without marks, of which only the first is reported
example : (Docket.mk .udp "in" {} none []).reports [none, none]
    = [⟨.warn, "in: UDP header check failed: not UDP"⟩] := by decide

end Docket

end PacketPath
