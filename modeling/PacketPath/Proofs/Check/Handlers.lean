import PacketPath.Proofs.Check.Docket
import PacketPath.Proofs.Text.Reading

set_option autoImplicit false

/-! # What the handlers of a checker report

A handler is a name under which a counter can be read as text, or the table of drops, one line for
each reason. The table is there if the options ask for it. Its numbers stand in columns, but are
printed in full where a column is too narrow, so that they can always be read back.

Each packet that fails is counted once as a drop and once for its reason. So the numbers of the
table make the number of drops, up to the 2^64 at which counters wrap (`Docket.total_table`).
-/

namespace PacketPath

/-! ## The table of drops -/

namespace Checker

variable {transport : Transport} {group : StatGroup 3}

/-- A checker after some packets. -/
def checkAll (c : Checker) (packets : List (Option (Bytes × Bytes))) : Checker :=
  packets.foldl (fun c views => (c.validate views).checker) c

/-- The numbers at the front of the lines of a text. -/
def numbers (table : String) : List Nat := (Text.lines table).filterMap Text.readCount?

/-- A line with a number in 15 columns and a text in 24, both aligned to the right. -/
def DropLine (n : Nat) (text line : String) : Prop :=
  ∃ number reason, Text.RightAligned 15 n.repr number ∧ Text.RightAligned 24 text reason
    ∧ line = number ++ " packets due to: " ++ reason

/-- A table with a line for each reason, in order, in the words of the protocol. -/
structure DropTable (transport : Transport) (group : StatGroup 3) (table : String) : Prop where
  lines : ∃ notProtocol badLength badChecksum,
    Text.lines table = [notProtocol, badLength, badChecksum, ""]
      ∧ DropLine (group.value 0).toNat (transport.reasonText .notProtocol) notProtocol
      ∧ DropLine (group.value 1).toNat (transport.reasonText .badLength) badLength
      ∧ DropLine (group.value 2).toNat (transport.reasonText .badChecksum) badChecksum
  /-- The counters of the group can be read back. -/
  numbers : numbers table = group.values.toList.map UInt64.toNat

/-- A line of the table without its newline. -/
def detailText (count : UInt64) (text : String) : String :=
  Text.padLeft 15 ' ' count.toNat.repr ++ " packets due to: " ++ Text.padLeft 24 ' ' text

theorem dropLine_detailText (count : UInt64) (text : String) :
    DropLine count.toNat text (detailText count text) :=
  ⟨_, _, Text.rightAligned_padLeft 15 _, Text.rightAligned_padLeft 24 text, rfl⟩

theorem readCount?_detailText (count : UInt64) (text : String) :
    Text.readCount? (detailText count text) = some count.toNat := by
  rw [detailText, String.append_assoc]
  refine Text.readCount?_padLeft 15 count.toNat _ fun d hd => ?_
  have hblank : d = ' ' := by simpa [eq_comm] using hd
  rw [hblank]
  decide

theorem newline_notMem_padLeft {width : Nat} {s : String} (h : '\n' ∉ s.toList) :
    '\n' ∉ (Text.padLeft width ' ' s).toList := by
  rw [Text.toList_padLeft, List.mem_append]
  rintro (hpad | hs)
  · exact absurd (List.eq_of_mem_replicate hpad) (by decide)
  · exact h hs

theorem newline_notMem_detailText {text : String} (h : '\n' ∉ text.toList) (count : UInt64) :
    '\n' ∉ (detailText count text).toList := by
  have hdigits : '\n' ∉ count.toNat.repr.toList := fun hmem =>
    absurd (Text.isDigit_of_mem_repr hmem) (by decide)
  rw [detailText, String.toList_append, String.toList_append, List.mem_append, List.mem_append]
  rintro ((hnumber | hmiddle) | hreason)
  · exact newline_notMem_padLeft hdigits hnumber
  · exact absurd hmiddle (by decide)
  · exact newline_notMem_padLeft h hreason

theorem newline_notMem_reasonText (transport : Transport) (reason : DropReason) :
    '\n' ∉ (transport.reasonText reason).toList := by
  cases transport <;> cases reason <;> decide

/-- The texts of the reasons, for each protocol. -/
example : DropReason.all.map Transport.tcp.reasonText
      = ["not TCP", "bad packet length", "bad TCP checksum"]
    ∧ DropReason.all.map Transport.udp.reasonText
      = ["not UDP", "bad packet length", "bad UDP checksum"] := by decide

theorem toList_values (group : StatGroup 3) :
    group.values.toList = [group.value 0, group.value 1, group.value 2] := by
  obtain ⟨owner, name, labels, values⟩ := group
  refine List.ext_getElem (by simp) fun i h _ => ?_
  have hi : i < 3 := by simpa using h
  match i, hi with
  | 0, _ => rfl
  | 1, _ => rfl
  | 2, _ => rfl

/-- The lines of a table are taken apart again. -/
theorem dropTable_of_lines {table : String}
    (h : table = String.join (DropReason.all.map fun reason =>
      detailLine (group.value reason.index) (transport.reasonText reason))) :
    DropTable transport group table := by
  set texts := DropReason.all.map fun reason =>
    detailText (group.value reason.index) (transport.reasonText reason) with htexts
  have hlines : Text.lines table = texts ++ [""] := by
    have hnewline : ∀ l ∈ texts, '\n' ∉ l.toList := by
      intro l hl
      obtain ⟨reason, -, rfl⟩ := List.mem_map.mp hl
      exact newline_notMem_detailText (newline_notMem_reasonText transport reason) _
    rw [← Text.lines_join hnewline, h, htexts, List.map_map]
    rfl
  constructor
  · exact ⟨_, _, _, hlines, dropLine_detailText _ _, dropLine_detailText _ _,
      dropLine_detailText _ _⟩
  · have hread : texts.filterMap Text.readCount?
        = DropReason.all.map fun reason => (group.value reason.index).toNat := by
      rw [htexts, List.filterMap_map]
      simp only [Function.comp_def, readCount?_detailText]
      rfl
    have hempty : [""].filterMap Text.readCount? = [] := by decide
    rw [Checker.numbers, hlines, List.filterMap_append, hread, hempty, List.append_nil,
      toList_values]
    rfl

end Checker

/-! ## Reading handlers -/

namespace Checker

theorem readHandler_count (c : Checker) : c.readHandler "count" = .ok c.count.toNat.repr :=
  if_pos rfl

theorem readHandler_drops (c : Checker) : c.readHandler "drops" = .ok c.drops.toNat.repr := by
  have hne : ¬ "drops" = "count" := by decide
  rw [readHandler, if_neg hne, if_pos rfl]

theorem readHandler_details (c : Checker) : c.readHandler "drop_details"
    = match c.dropDetails with
      | some text => .ok text
      | none => .error (.unknownHandler "drop_details") := by
  have hcount : ¬ "drop_details" = "count" := by decide
  have hdrops : ¬ "drop_details" = "drops" := by decide
  exact (if_neg hcount).trans ((if_neg hdrops).trans (if_pos rfl))

/-- There is no fourth handler. -/
theorem readHandler_of_ne {c : Checker} {name : String} (hcount : name ≠ "count")
    (hdrops : name ≠ "drops") (hdetails : name ≠ "drop_details") :
    c.readHandler name = .error (.unknownHandler name) := by
  rw [readHandler, if_neg hcount, if_neg hdrops, if_neg hdetails]

theorem mem_handlers_iff (c : Checker) (name : String) : name ∈ c.handlers
    ↔ name = "count" ∨ name = "drops" ∨ name = "drop_details" ∧ c.reasons.isSome = true := by
  unfold handlers
  split
  · next h => simp [h]
  · next h => simp [h]

/-- The handlers that are listed can be read, and no other names. -/
theorem readHandler_ok_iff (c : Checker) (name : String) :
    (∃ text, c.readHandler name = .ok text) ↔ name ∈ c.handlers := by
  rw [mem_handlers_iff]
  by_cases hcount : name = "count"
  · subst hcount
    exact iff_of_true ⟨_, c.readHandler_count⟩ (.inl rfl)
  by_cases hdrops : name = "drops"
  · subst hdrops
    exact iff_of_true ⟨_, c.readHandler_drops⟩ (.inr (.inl rfl))
  by_cases hdetails : name = "drop_details"
  · subst hdetails
    rw [readHandler_details, dropDetails]
    cases c.reasons with
    | none =>
        refine iff_of_false ?_ (by decide)
        rintro ⟨text, htext⟩
        cases htext
    | some group => exact iff_of_true ⟨_, rfl⟩ (.inr (.inr ⟨rfl, rfl⟩))
  · rw [readHandler_of_ne hcount hdrops hdetails]
    refine iff_of_false ?_ ?_
    · rintro ⟨text, htext⟩
      cases htext
    · rintro (hname | hname | ⟨hname, -⟩)
      · exact hcount hname
      · exact hdrops hname
      · exact hdetails hname

/-- A table that can be read is that of the counters for the reasons. -/
theorem dropTable_of_read {c : Checker} {table : String}
    (h : c.readHandler "drop_details" = .ok table) :
    ∃ group, c.reasons = some group ∧ DropTable c.transport group table := by
  rw [readHandler_details, dropDetails] at h
  cases hc : c.reasons with
  | none =>
      rw [hc] at h
      cases h
  | some group =>
      rw [hc] at h
      exact ⟨group, rfl, dropTable_of_lines (Except.ok.inj h).symm⟩

/-- Where reasons are counted, the handler gives their table. -/
theorem readHandler_table {c : Checker} {group : StatGroup 3} (hc : c.reasons = some group) :
    ∃ table, c.readHandler "drop_details" = .ok table
      ∧ DropTable c.transport group table := by
  refine ⟨_, ?_, dropTable_of_lines rfl⟩
  rw [readHandler_details, dropDetails, hc]
  rfl

end Checker

/-! ## Checkers that have counted -/

/-- What the handlers of a checker report, for the docket of its packets. -/
structure Reports (d : Docket) (c : Checker) : Prop where
  read_iff : ∀ name, (∃ text, c.readHandler name = .ok text) ↔ name ∈ c.handlers
  details_iff : "drop_details" ∈ c.handlers ↔ d.config.details = true
  count : c.readHandler "count" = .ok c.count.toNat.repr
  drops : c.readHandler "drops" = .ok c.drops.toNat.repr
  /-- The table is that of the counters for each reason. -/
  table : d.config.details = true → ∃ group table, c.reasons = some group
    ∧ c.readHandler "drop_details" = .ok table ∧ Checker.DropTable d.transport group table
  /-- The numbers of the table make the number of drops, as far as that can be counted. -/
  total : ∀ table drops, c.readHandler "drop_details" = .ok table →
    c.readHandler "drops" = .ok drops → ∃ n, Text.readCount? drops = some n
      ∧ (Checker.numbers table).sum % 2 ^ 64 = n
      ∧ (d.failures.length < 2 ^ 64 → (Checker.numbers table).sum = n)

namespace Docket

theorem checkAll_checker (d : Docket) (packets : List (Option (Bytes × Bytes))) :
    d.checker.checkAll packets = (d.giveAll packets).checker := by
  induction packets generalizing d with
  | nil =>
      have hnone : d.giveAll [] = d := by simp only [giveAll, List.append_nil]
      rw [hnone]
      rfl
  | cons views rest ih =>
      rw [← give_giveAll, ← ih, ← validate_checker]
      rfl

theorem isSome_reasons (d : Docket) : d.checker.reasons.isSome = d.config.details := by
  show (if d.config.details then some _ else none).isSome = _
  cases d.config.details <;> rfl

/-- The counters for the reasons. -/
theorem value_reasons {d : Docket} {group : StatGroup 3} (hg : d.checker.reasons = some group)
    (reason : DropReason) :
    (group.value reason.index).toNat = d.failures.count reason % 2 ^ 64 := by
  have hcount := d.reasonCount_eq reason
  rw [Checker.reasonCount, ← d.isSome_reasons, hg] at hcount
  have hvalue : group.value reason.index = UInt64.ofNat (d.failures.count reason) :=
    Option.some.inj hcount
  rw [hvalue]
  exact UInt64.toNat_ofNat'

/-- Each failure is in one number of the table. -/
theorem total_table {d : Docket} {group : StatGroup 3} {table : String}
    (hg : d.checker.reasons = some group) (ht : Checker.DropTable d.transport group table) :
    (Checker.numbers table).sum % 2 ^ 64 = d.checker.drops.toNat
      ∧ (d.failures.length < 2 ^ 64 → (Checker.numbers table).sum = d.checker.drops.toNat) := by
  have hreasons := count_reasons d.failures
  have hsum : (Checker.numbers table).sum = d.failures.count .notProtocol % 2 ^ 64
      + (d.failures.count .badLength % 2 ^ 64 + d.failures.count .badChecksum % 2 ^ 64) := by
    rw [ht.numbers, Checker.toList_values, ← value_reasons hg, ← value_reasons hg,
      ← value_reasons hg]
    rfl
  have hdrops : d.checker.drops.toNat = d.failures.length % 2 ^ 64 := by
    rw [drops_eq]
    exact UInt64.toNat_ofNat'
  rw [hsum, hdrops]
  omega

theorem reports_checker (d : Docket) : Reports d d.checker := by
  refine ⟨d.checker.readHandler_ok_iff, ?_, d.checker.readHandler_count,
    d.checker.readHandler_drops, fun hdetails => ?_, fun table drops htable hdrops => ?_⟩
  · rw [Checker.mem_handlers_iff, ← d.isSome_reasons]
    simp
  · rw [← d.isSome_reasons] at hdetails
    obtain ⟨group, hg⟩ := Option.isSome_iff_exists.mp hdetails
    obtain ⟨table, htable, hlines⟩ := Checker.readHandler_table hg
    exact ⟨group, table, hg, htable, hlines⟩
  · obtain ⟨group, hg, hlines⟩ := Checker.dropTable_of_read htable
    obtain rfl : d.checker.drops.toNat.repr = drops :=
      Except.ok.inj (d.checker.readHandler_drops.symm.trans hdrops)
    exact ⟨_, Text.readCount?_repr _, total_table hg hlines⟩

end Docket

/-- **Handlers report the counters of a checker**, however it was made, and whatever packets it has
been given. -/
theorem handlers_report (d : Docket) {made : Checker}
    (hmade : Checker.create d.transport d.name d.config d.divert = .ok made) :
    Reports d (made.checkAll d.seen) := by
  rw [Docket.create_eq_ok hmade, Docket.checkAll_checker]
  exact d.reports_checker

/-- A checker that counts reasons, after a packet without marks and one without a header. -/
theorem handlers_report_twoDrops :
    let d : Docket := ⟨.tcp, "in", { details := true }, none, [none, some ([], [])]⟩
    ∃ made, Checker.create d.transport d.name d.config d.divert = .ok made
      ∧ Reports d (made.checkAll d.seen)
      ∧ (made.checkAll d.seen).readHandler "drop_details" = .ok
        ("              2 packets due to:                  not TCP\n"
          ++ "              0 packets due to:        bad packet length\n"
          ++ "              0 packets due to:         bad TCP checksum\n") := by
  intro d
  have hmade : Checker.create d.transport d.name d.config d.divert
      = .ok (Docket.mk d.transport d.name d.config d.divert []).checker := by decide
  exact ⟨_, hmade, handlers_report d hmade, by decide +kernel⟩

end PacketPath
