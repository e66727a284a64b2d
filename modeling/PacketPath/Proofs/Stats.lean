import PacketPath.Proofs.Check.Docket

set_option autoImplicit false

/-! # Names and counters of statistics

A group of statistics is registered under names, and so is a checker, which has groups of its own.
`Registers` says how the names decide about it: all of them must be valid, and the first one that is
not gives the error. Valid is a matter of the bytes of a name in UTF-8, not of its characters.

The counters of a group are independent. Each is what its own steps make of zero (`counted`), as
long as no sum or difference leaves the 64 bits; only increments may, and wrap.
-/

namespace PacketPath

/-! ## Valid names -/

/-- The bytes of a text in UTF-8. -/
def utf8 (s : String) : List UInt8 := s.toByteArray.data.toList

structure ValidName (name : String) : Prop where
  noNul : 0 ∉ utf8 name
  short : (utf8 name).length ≤ 30

/-- What is wrong with a name that is not valid. A NUL counts before the length. -/
def fault (name : String) : StatError := if 0 ∈ utf8 name then .nulChar else .nameTooLong name

variable {name bad : String} {names before after : List String}

instance (name : String) : Decidable (ValidName name) :=
  decidable_of_iff (0 ∉ utf8 name ∧ (utf8 name).length ≤ 30)
    ⟨fun h => ⟨h.1, h.2⟩, fun h => ⟨h.noNul, h.short⟩⟩

theorem length_utf8 (s : String) : (utf8 s).length = s.utf8ByteSize := by
  rw [utf8, Array.length_toList, ← String.size_toByteArray]
  rfl

theorem utf8_eq_flatMap (s : String) : utf8 s = s.toList.flatMap String.utf8EncodeChar := by
  rw [utf8, ← String.utf8Encode_toList, List.utf8Encode, List.toList_data_toByteArray]

/-- No other character has a NUL among its bytes: those of longer encodings are at least 0x80. -/
theorem zero_mem_utf8EncodeChar {c : Char} : 0 ∈ String.utf8EncodeChar c ↔ c = '\x00' := by
  constructor
  · intro h
    refine Char.toNat_inj.mp (?_ : c.val.toNat = 0)
    simp only [String.utf8EncodeChar] at h
    -- one case for each length of an encoding
    repeat' split at h
    all_goals
      simp only [List.mem_cons, List.not_mem_nil, or_false, ← UInt8.toNat_inj, UInt8.toNat_ofNat',
        UInt8.toNat_zero] at h
      omega
  · rintro rfl
    decide

theorem zero_mem_utf8 (s : String) : 0 ∈ utf8 s ↔ '\x00' ∈ s.toList := by
  rw [utf8_eq_flatMap, List.mem_flatMap]
  simp only [zero_mem_utf8EncodeChar, exists_eq_right]

theorem checkName_of_valid (h : ValidName name) : checkName name = .ok () := by
  have hnul := h.noNul
  have hshort := h.short
  rw [zero_mem_utf8] at hnul
  rw [length_utf8] at hshort
  have hnotLong : ¬ maxNameBytes < name.utf8ByteSize := Nat.not_lt.mpr hshort
  rw [checkName, if_neg hnul, if_neg hnotLong]

theorem checkName_of_fault (h : ¬ ValidName name) : checkName name = .error (fault name) := by
  rw [checkName, fault]
  by_cases hnul : 0 ∈ utf8 name
  · rw [if_pos hnul, if_pos ((zero_mem_utf8 name).mp hnul)]
  · have hlong : maxNameBytes < name.utf8ByteSize := by
      rw [← length_utf8]
      exact Nat.lt_of_not_le fun hshort => h ⟨hnul, hshort⟩
    rw [if_neg hnul, if_neg (mt (zero_mem_utf8 name).mpr hnul), if_pos hlong]

/-! ## Registering -/

theorem checkNames_of_valid (h : ∀ name ∈ names, ValidName name) : checkNames names = .ok () := by
  induction names with
  | nil => rfl
  | cons name rest ih =>
      rw [checkNames, checkName_of_valid (h name List.mem_cons_self)]
      exact ih fun name hname => h name (List.mem_cons_of_mem _ hname)

/-- The first name that is not valid gives the error. -/
theorem checkNames_of_fault (hbefore : ∀ name ∈ before, ValidName name) (hbad : ¬ ValidName bad) :
    checkNames (before ++ bad :: after) = .error (fault bad) := by
  induction before with
  | nil => rw [List.nil_append, checkNames, checkName_of_fault hbad]
  | cons name rest ih =>
      rw [List.cons_append, checkNames, checkName_of_valid (hbefore name List.mem_cons_self)]
      exact ih fun name hname => hbefore name (List.mem_cons_of_mem _ hname)

/-- What is registered under some names is there if all of them are valid; the first one that is not
gives the error. -/
structure Registers {α : Type} (names : List String) (result : Except StatError α) : Prop where
  ok_iff : (∃ a, result = .ok a) ↔ ∀ name ∈ names, ValidName name
  error : ∀ before bad after, names = before ++ bad :: after →
    (∀ name ∈ before, ValidName name) → ¬ ValidName bad → result = .error (fault bad)

/-- There is a first name that is not valid, if any is not. -/
theorem exists_fault (h : ¬ ∀ name ∈ names, ValidName name) : ∃ before bad after,
    names = before ++ bad :: after ∧ (∀ name ∈ before, ValidName name) ∧ ¬ ValidName bad := by
  induction names with
  | nil => exact absurd (fun _ hname => absurd hname List.not_mem_nil) h
  | cons name rest ih =>
      by_cases hname : ValidName name
      · have hrest : ¬ ∀ name ∈ rest, ValidName name :=
          fun hall => h (List.forall_mem_cons.mpr ⟨hname, hall⟩)
        obtain ⟨before, bad, after, rfl, hbefore, hbad⟩ := ih hrest
        exact ⟨name :: before, bad, after, rfl, List.forall_mem_cons.mpr ⟨hname, hbefore⟩, hbad⟩
      · exact ⟨[], name, rest, rfl, fun _ hmem => absurd hmem List.not_mem_nil, hname⟩

/-- It is enough to know what comes of valid names, and what of the first that is not. -/
theorem registers_of {α : Type} {result : Except StatError α}
    (hok : (∀ name ∈ names, ValidName name) → ∃ a, result = .ok a)
    (herror : ∀ before bad after, names = before ++ bad :: after →
      (∀ name ∈ before, ValidName name) → ¬ ValidName bad → result = .error (fault bad)) :
    Registers names result := by
  refine ⟨⟨fun ⟨a, ha⟩ => ?_, hok⟩, herror⟩
  by_contra hall
  obtain ⟨before, bad, after, hnames, hbefore, hbad⟩ := exists_fault hall
  rw [herror before bad after hnames hbefore hbad] at ha
  cases ha

theorem StatGroup.registers {n : Nat} (owner name : String) (labels : Vector String n) :
    Registers (owner :: name :: labels.toList) (StatGroup.register owner name labels) := by
  refine registers_of (fun hall => ?_) fun before bad after hnames hbefore hbad => ?_
  · rw [StatGroup.register, checkNames_of_valid hall]
    exact ⟨_, rfl⟩
  · rw [StatGroup.register, hnames, checkNames_of_fault hbefore hbad]

/-- Where the owner and the labels are valid, the name decides. -/
theorem StatGroup.register_of_fixed {n : Nat} (owner name : String) (labels : Vector String n)
    (howner : ValidName owner) (hlabels : ∀ label ∈ labels.toList, ValidName label) :
    (ValidName name → ∃ g, StatGroup.register owner name labels = .ok g)
      ∧ (¬ ValidName name → StatGroup.register owner name labels = .error (fault name)) := by
  have hregisters := StatGroup.registers owner name labels
  constructor
  · intro hname
    exact hregisters.ok_iff.mpr
      (List.forall_mem_cons.mpr ⟨howner, List.forall_mem_cons.mpr ⟨hname, hlabels⟩⟩)
  · exact hregisters.error [owner] name labels.toList rfl (List.forall_mem_singleton.mpr howner)

/-- The names that a checker brings with it are valid, so that its own name decides. -/
theorem Checker.registers (transport : Transport) (name : String) (config : CheckConfig)
    (divert : Option String) : Registers [name] (Checker.create transport name config divert) := by
  have hstats := StatGroup.register_of_fixed "pktcheck" name #v["count", "drops"]
    (by decide) (by decide)
  have hreasons := StatGroup.register_of_fixed "pktcheck_reasons" name
    #v["not_proto", "bad_length", "bad_checksum"] (by decide) (by decide)
  refine registers_of (fun hall => ?_) fun before bad after hnames hbefore hbad => ?_
  · obtain ⟨stats, hs⟩ := hstats.1 (hall name List.mem_cons_self)
    obtain ⟨reasons, hr⟩ := hreasons.1 (hall name List.mem_cons_self)
    unfold Checker.create
    rw [hs]
    cases config.details with
    | false => exact ⟨_, rfl⟩
    | true =>
        rw [hr]
        exact ⟨_, rfl⟩
  · -- there is no other name in the list
    obtain ⟨rfl, hrest⟩ : before = [] ∧ name = bad ∧ after = [] := by
      cases before with
      | nil => simpa using hnames
      | cons b bs => simp at hnames
    obtain ⟨rfl, rfl⟩ := hrest
    unfold Checker.create
    rw [hstats.2 hbad]
    rfl

/-! ## Counting -/

namespace StatGroup

/-- A change of one counter. -/
inductive Update
  | increment (k : UInt64)
  | set (v : UInt64)
  | add (k : UInt64)
  | subtract (k : UInt64)

namespace Update

/-- What a change makes of an exact value. -/
def exact (v : Nat) : Update → Nat
  | increment k => (v + k.toNat) % 2 ^ 64
  | set w => w.toNat
  | add k => v + k.toNat
  | subtract k => v - k.toNat

/-- Whether a sum or a difference stays within 64 bits. -/
def InRange (v : Nat) : Update → Prop
  | add k => v + k.toNat < 2 ^ 64
  | subtract k => k.toNat ≤ v
  | increment _ => True
  | set _ => True

instance (v : Nat) : (u : Update) → Decidable (u.InRange v)
  | increment _ => .isTrue trivial
  | set _ => .isTrue trivial
  | add k => inferInstanceAs (Decidable (v + k.toNat < 2 ^ 64))
  | subtract k => inferInstanceAs (Decidable (k.toNat ≤ v))

end Update

structure Step (n : Nat) where
  counter : Fin n
  update : Update

variable {n : Nat} {g : StatGroup n} {s : Step n} {past rest steps : List (Step n)}

/-- Takes a step, and gives what an increment answers. -/
def apply (g : StatGroup n) (s : Step n) : Option UInt64 × StatGroup n :=
  match s.update with
  | .increment k =>
    let (before, g) := g.increment s.counter k
    (some before, g)
  | .set v => (none, g.set s.counter v)
  | .add k => (none, g.add s.counter k)
  | .subtract k => (none, g.subtract s.counter k)

def run (g : StatGroup n) (steps : List (Step n)) : StatGroup n :=
  steps.foldl (fun g s => (g.apply s).2) g

/-- What the steps on one counter make of zero. -/
def counted (i : Fin n) (steps : List (Step n)) : Nat :=
  ((steps.filter (·.counter = i)).map Step.update).foldl Update.exact 0

/-- Whether all sums and differences stay within 64 bits. -/
def InRange (steps : List (Step n)) : Prop :=
  ∀ k, (h : k < steps.length) → steps[k].update.InRange (counted steps[k].counter (steps.take k))

/-- Each counter shows what its own steps have made of it. -/
def Shows (g : StatGroup n) (steps : List (Step n)) : Prop :=
  ∀ i, (g.value i).toNat = counted i steps

theorem InRange.of_mid (h : InRange (past ++ s :: rest)) :
    s.update.InRange (counted s.counter past) := by
  have hmid := h past.length (by rw [List.length_append, List.length_cons]; omega)
  rwa [List.getElem_of_append rfl rfl, List.take_left] at hmid

theorem InRange.of_append (h : InRange (past ++ rest)) : InRange past := by
  intro k hk
  have hstep := h k (by rw [List.length_append]; omega)
  rwa [List.getElem_append_left hk, List.take_append_of_le_length (Nat.le_of_lt hk)] at hstep

theorem counted_concat (i : Fin n) (past : List (Step n)) (s : Step n) : counted i (past ++ [s])
    = if s.counter = i then s.update.exact (counted i past) else counted i past := by
  by_cases hi : s.counter = i
  · have hkeep : [s].filter (·.counter = i) = [s] := List.filter_cons_of_pos (by simpa using hi)
    rw [if_pos hi, counted, List.filter_append, hkeep, List.map_append, List.foldl_append]
    rfl
  · have hdrop : [s].filter (·.counter = i) = [] := List.filter_cons_of_neg (by simpa using hi)
    rw [if_neg hi, counted, List.filter_append, hdrop, List.append_nil]
    rfl

/-- A step sets its counter and no other one, and leaves the names. -/
theorem apply_eq_set (g : StatGroup n) (s : Step n) : ∃ v, (g.apply s).2 = g.set s.counter v
    ∧ (s.update.InRange (g.value s.counter).toNat →
        v.toNat = s.update.exact (g.value s.counter).toNat) := by
  obtain ⟨i, update⟩ := s
  have hlt := (g.value i).toNat_lt
  cases update with
  | increment k => exact ⟨_, rfl, fun _ => UInt64.toNat_add _ _⟩
  | set v => exact ⟨v, rfl, fun _ => rfl⟩
  | add k =>
      refine ⟨_, rfl, fun hrange => ?_⟩
      rw [UInt64.toNat_add]
      exact Nat.mod_eq_of_lt hrange
  | subtract k =>
      exact ⟨_, rfl, fun hrange => UInt64.toNat_sub_of_le _ _ (UInt64.le_iff_toNat_le.mpr hrange)⟩

theorem Shows.apply (h : g.Shows past) (hrange : s.update.InRange (counted s.counter past)) :
    (g.apply s).2.Shows (past ++ [s]) := by
  obtain ⟨v, hset, hv⟩ := g.apply_eq_set s
  intro i
  rw [hset, value_set, counted_concat]
  by_cases hi : s.counter = i
  · subst hi
    rw [if_pos rfl, if_pos rfl, hv (by rwa [h s.counter]), h s.counter]
  · rw [if_neg hi, if_neg hi]
    exact h i

theorem Shows.run (h : g.Shows past) (hrange : InRange (past ++ rest)) :
    (g.run rest).Shows (past ++ rest) := by
  induction rest generalizing g past with
  | nil => rwa [List.append_nil]
  | cons s rest ih =>
      have hstep := h.apply hrange.of_mid
      rw [← List.singleton_append, ← List.append_assoc] at hrange ⊢
      exact ih hstep hrange

/-- Steps leave the names that were registered. -/
theorem run_names (g : StatGroup n) (steps : List (Step n)) : (g.run steps).owner = g.owner
    ∧ (g.run steps).name = g.name ∧ (g.run steps).labels = g.labels := by
  induction steps generalizing g with
  | nil => exact ⟨rfl, rfl, rfl⟩
  | cons s rest ih =>
      obtain ⟨v, hset, -⟩ := g.apply_eq_set s
      have hrun : g.run (s :: rest) = (g.set s.counter v).run rest := by
        rw [← hset]
        rfl
      rw [hrun]
      exact ih (g.set s.counter v)

/-- What steps do to a group that was registered. -/
structure Counts (owner name : String) (labels : Vector String n) (g : StatGroup n)
    (steps : List (Step n)) : Prop where
  names : (g.run steps).owner = owner ∧ (g.run steps).name = name ∧ (g.run steps).labels = labels
  shows : (g.run steps).Shows steps
  /-- An increment answers with what its counter showed before. -/
  answers : ∀ past s rest k, steps = past ++ s :: rest → s.update = .increment k →
    ((g.run past).apply s).1 = some ((g.run past).value s.counter)
      ∧ ((g.run past).value s.counter).toNat = counted s.counter past

theorem shows_register {owner name : String} {labels : Vector String n}
    (hg : register owner name labels = .ok g) : g.Shows [] := by
  intro i
  rw [register_eq_ok hg, value_tally]
  rfl

theorem counts_of_register {owner name : String} {labels : Vector String n}
    (hg : register owner name labels = .ok g) (hrange : InRange steps) :
    Counts owner name labels g steps := by
  refine ⟨?_, (shows_register hg).run hrange, fun past s rest k hsteps hs => ⟨?_, ?_⟩⟩
  · obtain ⟨howner, hname, hlabels⟩ := g.run_names steps
    rw [register_eq_ok hg] at howner hname hlabels ⊢
    exact ⟨howner, hname, hlabels⟩
  · simp only [StatGroup.apply, hs]
    rfl
  · rw [hsteps] at hrange
    exact (shows_register hg).run hrange.of_append s.counter

end StatGroup

/-- **Statistics are well named, and count independently.** Groups and checkers are registered if
all names are valid, and the first that is not gives the error. The counters of a group start at
zero, and each is a matter of its own steps, as long as no sum or difference leaves the 64 bits. -/
theorem statistics_named_and_counted :
    (∀ (n : Nat) (owner name : String) (labels : Vector String n),
        Registers (owner :: name :: labels.toList) (StatGroup.register owner name labels))
      ∧ (∀ (transport : Transport) (name : String) (config : CheckConfig) (divert : Option String),
          Registers [name] (Checker.create transport name config divert))
      ∧ ∀ (n : Nat) (owner name : String) (labels : Vector String n) (g : StatGroup n)
          (steps : List (StatGroup.Step n)), StatGroup.register owner name labels = .ok g →
          StatGroup.InRange steps → StatGroup.Counts owner name labels g steps :=
  ⟨fun _ => StatGroup.registers, Checker.registers, fun _ _ _ _ _ _ => StatGroup.counts_of_register⟩

/-- A name of 16 characters and 32 bytes in front of one with a NUL, and two counters whose steps
alternate, one of them wrapping. -/
theorem statistics_named_and_counted_twoCounters :
    let long := "éééééééééééééééé"
    let steps : List (StatGroup.Step 2) :=
      [⟨0, .add 18446744073709551615⟩, ⟨1, .set 7⟩, ⟨0, .increment 3⟩, ⟨1, .increment 5⟩,
        ⟨0, .subtract 2⟩]
    (ValidName "pktbuf" ∧ ¬ ValidName long
        ∧ StatGroup.register "pktbuf" long #v["in\x00"] = .error (.nameTooLong long))
      ∧ StatGroup.InRange steps
      ∧ ∃ g, StatGroup.register "pktbuf" "test" #v["in_pkts", "out_pkts"] = .ok g
        ∧ ((g.run steps).value 0).toNat = 0 ∧ ((g.run steps).value 1).toNat = 12 := by
  intro long steps
  have howner : ValidName "pktbuf" := by decide
  have hlong : ¬ ValidName long := by decide
  have herror := (statistics_named_and_counted.1 1 "pktbuf" long #v["in\x00"]).error ["pktbuf"] long
    ["in\x00"] rfl (List.forall_mem_singleton.mpr howner) hlong
  have hrange : StatGroup.InRange steps := by
    unfold StatGroup.InRange
    decide
  obtain ⟨g, hg⟩ := (statistics_named_and_counted.1 2 "pktbuf" "test"
    #v["in_pkts", "out_pkts"]).ok_iff.mpr (by decide)
  have hcounts := statistics_named_and_counted.2.2 2 "pktbuf" "test" _ g steps hg hrange
  exact ⟨⟨howner, hlong, herror.trans (by decide)⟩, hrange, g, hg, hcounts.shows 0, hcounts.shows 1⟩

end PacketPath
