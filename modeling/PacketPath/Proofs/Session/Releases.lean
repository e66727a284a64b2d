import Mathlib.Data.List.Nodup
import PacketPath.Proofs.Pool.Ledger
import PacketPath.Proofs.Session.Places

set_option autoImplicit false

/-! # When regions are handed back

Each region that a run imports is handed back once: by the command with which its last live handle
goes, or at the end of the session. `Session.imports` lists the regions of a run by watching its
commands, and `Session.holds` asks the live handles, under names and in sinks; neither looks at the
counts in the pool, by which the pool decides.

A release is known by the name and the length of its region only. Where several regions have both in
common, the statements count how many of them were handed back; for a region under a name of its own
they tell whether it was (`ReturnedOnce.by_name`).
-/

namespace PacketPath

open scoped List

/-- Of elements without repetition, the one that a property singles out. -/
theorem filter_eq_singleton {α : Type} [DecidableEq α] {l : List α} {a : α} {p : α → Bool}
    (hl : l.Nodup) (ha : a ∈ l) (hp : ∀ x ∈ l, p x = (x == a)) : l.filter p = [a] := by
  rw [List.filter_congr hp, List.filter_beq, List.count_eq_one_of_mem hl ha, List.replicate_one]

/-- The region that a command imports, if it imports one into the given buffer. -/
def Command.regions (buffer : BufferId) : Command → List ImportedRegion
  | .make _ source => source.regions buffer
  | _ => []

/-- Whether a command can take a live handle away: it releases one, passes one on, or stores another
one in its place. -/
def Command.takesHandle : Command → Bool
  | .make .. | .clone .. | .kill .. | .resize .. | .process .. | .drain .. => true
  | _ => false

namespace Session

variable {s : Session} {name sink : String} {h : Handle} {c : Command} {l : List ImportedRegion}

/-- The regions that are imported in a run. -/
def imports (s : Session) : List Command → List ImportedRegion
  | [] => []
  | c :: rest => c.regions s.pool.next ++ (s.step c).1.imports rest

theorem imports_append (s : Session) (cs ds : List Command) :
    s.imports (cs ++ ds) = s.imports cs ++ (s.run cs).imports ds := by
  induction cs generalizing s with
  | nil => rfl
  | cons c cs ih => rw [List.cons_append, imports, imports, ih, List.append_assoc, run]

/-- Whether a live handle is on the buffer of a region. -/
def holds (s : Session) (r : ImportedRegion) : Bool := decide (0 < handlesOn s.handles r.buffer)

/-! ## The pool of a session -/

section Pools

variable {P : Pool → Prop}

theorem withPacket_pool {act : Handle → Session × Reply} (hs : P s.pool)
    (hact : ∀ h, s.packets.find? name = some h → P (act h).1.pool) :
    P (s.withPacket name act).1.pool :=
  withPacket_cases (P := fun after => P after.1.pool) hs hact

theorem withChecker_pool {act : Checker → Session × Reply} (hs : P s.pool)
    (hact : ∀ c, P (act c).1.pool) : P (s.withChecker name act).1.pool :=
  withChecker_cases (P := fun after => P after.1.pool) hs fun c _ => hact c

theorem withSink_pool {act : List Handle → Session × Reply} (hs : P s.pool)
    (hact : ∀ queue, P (act queue).1.pool) : P (s.withSink name act).1.pool :=
  withSink_cases (P := fun after => P after.1.pool) hs fun queue _ => hact queue

end Pools

theorem evolves_store (s : Session) (name : String) (h : Handle) :
    s.pool.Evolves [] (s.store name h).pool := by
  unfold store
  split
  · exact Pool.Evolves.refl.release _
  · exact .refl

theorem evolves_storeAll (s : Session) (target : String) (i : Nat) (queue : List Handle) :
    s.pool.Evolves [] (s.storeAll target i queue).pool := by
  induction queue generalizing s i with
  | nil => exact .refl
  | cons h rest ih => exact (s.evolves_store _ h).followed (ih _ (i + 1))

theorem evolves_make (s : Session) (target : String) (source : Source) :
    s.pool.Evolves (source.regions s.pool.next) (s.make target source).1.pool := by
  unfold Session.make
  cases hm : s.pool.make source with
  | ok made =>
      exact (Pool.make_eq_ok hm).1.followed (evolves_store { s with pool := made.1 } target made.2)
  | error e =>
      -- a region can always be imported
      have hnone : source.regions s.pool.next = [] := by
        cases source with
        | region name bytes => cases hm
        | _ => rfl
      rw [hnone]
      cases e <;> exact .refl

theorem evolves_clone (s : Session) (packet target : String) :
    s.pool.Evolves [] (s.clone packet target).1.pool := by
  refine withPacket_pool .refl fun h _ => ?_
  have hstore := (({ s with pool := (s.pool.clone h).1 } : Session).update packet
    h.toShared).evolves_store target (s.pool.clone h).2
  exact Pool.evolves_clone.followed hstore

theorem evolves_resize (s : Session) (packet : String) (how : Resizing) :
    s.pool.Evolves [] (s.resize packet how).1.pool := by
  refine withPacket_pool .refl fun h _ => ?_
  have hresize : s.pool.Evolves [] (how.apply s.pool h).1 := Pool.evolves_resize how
  split
  all_goals
    next happly =>
      rw [happly] at hresize
      exact hresize

theorem evolves_process (s : Session) (checker packet : String) :
    s.pool.Evolves [] (s.process checker packet).1.pool := by
  refine withChecker_pool .refl fun c => ?_
  refine withPacket_pool .refl fun h _ => ?_
  simp only
  split
  · exact .refl
  · split
    · exact .refl
    · exact Pool.Evolves.refl.release _

/-- Changes by which no region comes in and none is handed back. -/
def Quietly (p q : Pool) : Prop := p.Evolves [] q ∧ q.releases = p.releases

theorem quietly_refl (p : Pool) : Quietly p p := ⟨.refl, rfl⟩

theorem quietly_write (s : Session) (packet : String) (region : Region) (position : Nat)
    (bytes : Bytes) : Quietly s.pool (s.write packet region position bytes).1.pool := by
  refine withPacket_pool (quietly_refl _) fun h _ => ?_
  split
  · next q hq =>
    refine ⟨Pool.evolves_write hq, ?_⟩
    obtain ⟨-, first, last, -, -, -, -, rfl⟩ := Pool.write_eq_ok hq
    exact Pool.releases_setBytes _ _ _
  all_goals exact quietly_refl _

/-- As long as no handle goes, nothing is handed back. -/
theorem quietly_step (s : Session) (hc : c.takesHandle = false) :
    Quietly s.pool (s.step c).1.pool := by
  have hsame := quietly_refl s.pool
  cases c with
  | toShared packet => exact withPacket_pool hsame fun _ _ => hsame
  | write packet region position bytes => exact s.quietly_write packet region position bytes
  | adjust packet how =>
      refine withPacket_pool hsame fun h _ => ?_
      split <;> exact hsame
  | annotate packet how =>
      refine withPacket_pool hsame fun h _ => ?_
      split <;> exact hsame
  | inquire packet what => exact withPacket_pool hsame fun _ _ => hsame
  | copyAnnotations packet source =>
      exact withPacket_pool hsame fun _ _ => withPacket_pool hsame fun _ _ => hsame
  | sameAnnotations packet other =>
      exact withPacket_pool hsame fun _ _ => withPacket_pool hsame fun _ _ => hsame
  | sameStorage packet other =>
      exact withPacket_pool hsame fun _ _ => withPacket_pool hsame fun _ _ => hsame
  | createChecker checker transport name settings divert =>
      show Quietly s.pool (s.createChecker checker transport name settings divert).1.pool
      unfold Session.createChecker
      split
      · exact hsame
      · simp only
        split
        · rw [pool_ensureSink]
          exact hsame
        · show Quietly s.pool (s.ensureSink divert).pool
          rw [pool_ensureSink]
          exact hsame
  | inspect checker => exact withChecker_pool hsame fun _ => hsame
  | validate checker packet times =>
      exact withChecker_pool hsame fun _ => withPacket_pool hsame fun _ _ => hsame
  | readHandler checker handler =>
      refine withChecker_pool hsame fun c => ?_
      split <;> exact hsame
  | sinkLength sink => exact withSink_pool hsame fun _ => hsame
  | _ => cases hc

theorem evolves_step (s : Session) (c : Command) :
    s.pool.Evolves (c.regions s.pool.next) (s.step c).1.pool := by
  cases c with
  | make target source => exact s.evolves_make target source
  | clone packet target => exact s.evolves_clone packet target
  | kill packet => exact withPacket_pool .refl fun h _ => Pool.Evolves.refl.release _
  | resize packet how => exact s.evolves_resize packet how
  | process checker packet => exact s.evolves_process checker packet
  | drain sink target =>
      refine withSink_pool .refl fun queue => ?_
      exact ({ s with sinks := s.sinks.insert sink [] } : Session).evolves_storeAll target 0 queue
  | _ => exact (s.quietly_step rfl).1

/-! ## Live handles and regions -/

/-- A session that accounts for its handles, whose pool accounts for the regions of a ledger. -/
structure Settled (s : Session) (l : List ImportedRegion) : Prop where
  sound : s.Sound
  settles : s.pool.Settles l

theorem settled_empty : ({} : Session).Settled [] := ⟨sound_empty, Pool.settles_empty⟩

/-- A region is in the pool exactly as long as a live handle is on its buffer. -/
theorem has_eq_of_sound {p : Pool} {live : List Handle} (hp : p.Sound live) (id : BufferId) :
    p.has id = decide (0 < handlesOn live id) := by
  rw [← hp.uses_eq id, Pool.uses, Pool.has, Registry.contains]
  cases hb : p.buffers.find? id with
  | none => rfl
  | some b => exact (decide_eq_true (hp.wellFormed _ b hb).inUse).symm

theorem Sound.has_eq_holds (hs : s.Sound) (r : ImportedRegion) :
    s.pool.has r.buffer = s.holds r := has_eq_of_sound hs r.buffer

/-- The regions that were handed back are those that no live handle is on. -/
theorem releases_perm_of_sound {p : Pool} {live : List Handle} (hp : p.Sound live)
    (hl : p.Settles l) : p.releases
      ~ (l.filter fun r => !decide (0 < handlesOn live r.buffer)).map ImportedRegion.release := by
  have hgone : p.gone l = l.filter fun r => !decide (0 < handlesOn live r.buffer) :=
    List.filter_congr fun r _ => by rw [has_eq_of_sound hp]
  rw [← hgone]
  exact hl.releases_perm

/-- A new region is held by the packet that was made of it. -/
theorem holds_of_imported (s : Session) (c : Command) :
    ∀ r ∈ c.regions s.pool.next, (s.step c).1.holds r = true := by
  intro r hr
  cases c with
  | make target source =>
      cases source with
      | region name bytes =>
          obtain rfl := List.mem_singleton.mp hr
          obtain ⟨pool, h, hm, hb⟩ : ∃ pool h, s.pool.importRegion name bytes = (pool, h)
              ∧ h.buffer = s.pool.next := ⟨_, _, rfl, rfl⟩
          have hfind : (({ s with pool := pool } : Session).store target h).packets.find? target
              = some h := by
            rw [store, Registry.find?_insert, if_pos rfl]
          have hstep : (s.step (.make target (.region name bytes))).1
              = ({ s with pool := pool } : Session).store target h := by
            simp only [step, Session.make, Pool.make, hm]
          rw [hstep]
          exact decide_eq_true (handlesOn_pos_iff.mpr ⟨h, mem_handles_of_find hfind, hb⟩)
      | _ => cases hr
  | _ => cases hr

theorem Settled.step (hs : s.Settled l) (c : Command) :
    (s.step c).1.Settled (l ++ c.regions s.pool.next) :=
  ⟨hs.sound.step c, hs.settles.evolve (s.evolves_step c)⟩

/-- A run accounts for the regions that it imports. -/
theorem Settled.run (hs : s.Settled l) (cs : List Command) :
    (s.run cs).Settled (l ++ s.imports cs) := by
  induction cs generalizing s l with
  | nil => rwa [imports, List.append_nil]
  | cons c rest ih =>
      rw [imports, ← List.append_assoc]
      exact ih (hs.step c)

/-- Between two states, those regions are handed back that lose their last handle. -/
theorem Settled.released_perm {s' : Session} {rs : List ImportedRegion} (hs : s.Settled l)
    (hs' : s'.Sound) (hevolves : s.pool.Evolves rs s'.pool) (hnew : ∀ r ∈ rs, s'.holds r = true) :
    s'.releasedSince s
      ~ (l.filter fun r => s.holds r && !s'.holds r).map ImportedRegion.release := by
  -- the pool looks for the buffer where the session asks its handles
  have hin : ∀ r ∈ rs, s'.pool.has r.buffer = true := by
    intro r hr
    rw [hs'.has_eq_holds]
    exact hnew r hr
  have hleft : (l.filter fun r => s.holds r && !s'.holds r)
      = l.filter fun r => s.pool.has r.buffer && !s'.pool.has r.buffer :=
    List.filter_congr fun r _ => by rw [hs.sound.has_eq_holds, hs'.has_eq_holds]
  rw [hleft]
  exact hs.settles.released_perm hevolves hin

/-- No two regions were imported into one buffer. -/
theorem Settled.filter_buffer (hs : s.Settled l) {r : ImportedRegion} (hr : r ∈ l) :
    l.filter (·.buffer == r.buffer) = [r] := by
  refine filter_eq_singleton (List.Nodup.of_map _ hs.settles.nodup) hr fun x hx => ?_
  rw [Bool.eq_iff_iff, beq_iff_eq, beq_iff_eq]
  exact ⟨fun he => List.inj_on_of_nodup_map hs.settles.nodup hx hr he, fun he => by rw [he]⟩

/-- A region that is held will be handed back as it was imported. -/
theorem Settled.stored (hs : s.Settled l) {r : ImportedRegion} (hr : r ∈ l)
    (hheld : s.holds r = true) :
    ∃ b, s.pool.buffers.find? r.buffer = some b ∧ b.handedBack = [r.release] := by
  have hin : s.pool.has r.buffer = true := by rw [hs.sound.has_eq_holds, hheld]
  obtain ⟨b, hb⟩ := Option.isSome_iff_exists.mp hin
  exact ⟨b, hb, by rw [hs.settles.stored _ b hb, hs.filter_buffer hr, List.map_singleton]⟩

/-- Under the name of one region alone, that region is handed back once or not at all. -/
theorem Settled.released_by_name (hs : s.Settled l) {r : ImportedRegion} (hr : r ∈ l)
    (honly : ∀ r' ∈ l, r'.name = r.name → r' = r) :
    s.pool.releases.filter (·.name == r.name) = if s.holds r then [] else [r.release] := by
  have hself : l.filter (·.name == r.name) = [r] := by
    refine filter_eq_singleton (List.Nodup.of_map _ hs.settles.nodup) hr fun x hx => ?_
    rw [Bool.eq_iff_iff, beq_iff_eq, beq_iff_eq]
    exact ⟨honly x hx, fun he => by rw [he]⟩
  have hperm : s.pool.releases.filter (·.name == r.name)
      ~ ([r].filter fun x => !s.holds x).map ImportedRegion.release := by
    refine ((releases_perm_of_sound hs.sound hs.settles).filter _).trans (.of_eq ?_)
    rw [List.filter_map, ← hself, List.filter_comm]
    rfl
  cases hheld : s.holds r with
  | true => simpa [hheld] using hperm
  | false => simpa [hheld] using hperm

/-! ## The end of a session -/

/-- The pool after handles were released one after the other. -/
def releaseAll (p : Pool) (live : List Handle) : Pool :=
  live.foldl (fun pool h => pool.release h.buffer) p

/-- While handles are released one after the other, the pool accounts for those that are left. -/
theorem releaseAll_settles {p : Pool} {dropped left : List Handle} (hp : p.Sound (dropped ++ left))
    (hl : p.Settles l) : (releaseAll p dropped).Sound left ∧ (releaseAll p dropped).Settles l := by
  induction dropped generalizing p with
  | nil => exact ⟨hp, hl⟩
  | cons h rest ih => exact ih hp.release (hl.release h.buffer)

end Session

/-! ## Every region once -/

open Session in
/-- How a session has handed back, and will hand back, the regions that were imported. -/
structure ReturnedOnce (s : Session) (imported : List ImportedRegion) : Prop where
  /-- Each region has a buffer of its own. -/
  distinct : (imported.map ImportedRegion.buffer).Nodup
  /-- The packet that a region is made into holds it. -/
  held : ∀ c, ∀ r ∈ c.regions s.pool.next, (s.step c).1.holds r = true
  /-- Those were handed back that no live handle is on, once each, as long as they were imported. -/
  returned : s.pool.releases ~ (imported.filter fun r => !s.holds r).map ImportedRegion.release
  /-- The others are still there, and will be handed back as long as they were imported. -/
  kept : ∀ r ∈ imported, s.holds r = true →
    ∃ b, s.pool.buffers.find? r.buffer = some b ∧ b.handedBack = [r.release]
  /-- The releases under a name that one region alone was imported by. -/
  by_name : ∀ r ∈ imported, (∀ r' ∈ imported, r'.name = r.name → r' = r) →
    s.pool.releases.filter (·.name == r.name) = if s.holds r then [] else [r.release]
  /-- A command hands back the regions that it takes the last live handle from. -/
  step : ∀ c, s.pool.releases <+: (s.step c).1.pool.releases ∧ (s.step c).1.releasedSince s
    ~ (imported.filter fun r => s.holds r && !(s.step c).1.holds r).map ImportedRegion.release
  /-- A command that takes no handle away hands back nothing. -/
  quiet : ∀ c : Command, c.takesHandle = false → (s.step c).1.pool.releases = s.pool.releases
  /-- At the end of the session a region is handed back when no handle on it is left. -/
  closing : ∀ dropped left, s.handles = dropped ++ left → (releaseAll s.pool dropped).releases
    ~ (imported.filter fun r => !decide (0 < handlesOn left r.buffer)).map ImportedRegion.release
  /-- After the end every region was handed back once. -/
  all : s.close.pool.releases ~ imported.map ImportedRegion.release

open Session in
theorem returnedOnce_of_settled {s : Session} {l : List ImportedRegion} (hs : s.Settled l) :
    ReturnedOnce s l := by
  have hclosing : ∀ dropped left, s.handles = dropped ++ left → (releaseAll s.pool dropped).releases
      ~ (l.filter fun r => !decide (0 < handlesOn left r.buffer)).map ImportedRegion.release := by
    intro dropped left hlive
    have hsound : s.pool.Sound (dropped ++ left) := hlive ▸ hs.sound
    obtain ⟨hleft, hsettles⟩ := releaseAll_settles hsound hs.settles
    exact releases_perm_of_sound hleft hsettles
  refine ⟨hs.settles.nodup, s.holds_of_imported, releases_perm_of_sound hs.sound hs.settles,
    fun r hr => hs.stored hr, fun r hr honly => hs.released_by_name hr honly, ?_, ?_, hclosing, ?_⟩
  · intro c
    exact ⟨(s.evolves_step c).releases_le,
      hs.released_perm (hs.sound.step c) (s.evolves_step c) (s.holds_of_imported c)⟩
  · intro c hc
    exact (s.quietly_step hc).2
  · have hall : l.filter (fun r => !decide (0 < handlesOn [] r.buffer)) = l :=
      List.filter_eq_self.mpr fun _ _ => rfl
    rw [← hall]
    exact hclosing s.handles [] (List.append_nil _).symm

/-- **Every imported region is handed back once, when its last handle goes.** After any commands, in
any order and on any packets, checkers and sinks, whatever they answered. -/
theorem returnedOnce_run (cs : List Command) :
    ReturnedOnce (({} : Session).run cs) (({} : Session).imports cs) :=
  returnedOnce_of_settled (Session.settled_empty.run cs)

end PacketPath
