import PacketPath.Proofs.Session.Conservation
import PacketPath.Proofs.Session.Environment
import PacketPath.Proofs.Session.Uniqueifying

set_option autoImplicit false

/-! # When memory is refused

An operation that takes a packet may need a copy of its buffer, and memory for that may be refused:
because the copy would be too large, or because there is none in the environment. By then the
operation has the packet and the session no longer does. Nothing has been allocated and nothing was
written, so all that is left to do is to release the packet: the session is the one in which the
packet was killed (`Session.step_resize_refused`).

What others see of that depends on who they are: those left on the buffer see its count go down, and
the owner of an imported region gets it back if nobody is left.
-/

namespace PacketPath

namespace Pool

variable {p q : Pool} {h : Handle} {r : Resized} {env : Environment}

/-! ## Nothing but a release -/

/-- If memory was refused, then nothing has happened to the pool but that the handle was released. -/
def LetsGo (r : Resized) (p : Pool) (h : Handle) : Prop :=
  ∀ e, r.2 = .error (.alloc e) → r.1 = p.release h.buffer

/-- What succeeded was refused no memory. -/
theorem letsGo_ok (p q : Pool) (h g : Handle) : LetsGo (q, .ok g) p h := by
  intro e he
  cases he

/-- The room is checked before anything is added to the pool. -/
theorem relocate_letsGo (p : Pool) (h : Handle) (front back : Nat) (env : Environment) :
    LetsGo (p.relocate h front back env) p h := by
  intro e he
  unfold relocate at he ⊢
  simp only at he ⊢
  split at he
  · rfl
  · cases he

/-- A frame that does not fit is another failure. -/
theorem reframe_letsGo (hr : LetsGo r p h) (f : Pool → Handle → Option Frame) :
    LetsGo (reframe r f) p h := by
  obtain ⟨q, e | g⟩ := r
  · exact hr
  · intro e he
    unfold reframe at he
    simp only at he
    split at he
    · cases he
    · cases he

theorem demote_letsGo (hr : LetsGo r p h) : LetsGo (demote r) p h := by
  obtain ⟨q, e | g⟩ := r
  · intro cause he
    cases he
    exact hr cause rfl
  · exact letsGo_ok p q h g.toShared

/-- Whatever was refused before a write, the write itself reports a fault. -/
theorem overwriteData_letsGo (r : Resized) (p : Pool) (h : Handle) (pos : Nat) (patch : Bytes) :
    LetsGo (overwriteData r pos patch) p h := by
  intro e he
  obtain ⟨q, cause | g⟩ := r
  · cases he
  · unfold overwriteData at he
    simp only at he
    split at he
    · cases he
    · cases he

theorem uniqueify_letsGo (p : Pool) (h : Handle) (env : Environment) :
    LetsGo (p.uniqueify h env) p h := by
  unfold uniqueify
  split
  · exact letsGo_ok p p h _
  · exact relocate_letsGo p h 0 0 env

theorem push_letsGo (p : Pool) (h : Handle) (n : Nat) (env : Environment) :
    LetsGo (p.push h n env) p h := by
  unfold push
  split
  · exact reframe_letsGo (uniqueify_letsGo p h env) _
  · exact reframe_letsGo (relocate_letsGo p h _ _ env) _

theorem put_letsGo (p : Pool) (h : Handle) (n : Nat) (env : Environment) :
    LetsGo (p.put h n env) p h := by
  unfold put
  split
  · exact reframe_letsGo (uniqueify_letsGo p h env) _
  · exact reframe_letsGo (relocate_letsGo p h _ _ env) _

theorem pushShared_letsGo (p : Pool) (h : Handle) (n : Nat) (env : Environment) :
    LetsGo (p.pushShared h n env) p h := by
  unfold pushShared
  refine demote_letsGo ?_
  split
  · exact reframe_letsGo (letsGo_ok p p h h) _
  · exact push_letsGo p h n env

theorem putShared_letsGo (p : Pool) (h : Handle) (n : Nat) (env : Environment) :
    LetsGo (p.putShared h n env) p h := by
  unfold putShared
  refine demote_letsGo ?_
  split
  · exact reframe_letsGo (letsGo_ok p p h h) _
  · exact put_letsGo p h n env

theorem flipBit_letsGo (p : Pool) (h : Handle) (offset : Nat) (bit : UInt8) (env : Environment) :
    LetsGo (p.flipBit h offset bit env) p h := by
  simp only [flipBit]
  split
  · exact overwriteData_letsGo _ p h offset _
  · exact overwriteData_letsGo _ p h offset []

end Pool

/-- Every operation gives up the packet in the same way, in every environment. -/
theorem Resizing.apply_letsGo (p : Pool) (h : Handle) (how : Resizing) (env : Environment) :
    Pool.LetsGo (how.apply p h env) p h := by
  cases how with
  | uniqueify => exact Pool.uniqueify_letsGo p h env
  | push n => exact Pool.push_letsGo p h n env
  | put n => exact Pool.put_letsGo p h n env
  | pushShared n => exact Pool.pushShared_letsGo p h n env
  | putShared n => exact Pool.putShared_letsGo p h n env
  | encapsulate => exact Pool.overwriteData_letsGo _ p h 0 _
  | flipBit offset bit => exact Pool.flipBit_letsGo p h offset bit env
  | overwrite position bytes => exact Pool.overwriteData_letsGo _ p h position bytes

/-! ## A packet that is let go -/

/-- What has become of a session in which the packet `h` was let go. -/
structure LetGo (s : Session) (o : History) (imported : List ImportedRegion) (packet : String)
    (h : Handle) (after : Session) : Prop where
  /-- It is as if the packet had been killed. -/
  killed : after = (s.step (.kill packet)).1
  /-- The packet is gone. Every other one is where it was, with its window, marks and annotations,
  and may be written to if it could be before. There is no new one. -/
  places : ∀ a, after.handleAt a = if a = .packet packet then none else s.handleAt a
  /-- There is no new buffer, and of the old ones only the one that the packet was on has changed,
  and that only in its count. -/
  buffers : ∀ id c, after.pool.buffers.find? id = some c → ∃ b, s.pool.buffers.find? id = some b
    ∧ c = { b with uses := c.uses } ∧ (id ≠ h.buffer → c = b)
  /-- Whoever was on the buffer of the packet is one less, and sees nothing else. -/
  left : ∀ a k, a ≠ .packet packet → s.handleAt a = some k → k.buffer = h.buffer →
    LeftBehind s o a k after
  /-- On other buffers nothing is seen. -/
  apart : ∀ a k, a ≠ .packet packet → s.handleAt a = some k → k.buffer ≠ h.buffer →
    after.handleAt a = some k ∧ after.pool.observe k = s.pool.observe k
  /-- A region that the packet was on is handed back now, unless it is still held. -/
  returned : ∀ r ∈ imported, r.buffer = h.buffer →
    after.pool.releases = s.pool.releases ++ if after.holds r then [] else [r.release]
  /-- With a packet on the heap nothing is handed back. -/
  nothing : (∀ r ∈ imported, r.buffer ≠ h.buffer) → after.pool.releases = s.pool.releases

namespace Session

variable {s : Session} {o : History} {l : List ImportedRegion} {packet : String} {h k : Handle}
  {how : Resizing} {e : AllocError} {env : Environment}

/-- **Who is refused memory is killed.** -/
theorem step_resize_refused (hf : s.packets.find? packet = some h)
    (hreply : (s.step (.resize packet how) env).2 = .allocFailed e) :
    (s.step (.resize packet how) env).1 = s.drop packet h := by
  rcases happly : how.apply s.pool h env with ⟨q, e' | g⟩
  · have hcause : e' = .alloc e := by
      simp only [Session.step, Session.resize, withPacket_some hf, happly] at hreply
      cases e' with
      | alloc cause => rw [Reply.allocFailed.inj hreply]
      | fault => cases hreply
    have hpool : q = s.pool.release h.buffer := by
      have hgo := how.apply_letsGo s.pool h env e
      rw [happly] at hgo
      exact hgo (by rw [hcause])
    simp only [Session.step, Session.resize, withPacket_some hf, happly, hcause, hpool]
    rfl
  · simp only [Session.step, Session.resize, withPacket_some hf, happly] at hreply
    cases hreply

theorem step_kill (hf : s.packets.find? packet = some h) :
    (s.step (.kill packet)).1 = s.drop packet h := by
  simp only [Session.step, withPacket_some hf]

theorem handleAt_drop (s : Session) (packet : String) (h : Handle) (a : Place) :
    (s.drop packet h).handleAt a = if a = .packet packet then none else s.handleAt a :=
  handleAt_remove s packet a

/-- What is handed back when one handle goes. -/
theorem Settled.releases_drop (hs : s.Settled l) (hf : s.packets.find? packet = some h) :
    (s.drop packet h).pool.releases = s.pool.releases
      ++ if 0 < handlesOn (s.drop packet h).handles h.buffer then []
        else (l.filter (·.buffer == h.buffer)).map ImportedRegion.release := by
  have hlive : s.pool.Sound (h :: s.others packet) := hs.sound.focus hf
  obtain ⟨b, hb⟩ := hlive.found List.mem_cons_self
  -- the pool looks at the count of the buffer, which is that of the handles
  have huses : b.uses = handlesOn (s.drop packet h).handles h.buffer + 1 := by
    have hcount := hlive.uses_eq h.buffer
    rwa [Pool.uses, hb, handlesOn_cons, if_pos rfl] at hcount
  show (s.pool.release h.buffer).releases = _
  simp only [Pool.release, hb]
  by_cases hlast : b.uses ≤ 1
  · rw [if_pos hlast, if_neg (by omega), hs.settles.stored _ b hb]
  · rw [if_neg hlast, if_pos (by omega), List.append_nil]

theorem Settled.letGo (hs : s.Settled l) (ht : o.Tracks s) (hf : s.packets.find? packet = some h) :
    LetGo s o l packet h (s.drop packet h) := by
  have hlive : s.pool.Sound (h :: s.others packet) := hs.sound.focus hf
  have hafter : (s.drop packet h).Sound := hs.sound.drop hf
  have hplaces := handleAt_drop s packet h
  have hreleases := hs.releases_drop hf
  refine ⟨(step_kill hf).symm, hplaces, fun id c hc => ?_, fun a k hne ha hk => ?_,
    fun a k hne ha hk => ?_, fun r hr hbuffer => ?_, fun hnone => ?_⟩
  · obtain ⟨b, hb, hcb, -⟩ := Pool.find?_of_release hc
    refine ⟨b, hb, hcb, fun hne => ?_⟩
    replace hc : (s.pool.release h.buffer).buffers.find? id = some c := hc
    rw [Pool.find?_release_of_ne hne.symm, hb] at hc
    exact (Option.some.inj hc).symm
  · have hmem : k ∈ s.others packet := mem_others_iff.mpr ⟨a, hne, ha⟩
    obtain ⟨hbytes, huses⟩ := released_others hlive hmem
    rw [if_pos hk] at huses
    exact hs.sound.leftBehind hf hafter ht hne ha hk ((hplaces a).trans ((if_neg hne).trans ha))
      hbytes huses
  · have hmem : k ∈ s.others packet := mem_others_iff.mpr ⟨a, hne, ha⟩
    obtain ⟨-, huses⟩ := released_others hlive hmem
    rw [if_neg hk, Nat.add_zero] at huses
    exact ⟨(hplaces a).trans ((if_neg hne).trans ha),
      hlive.keeps_release.observe_congr hmem huses.symm⟩
  · have hself : l.filter (·.buffer == h.buffer) = [r] := hbuffer ▸ hs.filter_buffer hr
    rw [hreleases, hself, holds, hbuffer]
    by_cases hheld : 0 < handlesOn (s.drop packet h).handles h.buffer
    · rw [if_pos hheld, if_pos (decide_eq_true hheld)]
    · rw [if_neg hheld, if_neg (by simpa using hheld)]
      rfl
  · have hother : l.filter (·.buffer == h.buffer) = [] := by
      refine List.filter_eq_nil_iff.mpr fun r hr => ?_
      rw [beq_iff_eq]
      exact hnone r hr
    rw [hreleases, hother]
    split <;> exact List.append_nil _

/-- Only a packet that is there can be refused memory. -/
theorem Settled.refused (hs : s.Settled l) (ht : o.Tracks s)
    (hreply : (s.step (.resize packet how) env).2 = .allocFailed e) :
    ∃ h, s.packets.find? packet = some h
      ∧ LetGo s o l packet h (s.step (.resize packet how) env).1 := by
  cases hf : s.packets.find? packet with
  | none =>
      simp only [Session.step, Session.resize, withPacket_none hf] at hreply
      cases hreply
  | some h =>
      rw [step_resize_refused hf hreply]
      exact ⟨h, rfl, hs.letGo ht hf⟩

end Session

/-- **A refused operation leaves no trace.** In any session, however much memory there was at each of
its steps and is now, and whichever operation was asked for: if memory was refused for the packet
under a name, then all that has happened is that this packet is gone. -/
theorem refused_leavesNoTrace (script : Script) (hdocumented : script.Documented)
    (env : Environment) (packet : String) (how : Resizing) (e : AllocError)
    (hrefused : ((({} : Session).runIn script).step (.resize packet how) env).2 = .allocFailed e) :
    let s := ({} : Session).runIn script
    ∃ h, s.packets.find? packet = some h
      ∧ LetGo s (({} : History).runIn {} script) (({} : Session).importsIn script) packet h
        (s.step (.resize packet how) env).1 := by
  obtain ⟨cs, hrun, hhistory, himports⟩ :=
    Session.exists_run_eq_runIn Session.sound_empty {} script hdocumented
  simp only [hrun, hhistory, himports] at hrefused ⊢
  exact (Session.settled_empty.run cs).refused (History.tracks_empty.run Session.sound_empty cs)
    hrefused

/-- The refusal that a reply reports. -/
def Reply.refusal : Reply → Option AllocError
  | .allocFailed e => some e
  | _ => none

theorem Reply.eq_allocFailed {r : Reply} {e : AllocError} (h : r.refusal = some e) :
    r = .allocFailed e := by
  cases r with
  | allocFailed cause => exact congrArg _ (Option.some.inj h)
  | _ => cases h

/-- Two packets on imported regions are refused room that no buffer has: one has a clone that was
diverted to a sink, so that its region is still held, the other one was alone. A packet on the heap
is refused a copy for which there is no memory: its clone is left, and has the buffer for itself. -/
theorem refused_leavesNoTrace_everywhere :
    let full : Environment := { lacks := fun size => decide (64 ≤ size) }
    let script : Script := [(.standard, .make "p" (.region "r" [1, 2, 3])),
      (full, .make "q" (.region "t" [4, 5])), (.standard, .clone "p" "d"),
      (.standard, .createChecker "c" .tcp "tcp" [] (some "k")), (.standard, .process "c" "d"),
      (full, .make "v" (.plainZeros 7)), (.standard, .make "v" (.plainZeros 7)),
      (.standard, .clone "v" "w")]
    let s := ({} : Session).runIn script
    let o := ({} : History).runIn {} script
    let l := ({} : Session).importsIn script
    let after := (s.step (.resize "p" (.push maxSize))).1
    let after' := (s.step (.resize "q" (.pushShared maxSize)) full).1
    let after'' := (s.step (.resize "v" .uniqueify) full).1
    ∃ h k g u w, s.packets.find? "p" = some h ∧ s.handleAt (.queued "k" 0) = some k
      ∧ s.packets.find? "q" = some g
      ∧ s.packets.find? "v" = some u ∧ s.packets.find? "w" = some w
      ∧ LetGo s o l "p" h after ∧ LeftBehind s o (.queued "k" 0) k after
      ∧ after.pool.releases = []
      ∧ LetGo s o l "q" g after' ∧ after'.pool.releases = [⟨"t", 2⟩]
      ∧ (s.step (.resize "v" .uniqueify) full).2 = .allocFailed (.outOfMemory 64)
      ∧ LetGo s o l "v" u after'' ∧ LeftBehind s o (.packet "w") w after''
      ∧ after''.pool.uses w.buffer = 1 ∧ after''.pool.releases = [] := by
  intro full script s o l after after' after''
  have hdocumented : script.Documented := by
    intro x hx
    have hencoders : script.map (fun x => x.1.encoder) = List.replicate 8 .standard := rfl
    have hx := List.mem_map_of_mem (f := fun x => x.1.encoder) hx
    rw [hencoders] at hx
    rw [List.eq_of_mem_replicate hx]
    exact Encoder.standard_documented
  have hreply : (s.step (.resize "p" (.push maxSize))).2
      = .allocFailed (.tooLarge 18446744073709551615) :=
    Reply.eq_allocFailed (by decide +kernel)
  have hreply' : (s.step (.resize "q" (.pushShared maxSize)) full).2
      = .allocFailed (.tooLarge 18446744073709551614) :=
    Reply.eq_allocFailed (by decide +kernel)
  have hreply'' : (s.step (.resize "v" .uniqueify) full).2 = .allocFailed (.outOfMemory 64) :=
    Reply.eq_allocFailed (by decide +kernel)
  obtain ⟨h, hf, hgone⟩ :=
    refused_leavesNoTrace script hdocumented .standard "p" (.push maxSize) _ hreply
  obtain ⟨g, hg, hgone'⟩ :=
    refused_leavesNoTrace script hdocumented full "q" (.pushShared maxSize) _ hreply'
  obtain ⟨u, hu, hgone''⟩ :=
    refused_leavesNoTrace script hdocumented full "v" .uniqueify _ hreply''
  obtain ⟨k, hk⟩ : ∃ k, s.handleAt (.queued "k" 0) = some k :=
    Option.isSome_iff_exists.mp (by decide +kernel)
  obtain ⟨w, hw⟩ : ∃ w, s.handleAt (.packet "w") = some w :=
    Option.isSome_iff_exists.mp (by decide +kernel)
  have hbuffers : (s.handleAt (.queued "k" 0)).map (·.buffer)
      = (s.packets.find? "p").map (·.buffer) := by decide +kernel
  rw [hk, hf, Option.map_some, Option.map_some, Option.some_inj] at hbuffers
  have hbuffers' : (s.handleAt (.packet "w")).map (·.buffer)
      = (s.packets.find? "v").map (·.buffer) := by decide +kernel
  rw [hw, hu, Option.map_some, Option.map_some, Option.some_inj] at hbuffers'
  have halone : (s.handleAt (.packet "w")).map (fun w => after''.pool.uses w.buffer) = some 1 := by
    decide +kernel
  rw [hw, Option.map_some, Option.some_inj] at halone
  have hheld : after.pool.releases = [] := by decide +kernel
  have hback : after'.pool.releases = [⟨"t", 2⟩] := by decide +kernel
  have hheap : after''.pool.releases = [] := by decide +kernel
  exact ⟨h, k, g, u, w, hf, hk, hg, hu, hw, hgone,
    hgone.left (.queued "k" 0) k (by decide) hk hbuffers, hheld, hgone', hback, hreply'', hgone'',
    hgone''.left (.packet "w") w (by decide) hw hbuffers', halone, hheap⟩

end PacketPath
