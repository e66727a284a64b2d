import PacketPath.Proofs.Session.Encoding
import PacketPath.Proofs.Session.History
import PacketPath.Proofs.Session.Releases

set_option autoImplicit false

/-! # Sessions in any environment

Memory can run out at any step of a session. An operation that needs some then does not happen, and
the handle that it took is released (`Pool.Meets`). So each step comes to a command in the standard
environment: to itself, to nothing if a packet could not be made, or to the release of a packet that
could not be resized. Whatever memory there is at each step, and whatever documented encoder, a run is
therefore a run in the standard environment, of other commands (`Session.exists_run_eq_runIn`).
-/

namespace PacketPath

variable {env : Environment}

namespace Pool

variable {p : Pool} {h : Handle} {others : List Handle} {r standard : Resized}

/-! ## One operation -/

/-- What an operation leaves in an environment: what it leaves in the standard one, or nothing but a
handle that was released. -/
def Meets (r standard : Resized) (p : Pool) (h : Handle) : Prop :=
  r = standard ∨ ∃ e, r = (p.release h.buffer, .error e)

/-- The room is checked before anything is added to the pool. -/
theorem relocate_meets (p : Pool) (h : Handle) (front back : Nat) (env : Environment) :
    Meets (p.relocate h front back env) (p.relocate h front back) p h := by
  simp only [relocate]
  rcases env.room_eq 0 [front, (p.bytes h.buffer).length, back] with hroom | ⟨size, hroom⟩
  · exact .inl (by rw [hroom])
  · exact .inr ⟨_, by rw [hroom]⟩

theorem reframe_meets (hr : Meets r standard p h) (f : Pool → Handle → Option Frame) :
    Meets (reframe r f) (reframe standard f) p h := by
  obtain rfl | ⟨e, rfl⟩ := hr
  · exact .inl rfl
  · exact .inr ⟨e, rfl⟩

theorem demote_meets (hr : Meets r standard p h) : Meets (demote r) (demote standard) p h := by
  obtain rfl | ⟨e, rfl⟩ := hr
  · exact .inl rfl
  · exact .inr ⟨e, rfl⟩

theorem overwriteData_meets (hr : Meets r standard p h) (pos : Nat) (patch : Bytes) :
    Meets (overwriteData r pos patch) (overwriteData standard pos patch) p h := by
  obtain rfl | ⟨e, rfl⟩ := hr
  · exact .inl rfl
  · exact .inr ⟨.fault, rfl⟩

theorem uniqueify_meets (p : Pool) (h : Handle) (env : Environment) :
    Meets (p.uniqueify h env) (p.uniqueify h) p h := by
  unfold uniqueify
  split
  · exact .inl rfl
  · exact relocate_meets p h 0 0 env

theorem push_meets (p : Pool) (h : Handle) (n : Nat) (env : Environment) :
    Meets (p.push h n env) (p.push h n) p h := by
  unfold push
  split
  · exact reframe_meets (uniqueify_meets p h env) _
  · exact reframe_meets (relocate_meets p h _ _ env) _

theorem put_meets (p : Pool) (h : Handle) (n : Nat) (env : Environment) :
    Meets (p.put h n env) (p.put h n) p h := by
  unfold put
  split
  · exact reframe_meets (uniqueify_meets p h env) _
  · exact reframe_meets (relocate_meets p h _ _ env) _

/-- Room that is there takes no memory. -/
theorem pushShared_meets (p : Pool) (h : Handle) (n : Nat) (env : Environment) :
    Meets (p.pushShared h n env) (p.pushShared h n) p h := by
  unfold pushShared
  split
  · exact .inl rfl
  · exact demote_meets (push_meets p h n env)

theorem putShared_meets (p : Pool) (h : Handle) (n : Nat) (env : Environment) :
    Meets (p.putShared h n env) (p.putShared h n) p h := by
  unfold putShared
  split
  · exact .inl rfl
  · exact demote_meets (put_meets p h n env)

theorem encapsulate_meets (he : env.encoder.Documented) (hs : p.Sound (h :: others)) :
    Meets (p.encapsulate h env) (p.encapsulate h) p h := by
  rcases push_meets p h ethernetHeaderSize env with hroom | ⟨e, hroom⟩
  · refine .inl ?_
    rw [← encapsulate_ofEncoder he hs]
    simp only [encapsulate, hroom]
    rfl
  · refine .inr ⟨.fault, ?_⟩
    simp only [encapsulate, hroom]
    rfl

theorem flipBit_meets (p : Pool) (h : Handle) (offset : Nat) (bit : UInt8) (env : Environment) :
    Meets (p.flipBit h offset bit env) (p.flipBit h offset bit) p h := by
  simp only [flipBit]
  split
  · exact overwriteData_meets (uniqueify_meets p h env) _ _
  · exact overwriteData_meets (reframe_meets (uniqueify_meets p h env) _) _ _

/-! ## Making packets -/

theorem makeCopy_meets (p : Pool) (headroom : Nat) (bytes : Bytes) (tailroom : Nat)
    (env : Environment) : p.makeCopy headroom bytes tailroom env = p.makeCopy headroom bytes tailroom
      ∨ ∃ e, p.makeCopy headroom bytes tailroom env = .error e := by
  unfold makeCopy
  rcases env.room_eq minBuffer [headroom, bytes.length, tailroom] with hroom | ⟨size, hroom⟩
  · exact .inl (by rw [hroom])
  · exact .inr ⟨_, by rw [hroom]⟩

theorem makeZeros_meets (p : Pool) (headroom length tailroom : Nat) (env : Environment) :
    p.makeZeros headroom length tailroom env = p.makeZeros headroom length tailroom
      ∨ ∃ e, p.makeZeros headroom length tailroom env = .error e := by
  unfold makeZeros
  rcases env.room_eq minBuffer [headroom, length, tailroom] with hroom | ⟨size, hroom⟩
  · exact .inl (by rw [hroom])
  · exact .inr ⟨_, by rw [hroom]⟩

theorem makeIpv4_meets (p : Pool) (bytes : Bytes) (env : Environment) :
    p.makeIpv4 bytes env = p.makeIpv4 bytes ∨ p.makeIpv4 bytes env = none := by
  unfold makeIpv4
  rcases makeCopy_meets p defaultHeadroom bytes 0 env with hcopy | ⟨e, hcopy⟩
  · exact .inl (by rw [hcopy])
  · refine .inr ?_
    rw [hcopy]
    cases bytes <;> rfl

/-- A packet of a datagram is made in each environment alike, or not at all. -/
theorem orFault_bind_meets {datagram datagram' : Option Bytes} (hd : datagram = datagram') :
    make.orFault (datagram.bind fun bytes => p.makeIpv4 bytes env)
        = make.orFault (datagram'.bind fun bytes => p.makeIpv4 bytes)
      ∨ ∃ e, make.orFault (datagram.bind fun bytes => p.makeIpv4 bytes env) = .error e := by
  subst hd
  cases datagram with
  | none => exact .inl rfl
  | some bytes =>
      simp only [Option.bind_some]
      rcases p.makeIpv4_meets bytes env with hmade | hmade
      · exact .inl (by rw [hmade])
      · exact .inr ⟨.fault, by rw [hmade]; rfl⟩

theorem make_meets (he : env.encoder.Documented) (p : Pool) (source : Source) :
    p.make source env = p.make source ∨ ∃ e, p.make source env = .error e := by
  cases source with
  | zeros headroom length tailroom =>
      rcases p.makeZeros_meets headroom length tailroom env with hmade | ⟨e, hmade⟩
      · exact .inl (by rw [make, make, hmade])
      · exact .inr ⟨.alloc e, by rw [make, hmade]; rfl⟩
  | copy headroom bytes tailroom =>
      rcases p.makeCopy_meets headroom bytes tailroom env with hmade | ⟨e, hmade⟩
      · exact .inl (by rw [make, make, hmade])
      · exact .inr ⟨.alloc e, by rw [make, hmade]; rfl⟩
  | region name bytes => exact .inl rfl
  | tcp flow payload => exact orFault_bind_meets (flow.tcpPacket_standard he payload)
  | udp flow payload => exact orFault_bind_meets (flow.udpPacket_standard he payload)
  | ipv4 bytes =>
      have hsame : some bytes = some bytes := rfl
      exact orFault_bind_meets hsame

end Pool

/-- **Every operation** is carried out as in the standard environment, or gives up its packet. -/
theorem Resizing.apply_meets {p : Pool} {h : Handle} {others : List Handle}
    (he : env.encoder.Documented) (hs : p.Sound (h :: others)) (how : Resizing) :
    Pool.Meets (how.apply p h env) (how.apply p h) p h := by
  cases how with
  | uniqueify => exact Pool.uniqueify_meets p h env
  | push n => exact Pool.push_meets p h n env
  | put n => exact Pool.put_meets p h n env
  | pushShared n => exact Pool.pushShared_meets p h n env
  | putShared n => exact Pool.putShared_meets p h n env
  | encapsulate => exact Pool.encapsulate_meets he hs
  | flipBit offset bit => exact Pool.flipBit_meets p h offset bit env
  | overwrite position bytes => exact Pool.overwriteData_meets (Pool.uniqueify_meets p h env) _ _

/-! ## Scripts -/

/-- Commands, each with the environment that it is executed in. -/
abbrev Script := List (Environment × Command)

/-- All encoders are documented ones. How much memory there is does not matter. -/
def Script.Documented (script : Script) : Prop := ∀ x ∈ script, x.1.encoder.Documented

namespace Session

/-- The session after a script. -/
def runIn (s : Session) : Script → Session
  | [] => s
  | (env, c) :: rest => (s.step c env).1.runIn rest

/-- The regions that are imported in a script. -/
def importsIn (s : Session) : Script → List ImportedRegion
  | [] => []
  | (env, c) :: rest => c.regions s.pool.next ++ (s.step c env).1.importsIn rest

end Session

/-- The history of a script from the session `s` on. -/
def History.runIn (o : History) (s : Session) : Script → History
  | [] => o
  | (env, c) :: rest => (o.step s c env).runIn (s.step c env).1 rest

namespace Session

variable {s : Session} {o : History} {c : Command} {packet : String} {h : Handle} {how : Resizing}

/-- What a command comes to in an environment, told by commands in the standard one. -/
structure ComesTo (s : Session) (o : History) (env : Environment) (c : Command)
    (cs : List Command) : Prop where
  session : (s.step c env).1 = s.run cs
  history : o.step s c env = o.run s cs
  imports : c.regions s.pool.next = s.imports cs

/-- A command that is executed as in the standard environment. -/
theorem comesTo_self (hstep : s.step c env = s.step c) (hhistory : o.step s c env = o.step s c) :
    s.ComesTo o env c [c] :=
  ⟨congrArg Prod.fst hstep, hhistory, (List.append_nil _).symm⟩

theorem make_comesTo (he : env.encoder.Documented) (s : Session) (o : History) (target : String)
    (source : Source) : ∃ cs, s.ComesTo o env (.make target source) cs := by
  rcases s.pool.make_meets he source with hmade | ⟨e, hmade⟩
  · refine ⟨_, comesTo_self ?_ ?_⟩
    · simp only [step, make, hmade]
    · simp only [History.step, hmade]
  · -- nothing was made, and no region was imported: that is never refused
    refine ⟨[], ?_, ?_, ?_⟩
    · simp only [step, make, hmade]
      cases e <;> rfl
    · simp only [History.step, hmade]
      rfl
    · cases source with
      | region name bytes => cases hmade
      | _ => rfl

theorem resize_comesTo (he : env.encoder.Documented) (hs : s.Sound) (o : History)
    (packet : String) (how : Resizing) : ∃ cs, s.ComesTo o env (.resize packet how) cs := by
  cases hf : s.packets.find? packet with
  | none =>
      refine ⟨_, comesTo_self ?_ ?_⟩
      · simp only [step, resize, withPacket_none hf]
      · simp only [History.step, hf]
  | some h =>
      rcases how.apply_meets he (hs.focus hf) with happly | ⟨e, happly⟩
      · have hresize : s.resize packet how env = s.resize packet how := by
          simp only [resize, withPacket_some hf, happly]
        refine ⟨_, comesTo_self hresize ?_⟩
        simp only [History.step, hresize]
      · have hresize : (s.resize packet how env).1 = s.drop packet h := by
          simp only [resize, withPacket_some hf, happly]
          cases e <;> rfl
        -- the packet is given up, which is what killing it does
        refine ⟨[.kill packet], ?_, ?_, rfl⟩
        · show (s.resize packet how env).1 = (s.withPacket packet _).1
          rw [hresize, withPacket_some hf]
        · have hgone : (s.drop packet h).packets.find? packet = none := by
            rw [drop, remove, Registry.find?_erase, if_pos rfl]
          simp only [History.step, hresize, hf, hgone]
          rfl

/-- **A step** in an environment comes to commands in the standard one. -/
theorem exists_comesTo (he : env.encoder.Documented) (hs : s.Sound) (o : History) (c : Command) :
    ∃ cs, s.ComesTo o env c cs := by
  cases c with
  | make target source => exact s.make_comesTo he o target source
  | resize packet how => exact resize_comesTo he hs o packet how
  | _ => exact ⟨_, comesTo_self rfl rfl⟩

/-- **A run** in environments of any kind is a run in the standard one: nobody could tell by the
session, by the history or by the regions that were imported. -/
theorem exists_run_eq_runIn (hs : s.Sound) (o : History) (script : Script)
    (hdocumented : script.Documented) : ∃ cs, s.runIn script = s.run cs
      ∧ o.runIn s script = o.run s cs ∧ s.importsIn script = s.imports cs := by
  induction script generalizing s o with
  | nil => exact ⟨[], rfl, rfl, rfl⟩
  | cons first rest ih =>
      obtain ⟨env, c⟩ := first
      have he : env.encoder.Documented := hdocumented (env, c) List.mem_cons_self
      -- the first step may come to no command at all, so the lists are put one behind the other
      obtain ⟨cs, hfirst⟩ := exists_comesTo he hs o c
      have hsound : (s.step c env).1.Sound := hfirst.session ▸ hs.run cs
      obtain ⟨ds, hrun, hhistory, himports⟩ := ih hsound (o.step s c env)
        fun x hx => hdocumented x (List.mem_cons_of_mem _ hx)
      refine ⟨cs ++ ds, ?_, ?_, ?_⟩
      · rw [runIn, hrun, hfirst.session, run_append]
      · rw [History.runIn, hhistory, hfirst.session, hfirst.history, History.run_append]
      · rw [importsIn, himports, hfirst.session, hfirst.imports, imports_append]

end Session

end PacketPath
