import PacketPath.Proofs.DeepCopy.Handles
import PacketPath.Proofs.DeepCopy.Machine
import PacketPath.Proofs.Session.Sound

set_option autoImplicit false

/-! # Copy-on-write refines deep copying

A session that shares buffers and a table of packets with buffers of their own give the same record
for the same commands.

The relation between the two states is `Mirrors`: under each name is the packet that the handle
there stands for. A command changes what stands under one name, or under two. For that handle the
operation on the pool agrees with the operation on owned packets (`Resizing.apply_owned` and its
like); for all others the pool has kept the bytes (`Pool.Keeps`), which is the part that sharing
could break. The counts in the pool enter only there.
-/

namespace PacketPath

namespace Owned

variable {o : Owned}

/-! ## The size of what is made -/

theorem copy_length_le {headroom tailroom : Nat} {bytes : Bytes}
    (ho : copy headroom bytes tailroom = .ok o) : o.bytes.length ≤ maxBuffer := by
  unfold copy at ho
  split at ho
  · cases ho
  · next size hsize =>
    obtain ⟨rfl, hle⟩ := allocationSize_eq_ok hsize
    have hmax := Pool.max_minBuffer_le hle
    cases ho
    simp only [List.length_append, Bytes.length_zeros, total] at hmax ⊢
    omega

theorem datagram_length_le {bytes : Bytes} (ho : datagram bytes = some o) :
    o.bytes.length ≤ maxBuffer := by
  unfold datagram at ho
  split at ho
  · next o' hcopy =>
    split at ho
    · cases ho
      exact copy_length_le (o := o') hcopy
    · cases ho
  · cases ho

/-- A made packet is no larger than allocation permits, unless an imported region is. -/
theorem make_length_le {source : Source} (ho : make source = .ok o) :
    o.bytes.length ≤ max source.importedLength maxBuffer := by
  have hdatagram : ∀ r : Option Owned, (∀ o, r = some o → o.bytes.length ≤ maxBuffer) →
      make.orFault r = .ok o → o.bytes.length ≤ max source.importedLength maxBuffer := by
    intro r hr hor
    cases r with
    | none => cases hor
    | some _ =>
        cases hor
        exact Nat.le_trans (hr o rfl) (Nat.le_max_right _ _)
  have hbind : ∀ (b : Option Bytes) (o : Owned), b.bind datagram = some o →
      o.bytes.length ≤ maxBuffer := by
    intro b o hb
    obtain ⟨bytes, -, hd⟩ := Option.bind_eq_some_iff.mp hb
    exact datagram_length_le hd
  cases source with
  | zeros headroom length tailroom =>
      exact Nat.le_trans (copy_length_le (mapError_eq_ok ho)) (Nat.le_max_right _ _)
  | copy headroom bytes tailroom =>
      exact Nat.le_trans (copy_length_le (mapError_eq_ok ho)) (Nat.le_max_right _ _)
  | region name bytes =>
      cases ho
      exact Nat.le_max_left _ _
  | tcp flow payload => exact hdatagram _ (hbind _) ho
  | udp flow payload => exact hdatagram _ (hbind _) ho
  | ipv4 bytes => exact hdatagram _ (fun o hd => datagram_length_le hd) ho

end Owned

theorem Adjustment.apply_owned (how : Adjustment) (p : Pool) (h : Handle) :
    (how.apply h.frame (p.limit h)).map (fun frame => p.owned { h with frame := frame })
      = (p.owned h).adjust how := rfl

/-- Annotations are changed in the same way through a handle and in a packet of its own. -/
theorem Annotating.apply_owned (how : Annotating) (p : Pool) (h : Handle) :
    (how.apply h).map p.owned = (p.owned h).annotate how := by
  have huser : ∀ user : Option UserArea, (h.setUser user).map p.owned
      = (Handle.setUser { buffer := 0, frame := h.frame, annotations := h.annotations } user).map
          fun g => { p.owned h with frame := g.frame, annotations := g.annotations } := by
    intro user
    cases user <;> rfl
  cases how with
  | setByte i v => exact huser _
  | setWord i v => exact huser _
  | setInt i v => exact huser _
  | setPacketType number =>
      simp only [Owned.annotate, Annotating.apply]
      cases PacketType.ofNumber? number <;> rfl
  | _ => rfl

/-! ## The relation -/

/-- The packets in a table are those that the handles of a session stand for. -/
structure Mirrors (m : OwnedPackets) (s : Session) : Prop where
  packets : ∀ name, m.find? name = (s.packets.find? name).map s.pool.owned
  permitted : ∀ name h, s.packets.find? name = some h → s.pool.limit h ≤ maxBuffer

/-- Two machines have come to the same, and answer the same. -/
def Agree (a : OwnedPackets × Reply) (b : Session × Reply) : Prop :=
  Mirrors a.1 b.1 ∧ a.2.result = b.2.result

namespace Mirrors

variable {m m' : OwnedPackets} {s s' : Session} {q : Pool} {name : String} {h g : Handle}

theorem empty : Mirrors .empty {} := ⟨fun _ => rfl, fun _ _ hf => nomatch hf⟩

/-- What stands under one name has changed, and nothing that others can see. -/
theorem change (hm : Mirrors m s) (name : String) (x : Option Handle)
    (hfind' : ∀ n, m'.find? n = if name = n then x.map s'.pool.owned else m.find? n)
    (hfind : ∀ n, s'.packets.find? n = if name = n then x else s.packets.find? n)
    (hk : s.pool.Keeps s'.pool (s.others name))
    (hl : ∀ g, x = some g → s'.pool.limit g ≤ maxBuffer) : Mirrors m' s' := by
  -- this is where the others are protected from what happens to the one
  have hbytes : ∀ n g, name ≠ n → s.packets.find? n = some g →
      s'.pool.bytes g.buffer = s.pool.bytes g.buffer :=
    fun n g hne hg => hk g (Session.mem_others_of_ne hne hg)
  refine ⟨fun n => ?_, fun n g hg => ?_⟩
  · rw [hfind', hfind]
    by_cases hn : name = n
    · rw [if_pos hn, if_pos hn]
    · rw [if_neg hn, if_neg hn, hm.packets]
      cases hg : s.packets.find? n with
      | none => rfl
      | some g => simp only [Option.map_some, Pool.owned_congr (hbytes n g hn hg)]
  · rw [hfind] at hg
    by_cases hn : name = n
    · rw [if_pos hn] at hg
      exact hl g hg
    · rw [if_neg hn] at hg
      rw [Pool.limit, hbytes n g hn hg]
      exact hm.permitted n g hg

theorem update (hm : Mirrors m s) (hk : s.pool.Keeps q (s.others name))
    (hl : q.limit g ≤ maxBuffer) :
    Mirrors (m.insert name (q.owned g)) ({ s with pool := q }.update name g) :=
  hm.change name (some g) (fun n => m.find?_insert name n _) (fun n => s.packets.find?_insert name n g)
    hk fun _ hg => Option.some.inj hg ▸ hl

theorem remove (hm : Mirrors m s) (name : String) (hk : s.pool.Keeps q (s.others name)) :
    Mirrors (m.erase name) ({ s with pool := q }.remove name) := by
  refine hm.change name none (fun n => m.find?_erase name n)
    (fun n => s.packets.find?_erase name n) hk fun g hg => ?_
  cases hg

/-- A handle that stays on its buffer. -/
theorem replace (hm : Mirrors m s) (hf : s.packets.find? name = some h)
    (hb : g.buffer = h.buffer) : Mirrors (m.insert name (s.pool.owned g)) (s.update name g) := by
  refine hm.update (q := s.pool) (Pool.Keeps.refl _ _) ?_
  rw [Pool.limit, hb]
  exact hm.permitted name h hf

/-- Storing a handle from outside the session. -/
theorem store (hm : Mirrors m s) (name : String) (hs : s.pool.Sound (h :: s.handles))
    (hl : s.pool.limit h ≤ maxBuffer) :
    Mirrors (m.insert name (s.pool.owned h)) (s.store name h) := by
  unfold Session.store
  simp only
  cases hf : s.packets.find? name with
  | none => exact hm.update (q := s.pool) (Pool.Keeps.refl _ _) hl
  | some old =>
      have hold : s.pool.Sound (old :: h :: s.others name) :=
        hs.perm (((Session.handles_perm hf).cons h).trans (.swap _ _ _))
      have hkeeps := hold.keeps_release
      have hbytes : (s.pool.release old.buffer).bytes h.buffer = s.pool.bytes h.buffer :=
        hkeeps h List.mem_cons_self
      rw [← Pool.owned_congr hbytes]
      refine hm.update (fun g hg => hkeeps g (List.mem_cons_of_mem _ hg)) ?_
      rw [Pool.limit, hbytes]
      exact hl

/-- No byte changes that any handle can see. -/
theorem keeps (hm : Mirrors m s) (hk : s.pool.Keeps q s.handles) :
    Mirrors m { s with pool := q } := by
  have hbytes : ∀ n g, s.packets.find? n = some g → q.bytes g.buffer = s.pool.bytes g.buffer :=
    fun n g hg => hk g (Session.mem_handles_of_find hg)
  refine ⟨fun n => ?_, fun n g hg => ?_⟩
  · rw [hm.packets]
    cases hg : s.packets.find? n with
    | none => rfl
    | some g => simp only [Option.map_some, Pool.owned_congr (hbytes n g hg)]
  · show (q.bytes g.buffer).length ≤ maxBuffer
    rw [hbytes n g hg]
    exact hm.permitted n g hg

/-- All that can be read is the same. -/
theorem sight_eq (hm : Mirrors m s) : s.sight = m.sight := by
  funext name
  rw [Session.sight, OwnedPackets.sight, hm.packets, Option.map_map]
  cases s.packets.find? name with
  | none => rfl
  | some h =>
      rw [Option.map_some, Option.map_some, Pool.observe_eq]
      rfl

/-! ## Commands -/

theorem agree_withPacket (hm : Mirrors m s) {act : Owned → OwnedPackets × Reply}
    {act' : Handle → Session × Reply}
    (hact : ∀ h, s.packets.find? name = some h → Agree (act (s.pool.owned h)) (act' h)) :
    Agree (m.withPacket name act) (s.withPacket name act') := by
  have hfind := hm.packets name
  cases hf : s.packets.find? name with
  | none =>
      rw [hf] at hfind
      rw [Session.withPacket_none hf, OwnedPackets.withPacket, hfind]
      exact ⟨hm, rfl⟩
  | some h =>
      rw [hf] at hfind
      rw [Session.withPacket_some hf, OwnedPackets.withPacket, hfind]
      exact hact h hf

theorem make (hm : Mirrors m s) (hs : s.Sound) (target : String) {source : Source}
    (hi : source.importedLength ≤ maxBuffer) :
    Agree (m.make target source) (s.make target source) := by
  have hmade := Pool.make_made s.pool source
  unfold OwnedPackets.make Session.make
  rw [← hmade]
  cases hmake : s.pool.make source with
  | error e =>
      cases e with
      | alloc cause => exact ⟨hm, rfl⟩
      | fault => exact ⟨hm, rfl⟩
  | ok made =>
      obtain ⟨q, h⟩ := made
      have hadmits := Pool.make_admits hs hmake
      rw [hmake] at hmade
      -- the bound on imported regions enters here, and nowhere else
      have hl : q.limit h ≤ maxBuffer := by
        have hle := Owned.make_length_le hmade.symm
        rwa [Nat.max_eq_right hi] at hle
      exact ⟨(hm.keeps hadmits.keeps).store target hadmits.sound hl, rfl⟩

theorem clone (hm : Mirrors m s) (hs : s.Sound) (packet target : String) :
    Agree (m.clone packet target) (s.clone packet target) := by
  refine hm.agree_withPacket fun h hf => ⟨?_, rfl⟩
  have hbytes : ∀ id, (s.pool.clone h).1.bytes id = s.pool.bytes id := fun _ => Pool.bytes_retain
  have howned : ∀ g : Handle, g.buffer = h.buffer → g.frame = h.frame →
      g.annotations = h.annotations → g.writable = false →
      (s.pool.clone h).1.owned g = (s.pool.owned h).setWritable false := by
    intro g hb hframe ha hw
    rw [Pool.owned, hbytes, hb, hframe, ha, hw]
    rfl
  have hl : ∀ g : Handle, g.buffer = h.buffer → (s.pool.clone h).1.limit g ≤ maxBuffer := by
    intro g hb
    rw [Pool.limit, hbytes, hb]
    exact hm.permitted packet h hf
  -- first the packet itself changes, then its clone is stored
  have hfirst : Mirrors (m.insert packet ((s.pool.owned h).setWritable false))
      ({ s with pool := (s.pool.clone h).1 }.update packet h.toShared) := by
    rw [← howned h.toShared rfl rfl rfl rfl]
    exact hm.update (fun g _ => hbytes g.buffer) (hl h.toShared rfl)
  have hsound : (s.pool.clone h).1.Sound ((s.pool.clone h).2
      :: ({ s with pool := (s.pool.clone h).1 }.update packet h.toShared).handles) :=
    (Pool.Sound.clone (hs.focus hf)).perm ((Session.handles_update _ _ _).symm.cons _)
  have hsecond := hfirst.store target hsound (hl _ rfl)
  have hother : (s.pool.clone h).1.owned (s.pool.clone h).2 = (s.pool.owned h).setWritable false :=
    howned _ rfl rfl rfl rfl
  exact hother ▸ hsecond

theorem toShared (hm : Mirrors m s) (packet : String) :
    Agree (m.step (.toShared packet)) (s.step (.toShared packet)) :=
  hm.agree_withPacket fun h hf => ⟨hm.replace (g := h.toShared) hf rfl, rfl⟩

theorem kill (hm : Mirrors m s) (hs : s.Sound) (packet : String) :
    Agree (m.step (.kill packet)) (s.step (.kill packet)) :=
  hm.agree_withPacket fun _ hf => ⟨hm.remove packet (hs.focus hf).keeps_release, rfl⟩

theorem resize (hm : Mirrors m s) (hs : s.Sound) (packet : String) (how : Resizing) :
    Agree (m.resize packet how) (s.resize packet how) := by
  refine hm.agree_withPacket fun h hf => ?_
  have hl := hm.permitted packet h hf
  have howned := how.apply_owned (hs.focus hf) hl
  have hleaves := how.apply_leaves (hs.focus hf)
  rw [← howned]
  rcases happly : how.apply s.pool h with ⟨q, e | g⟩
  · rw [happly] at hleaves
    have hgone := hm.remove packet hleaves.keeps
    cases e with
    | alloc cause => exact ⟨hgone, rfl⟩
    | fault => exact ⟨hgone, rfl⟩
  · rw [happly] at hleaves
    have hle : q.limit g ≤ maxBuffer := by
      have := hleaves.limit_le g rfl
      rwa [Nat.max_eq_right hl] at this
    exact ⟨hm.update hleaves.keeps hle, rfl⟩

theorem write (hm : Mirrors m s) (hs : s.Sound) (packet : String) (region : Region)
    (position : Nat) (bytes : Bytes) :
    Agree (m.write packet region position bytes) (s.write packet region position bytes) := by
  refine hm.agree_withPacket fun h hf => ?_
  rw [← Pool.write_owned (hs.focus hf) region position bytes]
  cases hw : s.pool.write h region position bytes with
  | error e => cases e <;> exact ⟨hm, rfl⟩
  | ok q =>
      obtain ⟨-, hkeeps, hlimit⟩ := Pool.write_leaves (hs.focus hf) hw
      refine ⟨hm.change packet (some h) (fun n => m.find?_insert packet n _)
        (fun n => ?_) hkeeps fun g hg => ?_, rfl⟩
      · by_cases hn : packet = n
        · rw [if_pos hn, ← hn]
          exact hf
        · rw [if_neg hn]
      · cases hg
        show q.limit h ≤ maxBuffer
        rw [hlimit]
        exact hm.permitted packet h hf

theorem adjust (hm : Mirrors m s) (packet : String) (how : Adjustment) :
    Agree (m.adjust packet how) (s.adjust packet how) := by
  refine hm.agree_withPacket fun h hf => ?_
  rw [← how.apply_owned s.pool h]
  cases how.apply h.frame (s.pool.limit h) with
  | error reply => exact ⟨hm, rfl⟩
  | ok frame => exact ⟨hm.replace (g := { h with frame := frame }) hf rfl, rfl⟩

theorem annotate (hm : Mirrors m s) (packet : String) (how : Annotating) :
    Agree (m.annotate packet how) (s.annotate packet how) := by
  refine hm.agree_withPacket fun h hf => ?_
  rw [← how.apply_owned s.pool h]
  cases happly : how.apply h with
  | error reply => exact ⟨hm, rfl⟩
  | ok g =>
      obtain ⟨hb, -, -, -⟩ := how.apply_keeps happly
      exact ⟨hm.replace hf hb, rfl⟩

theorem copyAnnotations (hm : Mirrors m s) (packet source : String) :
    Agree (m.copyAnnotations packet source) (s.copyAnnotations packet source) :=
  hm.agree_withPacket fun h hf => hm.agree_withPacket fun other _ =>
    ⟨hm.replace (g := { h with annotations := other.annotations }) hf rfl, rfl⟩

/-- **One command on both sides.** -/
theorem step (hm : Mirrors m s) (hs : s.Sound) (c : PacketCommand)
    (hi : c.importedLength ≤ maxBuffer) : Agree (m.step c) (s.step c.toCommand) := by
  cases c with
  | make target source => exact hm.make hs target hi
  | clone packet target => exact hm.clone hs packet target
  | toShared packet => exact hm.toShared packet
  | kill packet => exact hm.kill hs packet
  | resize packet how => exact hm.resize hs packet how
  | write packet region position bytes => exact hm.write hs packet region position bytes
  | adjust packet how => exact hm.adjust packet how
  | annotate packet how => exact hm.annotate packet how
  | copyAnnotations packet source => exact hm.copyAnnotations packet source

/-- States that mirror each other have the same record from then on. -/
theorem trace_eq (hm : Mirrors m s) (hs : s.Sound) (cs : List PacketCommand)
    (hi : ∀ c ∈ cs, c.importedLength ≤ maxBuffer) : s.trace cs = m.trace cs := by
  induction cs generalizing m s with
  | nil => rfl
  | cons c rest ih =>
      obtain ⟨hm', hresult⟩ := hm.step hs c (hi c List.mem_cons_self)
      have hs' : (s.step c.toCommand).1.Sound := hs.step c.toCommand
      have hrest : ∀ c ∈ rest, c.importedLength ≤ maxBuffer :=
        fun c hc => hi c (List.mem_cons_of_mem _ hc)
      rw [Session.trace, OwnedPackets.trace, ← hresult, hm'.sight_eq, ih hm' hs' hrest]

end Mirrors

/-- **Copy-on-write refines deep copying.** Whatever commands are executed on packets, in any order:
if no imported region is larger than a buffer may be, each has the same result as if every packet
had a buffer of its own and every clone were a copy, and each packet reads the same after it. -/
theorem copyOnWrite_refines (cs : List PacketCommand)
    (hi : ∀ c ∈ cs, c.importedLength ≤ maxBuffer) :
    ({} : Session).trace cs = OwnedPackets.trace .empty cs :=
  Mirrors.empty.trace_eq Session.sound_empty cs hi

/-- A region is imported and cloned; then the clone is copied, written to, and given more room. -/
def isolation : List PacketCommand :=
  [.make "a" (.region "ring" [1, 2, 3, 4]), .clone "a" "b", .resize "b" .uniqueify,
    .write "b" .data 0 [9], .resize "b" (.push 2), .kill "a"]

theorem copyOnWrite_refines_isolation :
    (∀ c ∈ isolation, c.importedLength ≤ maxBuffer)
      ∧ ({} : Session).trace isolation = OwnedPackets.trace .empty isolation :=
  ⟨by decide, copyOnWrite_refines isolation (by decide)⟩

end PacketPath
