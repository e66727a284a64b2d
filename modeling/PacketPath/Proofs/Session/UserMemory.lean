import PacketPath.Proofs.Annotation.UserArea
import PacketPath.Proofs.Session.Places

set_option autoImplicit false

/-! # The user area of a packet

Stores into the user area of a packet, of any number and any kinds, as a session executes them. The
area holds what a plain memory holds after the same stores, and is read as this memory is. A store
outside the area is a fault that leaves the session as it is. Nothing else about the packet changes,
and nothing about any other.
-/

namespace PacketPath

/-- The handle with another user area. -/
def Handle.withUser (h : Handle) (user : UserArea) : Handle :=
  { h with annotations.block.user := user }

/-- The memory of a packet. -/
def Handle.memory (h : Handle) : Memory := h.annotations.block.user.memory

namespace Session

/-- The session after some stores into the user area of a packet. -/
def storing (s : Session) (packet : String) (ws : List UserWrite) : Session :=
  s.run (ws.map fun w => .annotate packet w.annotating)

end Session

/-- What stores into the user area of the packet `h` do, which is under a name of a session. -/
structure UserStores (s : Session) (packet : String) (h : Handle) (ws : List UserWrite) :
    Prop where
  /-- The area holds what the memory holds. No other annotation has changed, and no other packet. -/
  stored : ∃ user : UserArea, user.bytes = List.ofFn (ws.foldl Memory.store h.memory)
    ∧ s.Becomes packet (h.withUser user) (s.storing packet ws)
  /-- One more store is made if it goes to the area. -/
  granted : ∀ w : UserWrite, w.InRange → ∃ user : UserArea,
    user.bytes = List.ofFn ((ws.foldl Memory.store h.memory).store w)
      ∧ (s.storing packet ws).step (.annotate packet w.annotating)
        = ((s.storing packet ws).update packet (h.withUser user),
          .annotations (h.withUser user).annotations)
  /-- Any other one is a fault. -/
  fault : ∀ w : UserWrite, ¬ w.InRange →
    (s.storing packet ws).step (.annotate packet w.annotating) = (s.storing packet ws, .fault)
  /-- The area is read as the memory is, with a fault outside of it. -/
  byte : ∀ i, (s.storing packet ws).step (.inquire packet (.byte i))
    = (s.storing packet ws, (ws.foldl Memory.store h.memory).answerByte i)
  word : ∀ i, (s.storing packet ws).step (.inquire packet (.word i))
    = (s.storing packet ws, (ws.foldl Memory.store h.memory).answerWord i)
  int : ∀ i, (s.storing packet ws).step (.inquire packet (.int i))
    = (s.storing packet ws, (ws.foldl Memory.store h.memory).answerInt i)
  /-- A machine that computes the ends of a word in 64 bits, and stops where they do not fit, stops
  exactly where there is no word. -/
  machine : ∀ (user : UserArea) (i : Nat), Guarded.word? user i = user.word? i
    ∧ ∀ v, Guarded.setWord? user i v = (user.setWord? i v).map (·.bytes)

theorem UserWrite.apply_annotating (w : UserWrite) (h : Handle) :
    w.annotating.apply h = h.setUser (h.annotations.block.user.write? w) := by
  cases w <;> rfl

namespace Session

variable {s : Session} {packet : String} {h : Handle} {w : UserWrite}

/-- A store in range changes the user area of the packet. -/
theorem step_store (hf : s.packets.find? packet = some h) (hw : w.InRange) :
    ∃ user : UserArea, user.memory = h.memory.store w
      ∧ s.step (.annotate packet w.annotating)
        = (s.update packet (h.withUser user), .annotations (h.withUser user).annotations) := by
  obtain ⟨user, huser, hmemory⟩ := UserArea.write?_of_inRange hw h.annotations.block.user
  have happly : w.annotating.apply h = .ok (h.withUser user) := by
    rw [w.apply_annotating, huser]
    rfl
  refine ⟨user, hmemory, ?_⟩
  rw [Session.step, annotate, withPacket_some hf, happly]

/-- A store that is not in range is a fault. -/
theorem step_store_fault (hf : s.packets.find? packet = some h) (hw : ¬ w.InRange) :
    s.step (.annotate packet w.annotating) = (s, .fault) := by
  have happly : w.annotating.apply h = .error .fault := by
    rw [w.apply_annotating, UserArea.write?_of_not_inRange hw]
    rfl
  rw [Session.step, annotate, withPacket_some hf, happly]

/-- After any stores only the user area of the packet is another one. -/
theorem exists_stored (hf : s.packets.find? packet = some h) (ws : List UserWrite) :
    ∃ user : UserArea, user.memory = ws.foldl Memory.store h.memory
      ∧ s.Becomes packet (h.withUser user) (s.storing packet ws) := by
  -- the stores are followed from the last one back, so that what came before is one session
  induction ws using List.reverseRecOn with
  | nil => exact ⟨h.annotations.block.user, rfl, becomes_refl hf⟩
  | append_singleton ws w ih =>
      obtain ⟨user, hmemory, hb⟩ := ih
      have hrun : s.storing packet (ws ++ [w])
          = ((s.storing packet ws).step (.annotate packet w.annotating)).1 := by
        rw [storing, List.map_append, run_append]
        rfl
      rw [List.foldl_append, List.foldl_cons, List.foldl_nil, hrun]
      by_cases hw : w.InRange
      · obtain ⟨user', hmemory', hstep⟩ := step_store hb.find? hw
        refine ⟨user', hmemory'.trans (congrArg (Memory.store · w) hmemory), ?_⟩
        rw [hstep]
        exact hb.update _
      · rw [step_store_fault hb.find? hw, Memory.store_of_not_inRange hw]
        exact ⟨user, hmemory, hb⟩

end Session

/-- **The user area is one memory of twelve bytes**, whatever was stored through whichever of its
views. -/
theorem user_stores (s : Session) (packet : String) (h : Handle)
    (hf : s.packets.find? packet = some h) (ws : List UserWrite) : UserStores s packet h ws := by
  obtain ⟨user, hmemory, hb⟩ := Session.exists_stored hf ws
  have hafter := hb.find?
  refine ⟨⟨user, by rw [user.bytes_eq_ofFn, hmemory], hb⟩, fun w hw => ?_,
    fun w hw => Session.step_store_fault hafter hw, fun i => ?_, fun i => ?_, fun i => ?_,
    fun user i => ⟨Guarded.word?_eq user i, Guarded.setWord?_eq user i⟩⟩
  · obtain ⟨user', hmemory', hstep⟩ := Session.step_store hafter hw
    refine ⟨user', ?_, hstep⟩
    rw [user'.bytes_eq_ofFn, hmemory', ← hmemory]
    rfl
  · rw [← hmemory, ← UserArea.answer_byte, Session.step, Session.withPacket_some hafter]
    rfl
  · rw [← hmemory, ← UserArea.answer_word, Session.step, Session.withPacket_some hafter]
    rfl
  · rw [← hmemory, ← UserArea.answer_int, Session.step, Session.withPacket_some hafter]
    rfl

/-- A word is stored over a byte, a signed one beside it, and two stores go nowhere: one behind the
last word, and one where four times the position is no size. -/
theorem user_stores_overlapping :
    let s := ({} : Session).run [.make "p" (.zeros 0 4 0)]
    let ws : List UserWrite := [.byte 5 0xFF, .word 1 0x04030201, .int 2 (-2), .word 3 7,
      .int 4611686018427387904 7]
    ∃ h, s.packets.find? "p" = some h ∧ UserStores s "p" h ws
      ∧ List.ofFn (ws.foldl Memory.store h.memory)
        = [0, 0, 0, 0, 1, 2, 3, 4, 0xFE, 0xFF, 0xFF, 0xFF] := by
  intro s ws
  obtain ⟨h, hf⟩ : ∃ h, s.packets.find? "p" = some h := ⟨_, rfl⟩
  have hbytes : (s.packets.find? "p").map (fun h => List.ofFn (ws.foldl Memory.store h.memory))
      = some [0, 0, 0, 0, 1, 2, 3, 4, 0xFE, 0xFF, 0xFF, 0xFF] := by decide +kernel
  rw [hf, Option.map_some, Option.some_inj] at hbytes
  exact ⟨h, hf, user_stores s "p" h hf ws, hbytes⟩

end PacketPath
