import PacketPath.Packet.Pool

set_option autoImplicit false

/-! # What the operations on a pool do to its buffers

For each operation: which bytes and how many handles each buffer has afterwards. A buffer that the
operation does not name keeps both.
-/

namespace PacketPath.Pool

variable {p : Pool} {i j : BufferId} {b : Buffer}

/-! ## Numbering -/

@[simp] theorem next_retain : (p.retain i).next = p.next := by
  unfold retain
  split <;> rfl

@[simp] theorem next_release : (p.release i).next = p.next := by
  unfold release
  split
  · split <;> rfl
  · rfl

@[simp] theorem next_setBytes (bytes : Bytes) : (p.setBytes i bytes).next = p.next := by
  unfold setBytes
  split <;> rfl

/-! ## Adding -/

theorem find?_add (bytes : Bytes) (storage : Storage) :
    (p.add bytes storage).1.buffers.find? j
      = if p.next = j then some ⟨bytes, storage, 1⟩ else p.buffers.find? j :=
  Registry.find?_insert _ _ _ _

theorem bytes_add (bytes : Bytes) (storage : Storage) :
    (p.add bytes storage).1.bytes j = if p.next = j then bytes else p.bytes j := by
  rw [Pool.bytes, find?_add]
  split <;> rfl

theorem uses_add (bytes : Bytes) (storage : Storage) :
    (p.add bytes storage).1.uses j = if p.next = j then 1 else p.uses j := by
  rw [Pool.uses, find?_add]
  split <;> rfl

/-! ## Counting handles -/

theorem find?_retain (h : p.buffers.find? i = some b) :
    (p.retain i).buffers.find? j
      = if i = j then some { b with uses := b.uses + 1 } else p.buffers.find? j := by
  simp only [retain, h, Registry.find?_insert]

/-- One more handle changes no bytes. -/
theorem bytes_retain : (p.retain i).bytes j = p.bytes j := by
  cases h : p.buffers.find? i with
  | none => simp only [retain, h]
  | some b =>
    rw [Pool.bytes, find?_retain h, Pool.bytes]
    split
    · next hij => rw [← hij, h]; rfl
    · rfl

theorem uses_retain (h : p.buffers.find? i = some b) :
    (p.retain i).uses j = if i = j then p.uses j + 1 else p.uses j := by
  rw [Pool.uses, find?_retain h, Pool.uses]
  split
  · next hij => rw [← hij, h]; rfl
  · rfl

theorem find?_release_last (h : p.buffers.find? i = some b) (hb : b.uses ≤ 1) :
    (p.release i).buffers.find? j = if i = j then none else p.buffers.find? j := by
  simp only [release, h, if_pos hb, Registry.find?_erase]

theorem find?_release_shared (h : p.buffers.find? i = some b) (hb : ¬ b.uses ≤ 1) :
    (p.release i).buffers.find? j
      = if i = j then some { b with uses := b.uses - 1 } else p.buffers.find? j := by
  simp only [release, h, if_neg hb, Registry.find?_insert]

/-- The release of a handle touches no other buffer. -/
theorem find?_release_of_ne (hij : i ≠ j) :
    (p.release i).buffers.find? j = p.buffers.find? j := by
  cases h : p.buffers.find? i with
  | none => simp only [release, h]
  | some b =>
    by_cases hb : b.uses ≤ 1
    · rw [find?_release_last h hb, if_neg hij]
    · rw [find?_release_shared h hb, if_neg hij]

theorem bytes_release_of_ne (hij : i ≠ j) : (p.release i).bytes j = p.bytes j := by
  rw [Pool.bytes, find?_release_of_ne hij, Pool.bytes]

theorem uses_release_of_ne (hij : i ≠ j) : (p.release i).uses j = p.uses j := by
  rw [Pool.uses, find?_release_of_ne hij, Pool.uses]

/-- A released handle is no longer counted, whether or not it was the last one. -/
theorem uses_release_self : (p.release i).uses i = p.uses i - 1 := by
  cases h : p.buffers.find? i with
  | none => simp only [release, h, Pool.uses, Option.map_none, Option.getD_none]
  | some b =>
    by_cases hb : b.uses ≤ 1
    · rw [Pool.uses, find?_release_last h hb, Pool.uses, h, if_pos rfl]
      simp only [Option.map_none, Option.getD_none, Option.map_some, Option.getD_some]
      omega
    · rw [Pool.uses, find?_release_shared h hb, Pool.uses, h, if_pos rfl]
      rfl

/-- The bytes of a buffer stay as long as another handle is on it. -/
theorem bytes_release_self (h : 1 < p.uses i) : (p.release i).bytes i = p.bytes i := by
  cases hf : p.buffers.find? i with
  | none => rw [Pool.uses, hf] at h; cases h
  | some b =>
    have hb : ¬ b.uses ≤ 1 := by rw [Pool.uses, hf] at h; exact Nat.not_le.mpr h
    rw [Pool.bytes, find?_release_shared hf hb, Pool.bytes, hf, if_pos rfl]
    rfl

/-- What is in the pool after a release was there before, and is still in use. -/
theorem find?_of_release {c : Buffer} (h : (p.release i).buffers.find? j = some c) :
    ∃ b, p.buffers.find? j = some b ∧ c = { b with uses := c.uses }
      ∧ (0 < b.uses → 0 < c.uses) := by
  by_cases hij : i = j
  · subst hij
    cases hf : p.buffers.find? i with
    | none => simp only [release, hf] at h; cases h
    | some b =>
      by_cases hb : b.uses ≤ 1
      · rw [find?_release_last hf hb, if_pos rfl] at h
        cases h
      · rw [find?_release_shared hf hb, if_pos rfl] at h
        cases h
        exact ⟨b, rfl, rfl, fun _ => by simp only; omega⟩
  · rw [find?_release_of_ne hij] at h
    exact ⟨c, h, rfl, id⟩

/-! ## Writing -/

theorem find?_setBytes (h : p.buffers.find? i = some b) (bytes : Bytes) :
    (p.setBytes i bytes).buffers.find? j
      = if i = j then some { b with bytes := bytes } else p.buffers.find? j := by
  simp only [setBytes, h, Registry.find?_insert]

theorem bytes_setBytes (h : p.buffers.find? i = some b) (bytes : Bytes) :
    (p.setBytes i bytes).bytes j = if i = j then bytes else p.bytes j := by
  rw [Pool.bytes, find?_setBytes h, Pool.bytes]
  split <;> rfl

/-- A write changes no counts. -/
theorem uses_setBytes (bytes : Bytes) : (p.setBytes i bytes).uses j = p.uses j := by
  cases h : p.buffers.find? i with
  | none => simp only [setBytes, h]
  | some b =>
    rw [Pool.uses, find?_setBytes h, Pool.uses]
    split
    · next hij => rw [← hij, h]; rfl
    · rfl

end PacketPath.Pool
