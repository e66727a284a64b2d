import PacketPath.Header.Encoder
import PacketPath.Packet.Size

set_option autoImplicit false

/-! # The environment

What an operation takes from outside: memory for its buffers, and an encoder for the headers that it
builds. Memory can run out at any time, so each operation has an environment of its own. One that is
not told in which environment it runs is in the standard one.
-/

namespace PacketPath

/-- What is outside. -/
structure Environment where
  /-- Whether there is no memory for a buffer of a size. -/
  lacks : Nat → Bool := fun _ => false
  /-- The encoder of the headers that are built. -/
  encoder : Encoder := .standard

namespace Environment

/-- The environment that is meant where none is given: **memory never runs out**, so that buffers are
refused for their size alone, and headers are written by the standard encoder. -/
def standard : Environment := {}

/-- The environment in which memory never runs out, but headers are written by another encoder. -/
def ofEncoder (e : Encoder) : Environment := { encoder := e }

/-- Checks the size of a buffer to be allocated, given the parts that it is the sum of: the buffer is
no smaller than `least`, it must not be too large, and there must be memory for it. A buffer without
bytes takes no memory. -/
def room (env : Environment) (least : Nat) (parts : List Nat) : Except AllocError Nat :=
  match allocationSize parts with
  | .error e => .error e
  | .ok size =>
    if 0 < max size least ∧ env.lacks (max size least) = true then
      .error (.outOfMemory (max size least))
    else .ok (max size least)

/-- Where memory never runs out, only the size counts. -/
theorem standard_room (least : Nat) (parts : List Nat) :
    standard.room least parts = (allocationSize parts).map (max · least) := by
  unfold room
  cases allocationSize parts with
  | error e => rfl
  | ok size => exact if_neg fun h => Bool.false_ne_true h.2

theorem standard_room_three (least a b c : Nat) :
    standard.room least [a, b, c] = if a + b + c ≤ maxBuffer then .ok (max (a + b + c) least)
      else .error (.tooLarge (saturate (a + b + c))) := by
  rw [standard_room, allocationSize_three]
  split <;> rfl

theorem standard_room_zero (parts : List Nat) : standard.room 0 parts = allocationSize parts := by
  rw [standard_room]
  cases allocationSize parts with
  | error e => rfl
  | ok size => exact congrArg Except.ok (Nat.max_zero size)

/-- What there is room for is a permitted size. -/
theorem room_eq_ok {env : Environment} {least size : Nat} {parts : List Nat}
    (h : env.room least parts = .ok size) :
    size = max (total parts) least ∧ total parts ≤ maxBuffer := by
  unfold room at h
  split at h
  · cases h
  · next sum hsum =>
    obtain ⟨rfl, hle⟩ := allocationSize_eq_ok hsum
    split at h
    · cases h
    · cases h
      exact ⟨rfl, hle⟩

/-- There is room for the same sizes as in the standard environment, unless memory has run out. -/
theorem room_eq (env : Environment) (least : Nat) (parts : List Nat) :
    env.room least parts = standard.room least parts
      ∨ ∃ size, env.room least parts = .error (.outOfMemory size) := by
  rw [standard_room]
  unfold room
  cases allocationSize parts with
  | error e => exact .inl rfl
  | ok size =>
    simp only
    split
    · exact .inr ⟨_, rfl⟩
    · exact .inl rfl

end Environment

end PacketPath
