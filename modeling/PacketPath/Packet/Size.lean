set_option autoImplicit false

/-! # Sizes

Sizes and positions are natural numbers. A machine holds those up to `maxSize`; sums that go beyond
it are not wrapped but refused (`sum?`) or cut off (`saturate`).
-/

namespace PacketPath

/-- The largest size of a machine with 64-bit addresses. -/
def maxSize : Nat := 18446744073709551615

/-- The sum of sizes without a limit. -/
def total : List Nat → Nat
  | [] => 0
  | size :: rest => size + total rest

/-- The sum of sizes, if it is a size. -/
def sum? (sizes : List Nat) : Option Nat :=
  if total sizes ≤ maxSize then some (total sizes) else none

/-- The nearest size to a number. -/
def saturate (n : Nat) : Nat := min n maxSize

/-- The largest buffer that is allocated for a packet. -/
def maxBuffer : Nat := 131072

/-- The smallest buffer that is allocated for a packet. -/
def minBuffer : Nat := 64

/-- The room in front of a packet that is made without asking for any: a link-layer header. -/
def defaultHeadroom : Nat := 28

/-- The room added to a buffer when `n` bytes do not fit: more than asked for, so that the next
ones fit, and a multiple of four. -/
def growth (n : Nat) : Nat := saturate (n + 128) / 4 * 4

/-- Room that is added to a buffer of permitted size holds what was asked for. -/
theorem le_growth {n : Nat} (h : growth n ≤ maxBuffer) : n ≤ growth n := by
  simp only [growth, saturate, maxSize, maxBuffer] at *
  omega

/-- Why a buffer is not allocated. -/
inductive AllocError
  | tooLarge (requested : Nat)
  /-- There is no memory for a buffer of permitted size. -/
  | outOfMemory (requested : Nat)
deriving DecidableEq

def AllocError.message : AllocError → String
  | .tooLarge requested =>
    "buffer of " ++ requested.repr ++ " bytes exceeds max " ++ maxBuffer.repr
  | .outOfMemory requested => "failed to allocate buffer of " ++ requested.repr ++ " bytes"

/-- Checks the size of a buffer to be allocated, given the parts that it is the sum of. -/
def allocationSize (parts : List Nat) : Except AllocError Nat :=
  match sum? parts with
  | none => .error (.tooLarge maxSize)
  | some size => if size ≤ maxBuffer then .ok size else .error (.tooLarge size)

/-- What is permitted is decided by the sum without a limit. The size that an error reports is cut
off. -/
theorem allocationSize_eq (parts : List Nat) :
    allocationSize parts = if total parts ≤ maxBuffer then .ok (total parts)
      else .error (.tooLarge (saturate (total parts))) := by
  unfold allocationSize sum? saturate
  by_cases h : total parts ≤ maxSize
  · rw [if_pos h, Nat.min_eq_left h]
  · have hm : ¬ total parts ≤ maxBuffer := by
      simp only [maxSize, maxBuffer] at *
      omega
    rw [if_neg h, if_neg hm, Nat.min_eq_right (Nat.le_of_not_le h)]

/-- The room before the data, the data, and the room behind it. -/
theorem allocationSize_three (a b c : Nat) :
    allocationSize [a, b, c] = if a + b + c ≤ maxBuffer then .ok (a + b + c)
      else .error (.tooLarge (saturate (a + b + c))) := by
  have htotal : total [a, b, c] = a + b + c := by
    simp only [total]
    omega
  rw [allocationSize_eq, htotal]

theorem allocationSize_eq_ok {parts : List Nat} {size : Nat} (h : allocationSize parts = .ok size) :
    size = total parts ∧ total parts ≤ maxBuffer := by
  rw [allocationSize_eq] at h
  split at h
  · next hle =>
    cases h
    exact ⟨rfl, hle⟩
  · cases h

end PacketPath
