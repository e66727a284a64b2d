import PacketPath.Bytes

set_option autoImplicit false

/-! # The user annotation area

Twelve bytes for the elements of a pipeline to use as they like, read and written as single
bytes or as three little-endian 32-bit words. The two ways share the same memory. An access
outside the area has no result.
-/

namespace PacketPath

/-- The twelve bytes of user annotations. -/
structure UserArea where
  bytes : Bytes
  length_bytes : bytes.length = 12
deriving DecidableEq

namespace UserArea

def zero : UserArea := ⟨Bytes.zeros 12, Bytes.length_zeros 12⟩

instance : Inhabited UserArea := ⟨zero⟩

/-- The byte at position `i`. -/
def byte? (u : UserArea) (i : Nat) : Option UInt8 := u.bytes[i]?

/-- The bytes of a patch stored from position `i` on, if they fit. -/
def store? (u : UserArea) (i : Nat) (patch : Bytes) : Option UserArea :=
  if h : i + patch.length ≤ 12 then
    some ⟨u.bytes.overlay i patch, by
      rw [Bytes.length_overlay (by rw [u.length_bytes]; exact h), u.length_bytes]⟩
  else none

def setByte? (u : UserArea) (i : Nat) (v : UInt8) : Option UserArea := u.store? i [v]

/-- The word at word position `i`. -/
def word? (u : UserArea) (i : Nat) : Option UInt32 :=
  if i < 3 then some (UInt32.ofNat (Bytes.ofLeBytes (u.bytes.slice (4 * i) (4 * i + 4))))
  else none

/-- Stores a word at word position `i`. Its first byte has position `4 * i`, which a machine with
64-bit sizes may be unable to compute. Here there is no result then, as on a machine that checks for
overflow and stops; on one that does not check, the position would wrap around. -/
def setWord? (u : UserArea) (i : Nat) (v : UInt32) : Option UserArea :=
  u.store? (4 * i) (Bytes.leBytes 4 v.toNat)

/-- The word at word position `i` as a signed number. -/
def int? (u : UserArea) (i : Nat) : Option Int32 := (u.word? i).map (·.toInt32)

def setInt? (u : UserArea) (i : Nat) (v : Int32) : Option UserArea := u.setWord? i v.toUInt32

end UserArea

end PacketPath
