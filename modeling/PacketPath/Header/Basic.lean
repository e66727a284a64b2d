import PacketPath.Bytes

set_option autoImplicit false

/-! # Reading headers

A header of fixed size is read off the front of a byte string; it fails only when the string
is too short, and bytes after the header are not looked at.
-/

namespace PacketPath

/-- Why a header could not be read. -/
inductive ReadError
  | notEnoughBytes (needed available : Nat)
deriving DecidableEq

def ReadError.message : ReadError → String
  | .notEnoughBytes needed available =>
    "need " ++ needed.repr ++ " bytes, only " ++ available.repr ++ " available"

/-- The first `size` bytes. -/
def readFront (size : Nat) (b : Bytes) : Except ReadError Bytes :=
  if b.length < size then .error (.notEnoughBytes size b.length) else .ok (b.take size)

/-- A byte of the front is the byte of the whole string. -/
theorem byte_take {b : Bytes} {size i : Nat} (h : i < size) :
    Bytes.byte (b.take size) i = b.byte i := by
  simp [Bytes.byte, List.getD, List.getElem?_take_of_lt h]

end PacketPath
