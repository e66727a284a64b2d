import PacketPath.Bytes

set_option autoImplicit false

/-! # Internet addresses -/

namespace PacketPath

structure Ipv4Address where
  a : UInt8
  b : UInt8
  c : UInt8
  d : UInt8
deriving DecidableEq, Inhabited

namespace Ipv4Address

def bytes (ip : Ipv4Address) : Bytes := [ip.a, ip.b, ip.c, ip.d]

/-- The address in the four bytes at position `i`. -/
def atPosition (b : Bytes) (i : Nat) : Ipv4Address :=
  ⟨b.byte i, b.byte (i + 1), b.byte (i + 2), b.byte (i + 3)⟩

/-- The four octets in decimal, with dots between them. -/
def dotted (ip : Ipv4Address) : String :=
  String.intercalate "." (ip.bytes.map fun x => x.toNat.repr)

theorem atPosition_bytes (ip : Ipv4Address) : atPosition ip.bytes 0 = ip := rfl

end Ipv4Address

structure Ipv6Address where
  octets : Vector UInt8 16
deriving DecidableEq

namespace Ipv6Address

def bytes (ip : Ipv6Address) : Bytes := ip.octets.toList

/-- The address in the first sixteen bytes. -/
def ofBytes (b : Bytes) : Ipv6Address := ⟨Vector.ofFn fun i => b.byte i⟩

end Ipv6Address

end PacketPath
