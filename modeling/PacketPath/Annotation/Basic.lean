import PacketPath.Annotation.PacketType
import PacketPath.Annotation.Timestamp
import PacketPath.Annotation.UserArea
import PacketPath.Header.Address

set_option autoImplicit false

/-! # Packet annotations

What travels with a packet besides its bytes. The block of destination, user area and
performance counter is compared as a whole; packet type, time and device stand beside it.
-/

namespace PacketPath

/-- Where a packet is to be sent next. There is at most one destination, of either family. -/
inductive Destination
  | unset
  | v4 (ip : Ipv4Address)
  | v6 (ip : Ipv6Address)
deriving DecidableEq

namespace Destination

def ipv4? : Destination → Option Ipv4Address
  | v4 ip => some ip
  | _ => none

def ipv6? : Destination → Option Ipv6Address
  | v6 ip => some ip
  | _ => none

end Destination

/-- Identifies the device that a packet arrived on. -/
structure DeviceId where
  number : UInt32
deriving DecidableEq, Inhabited

def DeviceId.describe (d : DeviceId) : String := "DeviceId(" ++ d.number.toNat.repr ++ ")"

instance : Ord DeviceId where
  compare a b := compare a.number.toNat b.number.toNat

/-- The fixed block of annotations. -/
structure AnnotationBlock where
  destination : Destination := .unset
  user : UserArea := .zero
  counter : UInt64 := 0
deriving DecidableEq

/-- Everything that annotates a packet. -/
structure Annotations where
  block : AnnotationBlock := {}
  packetType : PacketType := .host
  timestamp : Timestamp := {}
  device : Option DeviceId := none
deriving DecidableEq

instance : Inhabited Annotations := ⟨{}⟩

end PacketPath
