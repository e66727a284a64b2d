set_option autoImplicit false

/-! # Packet types

Where a packet came from or is headed, seen from the receiving host. The numbers are the ones
that link layers use.
-/

namespace PacketPath

inductive PacketType
  | host
  | broadcast
  | multicast
  | otherHost
  | outgoing
  | loopback
  | fastRoute
deriving DecidableEq, Inhabited

namespace PacketType

/-- The types in the order of their numbers. -/
def all : List PacketType :=
  [host, broadcast, multicast, otherHost, outgoing, loopback, fastRoute]

def number : PacketType → UInt8
  | host => 0
  | broadcast => 1
  | multicast => 2
  | otherHost => 3
  | outgoing => 4
  | loopback => 5
  | fastRoute => 6

/-- The type with a number, if there is one. -/
def ofNumber? (n : UInt8) : Option PacketType := all.find? (·.number = n)

def name : PacketType → String
  | host => "Host"
  | broadcast => "Broadcast"
  | multicast => "Multicast"
  | otherHost => "OtherHost"
  | outgoing => "Outgoing"
  | loopback => "Loopback"
  | fastRoute => "FastRoute"

theorem ofNumber?_number (t : PacketType) : ofNumber? t.number = some t := by
  cases t <;> decide

end PacketType

end PacketPath
