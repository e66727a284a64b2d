set_option autoImplicit false

/-! # IP protocol numbers

The protocols that have a name of their own, and all others by number. A named protocol and
`unknown` with the same number are different values: only `ofNumber` decides which is used.
-/

namespace PacketPath

/-- What an IP header says it carries. -/
inductive Protocol
  | icmp
  | tcp
  | udp
  | unknown (number : UInt8)
deriving DecidableEq, Inhabited

namespace Protocol

/-- The protocol that a header byte names. -/
def ofNumber (n : UInt8) : Protocol :=
  if n = 1 then .icmp else if n = 6 then .tcp else if n = 17 then .udp else .unknown n

def number : Protocol → UInt8
  | icmp => 1
  | tcp => 6
  | udp => 17
  | unknown n => n

theorem number_ofNumber (n : UInt8) : (ofNumber n).number = n := by
  unfold ofNumber
  split
  · next h => exact h.symm
  · split
    · next h => exact h.symm
    · split
      · next h => exact h.symm
      · rfl

def describe : Protocol → String
  | icmp => "ICMP"
  | tcp => "TCP"
  | udp => "UDP"
  | unknown n => "Unknown(" ++ n.toNat.repr ++ ")"

/-- The place of a protocol in the order: the named ones first, then the others by number. -/
def rank : Protocol → Nat
  | icmp => 0
  | tcp => 1
  | udp => 2
  | unknown n => 3 + n.toNat

instance : Ord Protocol where
  compare a b := compare a.rank b.rank

end Protocol

end PacketPath
