import PacketPath.Text.Decimal

set_option autoImplicit false

/-! # Receive times

A receive time is a pair of seconds and microseconds. Nothing keeps the microseconds below one
million: a timestamp is what was stored, and is ordered by seconds, then microseconds.
-/

namespace PacketPath

/-- When a packet was received. -/
structure Timestamp where
  secs : Int64 := 0
  usecs : Int32 := 0
deriving DecidableEq, Inhabited

namespace Timestamp

def zero : Timestamp := {}

def isZero (t : Timestamp) : Bool := t == zero

/-- The time that lies a duration after the epoch, cut to whole microseconds. Seconds beyond the
signed range come out negative. -/
def ofDuration (seconds : UInt64) (nanos : UInt32) : Timestamp :=
  ⟨seconds.toInt64, (nanos / 1000).toInt32⟩

/-- Seconds and microseconds with a point between them, the microseconds in six columns. -/
def describe (t : Timestamp) : String :=
  Text.decimal t.secs.toInt ++ "." ++ Text.zeroPadded 6 t.usecs.toInt

/-- The timestamp with the names of its fields. -/
def describeFields (t : Timestamp) : String :=
  "Timestamp \x7b secs: " ++ Text.decimal t.secs.toInt ++ ", usecs: "
    ++ Text.decimal t.usecs.toInt ++ " \x7d"

instance : Ord Timestamp where
  compare a b := (compare a.secs.toInt b.secs.toInt).then (compare a.usecs.toInt b.usecs.toInt)

end Timestamp

end PacketPath
