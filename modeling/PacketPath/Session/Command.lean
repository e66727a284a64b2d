import PacketPath.Check.Checker
import PacketPath.Packet.Make
import PacketPath.Packet.Resize
import PacketPath.Packet.View

set_option autoImplicit false

/-! # Commands and replies

What can be asked of a session, and what it answers. Packets, checkers and sinks go by name.
Commands on one packet are grouped by what they touch: the buffer (`Resizing`), the frame
(`Adjustment`), the annotations (`Annotating`), or nothing (`Inquiry`).
-/

namespace PacketPath

/-- An operation that takes a packet and gives back another one. -/
inductive Resizing
  | uniqueify
  | push (n : Nat)
  | put (n : Nat)
  | pushShared (n : Nat)
  | putShared (n : Nat)
  | encapsulate
  | flipBit (offset : Nat) (bit : UInt8)
  | overwrite (position : Nat) (bytes : Bytes)

/-- An operation that moves the window or the marks of a packet in place. -/
inductive Adjustment
  | pull (n : Nat)
  | take (n : Nat)
  | reposition (headroom length : Nat)
  | markHeader (offset length : Nat)
  | clearMarks

/-- An operation that changes annotations. -/
inductive Annotating
  | setByte (i : Nat) (v : UInt8)
  | setWord (i : Nat) (v : UInt32)
  | setInt (i : Nat) (v : Int32)
  | setCounter (v : UInt64)
  | setDestination (d : Destination)
  | setPacketType (number : UInt8)
  | setTimestamp (t : Timestamp)
  | setDevice (d : Option DeviceId)
  | clear

/-- A question about a packet. -/
inductive Inquiry
  | presence
  | describe
  | headers
  | annotations
  | byte (i : Nat)
  | word (i : Nat)
  | int (i : Nat)

inductive Command
  | make (target : String) (source : Source)
  | clone (packet target : String)
  | toShared (packet : String)
  | kill (packet : String)
  | resize (packet : String) (how : Resizing)
  | write (packet : String) (region : Region) (position : Nat) (bytes : Bytes)
  | adjust (packet : String) (how : Adjustment)
  | annotate (packet : String) (how : Annotating)
  | inquire (packet : String) (what : Inquiry)
  | copyAnnotations (packet source : String)
  | sameAnnotations (packet other : String)
  | sameStorage (packet other : String)
  | createChecker (checker : String) (transport : Transport) (name : String)
      (settings : List (String × Bool)) (divert : Option String)
  | inspect (checker : String)
  /-- Checks a packet several times without passing it on. -/
  | validate (checker packet : String) (times : Nat)
  /-- Checks a packet and passes it on or disposes of it. -/
  | process (checker packet : String)
  | readHandler (checker handler : String)
  | sinkLength (sink : String)
  | drain (sink target : String)

inductive Reply
  | done
  /-- There is nothing to act on. -/
  | nothing
  | noPacket
  | noChecker
  | noSink
  | notWritable
  | outOfRegion
  /-- A precondition was violated. -/
  | fault
  | allocFailed (cause : AllocError)
  | adjustFailed (cause : AdjustError)
  | markFailed (cause : MarkError)
  | configFailed (cause : ConfigError)
  | statsFailed (cause : StatError)
  | handlerFailed (cause : Checker.HandlerError)
  | unknownPacketType (number : UInt8)
  /-- Whether a packet now lives in another buffer, if that can be told. -/
  | moved (elsewhere : Option Bool)
  | headers (view : Option HeaderView)
  | texts (line tall : String)
  | annotations (a : Annotations)
  | number (n : Int)
  | flag (b : Bool)
  | text (s : String)
  | checker (c : Checker)
  | checked (verdict : Except DropReason Unit) (log : List LogRecord) (c : Checker)
  | processed (forwarded : Bool) (log : List LogRecord) (c : Checker)
  | sinkLength (n : Nat)
  | drained (n : Nat)

/-! ## Effects on one packet -/

/-- The effect of an operation that takes a packet and gives back another one. -/
def Resizing.apply (p : Pool) (h : Handle) (how : Resizing) (env : Environment := .standard) :
    Resized :=
  match how with
  | uniqueify => p.uniqueify h env
  | push n => p.push h n env
  | put n => p.put h n env
  | pushShared n => p.pushShared h n env
  | putShared n => p.putShared h n env
  | encapsulate => p.encapsulate h env
  | flipBit offset bit => p.flipBit h offset bit env
  | overwrite position bytes => p.overwrite h position bytes env

/-- The frame after an adjustment, in a buffer of `limit` bytes, or the reply that refuses it. -/
def Adjustment.apply (f : Frame) (limit : Nat) : Adjustment → Except Reply Frame
  | pull n => (f.pull n).mapError .adjustFailed
  | take n => (f.take n).mapError .adjustFailed
  | reposition headroom length => (f.reposition limit headroom length).mapError .adjustFailed
  | markHeader offset length => (f.markHeader offset length).mapError .markFailed
  | clearMarks => .ok f.clearMarks

/-- Changes the user area of a handle; an access outside it is a fault. -/
def Handle.setUser (h : Handle) : Option UserArea → Except Reply Handle
  | some user => .ok { h with annotations.block.user := user }
  | none => .error .fault

/-- The handle with changed annotations, or the reply that refuses the change. -/
def Annotating.apply (h : Handle) : Annotating → Except Reply Handle
  | setByte i v => h.setUser (h.annotations.block.user.setByte? i v)
  | setWord i v => h.setUser (h.annotations.block.user.setWord? i v)
  | setInt i v => h.setUser (h.annotations.block.user.setInt? i v)
  | setCounter v => .ok { h with annotations.block.counter := v }
  | setDestination d => .ok { h with annotations.block.destination := d }
  | setPacketType number =>
    match PacketType.ofNumber? number with
    | some t => .ok { h with annotations.packetType := t }
    | none => .error (.unknownPacketType number)
  | setTimestamp t => .ok { h with annotations.timestamp := t }
  | setDevice d => .ok { h with annotations.device := d }
  | clear => .ok h.clearAnnotations

/-- The answer to a read of the user area; an access outside it is a fault. -/
def Reply.ofRead : Option Int → Reply
  | some n => .number n
  | none => .fault

/-- The answer to a question about a packet. -/
def Inquiry.answer (p : Pool) (h : Handle) : Inquiry → Reply
  | presence => .done
  | describe => .texts (p.describe h) (p.describeTall h)
  | headers => .headers (p.observeHeader h)
  | annotations => .annotations h.annotations
  | byte i => .ofRead ((h.annotations.block.user.byte? i).map fun v => (v.toNat : Int))
  | word i => .ofRead ((h.annotations.block.user.word? i).map fun v => (v.toNat : Int))
  | int i => .ofRead ((h.annotations.block.user.int? i).map (·.toInt))

end PacketPath
