import PacketPath.Proofs.DeepCopy.Owned
import PacketPath.Session.Basic

set_option autoImplicit false

/-! # Two machines for packet commands

The commands on packets are executed by a session, which shares buffers, and by a table of packets
that own their buffers. Both are watched in the same way: after each command, its result and all
that can be read of every packet are put on record. Left out of the record is what tells how
buffers are shared: whether a packet is shared, how many handles are on its buffer, and whether an
operation has moved it to another one.
-/

namespace PacketPath

/-- The length of the region that a source imports, if it is one. -/
def Source.importedLength : Source → Nat
  | region _ bytes => bytes.length
  | _ => 0

/-- A command on packets. -/
inductive PacketCommand
  | make (target : String) (source : Source)
  | clone (packet target : String)
  | toShared (packet : String)
  | kill (packet : String)
  | resize (packet : String) (how : Resizing)
  | write (packet : String) (region : Region) (position : Nat) (bytes : Bytes)
  | adjust (packet : String) (how : Adjustment)
  | annotate (packet : String) (how : Annotating)
  | copyAnnotations (packet source : String)

namespace PacketCommand

def toCommand : PacketCommand → Command
  | make target source => .make target source
  | clone packet target => .clone packet target
  | toShared packet => .toShared packet
  | kill packet => .kill packet
  | resize packet how => .resize packet how
  | write packet region position bytes => .write packet region position bytes
  | adjust packet how => .adjust packet how
  | annotate packet how => .annotate packet how
  | copyAnnotations packet source => .copyAnnotations packet source

/-- The length of the region that a command imports, if it imports one. -/
def importedLength : PacketCommand → Nat
  | make _ source => source.importedLength
  | _ => 0

end PacketCommand

/-! ## The record -/

/-- A reply without what it tells about the place of a buffer. -/
def Reply.result : Reply → Reply
  | moved _ => done
  | reply => reply

/-- A view of a packet that seems to be alone. -/
def PacketView.unshared (v : PacketView) : PacketView := { v with shared := false, uses := 1 }

/-- All that can be read of a packet, apart from how it is shared. -/
structure Sight where
  view : PacketView
  annotations : Annotations

/-- What is on record of a step: the result, and the sight of each live packet. -/
structure Observed where
  result : Reply
  sights : String → Option Sight

/-! ## Packets that share buffers -/

namespace Session

def sight (s : Session) (name : String) : Option Sight :=
  (s.packets.find? name).map fun h => ⟨(s.pool.observe h).unshared, h.annotations⟩

/-- The record of a run. -/
def trace (s : Session) : List PacketCommand → List Observed
  | [] => []
  | c :: rest =>
    let next := s.step c.toCommand
    ⟨next.2.result, next.1.sight⟩ :: next.1.trace rest

end Session

/-! ## Packets that own their buffers -/

/-- Packets by name, each with a buffer of its own. -/
abbrev OwnedPackets := Registry String Owned

namespace OwnedPackets

variable (m : OwnedPackets)

/-- Acts on the packet under a name. -/
def withPacket (name : String) (act : Owned → OwnedPackets × Reply) : OwnedPackets × Reply :=
  match m.find? name with
  | some o => act o
  | none => (m, .noPacket)

def make (target : String) (source : Source) : OwnedPackets × Reply :=
  match Owned.make source with
  | .ok o => (m.insert target o, .done)
  | .error (.alloc e) => (m, .allocFailed e)
  | .error .fault => (m, .fault)

/-- Copies a packet with all its bytes. Neither may be written to after that. -/
def clone (packet target : String) : OwnedPackets × Reply :=
  m.withPacket packet fun o =>
    ((m.insert packet (o.setWritable false)).insert target (o.setWritable false), .done)

def resize (packet : String) (how : Resizing) : OwnedPackets × Reply :=
  m.withPacket packet fun o =>
    match o.resize how with
    | .ok o => (m.insert packet o, .done)
    | .error (.alloc e) => (m.erase packet, .allocFailed e)
    | .error .fault => (m.erase packet, .fault)

def write (packet : String) (region : Region) (position : Nat) (bytes : Bytes) : OwnedPackets × Reply :=
  m.withPacket packet fun o =>
    match o.write region position bytes with
    | .ok o => (m.insert packet o, .done)
    | .error .notWritable => (m, .notWritable)
    | .error .noHeader => (m, .nothing)
    | .error .outOfRegion => (m, .outOfRegion)
    | .error .fault => (m, .fault)

def adjust (packet : String) (how : Adjustment) : OwnedPackets × Reply :=
  m.withPacket packet fun o =>
    match o.adjust how with
    | .ok o => (m.insert packet o, .done)
    | .error reply => (m, reply)

def annotate (packet : String) (how : Annotating) : OwnedPackets × Reply :=
  m.withPacket packet fun o =>
    match o.annotate how with
    | .ok o => (m.insert packet o, .annotations o.annotations)
    | .error reply => (m, reply)

def copyAnnotations (packet source : String) : OwnedPackets × Reply :=
  m.withPacket packet fun o =>
    m.withPacket source fun other =>
      (m.insert packet { o with annotations := other.annotations }, .done)

/-- Executes one command. -/
def step : PacketCommand → OwnedPackets × Reply
  | .make target source => m.make target source
  | .clone packet target => m.clone packet target
  | .toShared packet =>
    m.withPacket packet fun o => (m.insert packet (o.setWritable false), .done)
  | .kill packet => m.withPacket packet fun _ => (m.erase packet, .done)
  | .resize packet how => m.resize packet how
  | .write packet region position bytes => m.write packet region position bytes
  | .adjust packet how => m.adjust packet how
  | .annotate packet how => m.annotate packet how
  | .copyAnnotations packet source => m.copyAnnotations packet source

def sight (name : String) : Option Sight := (m.find? name).map fun o => ⟨o.view, o.annotations⟩

end OwnedPackets

/-- The record of a run. -/
def OwnedPackets.trace (m : OwnedPackets) : List PacketCommand → List Observed
  | [] => []
  | c :: rest =>
    let next := m.step c
    ⟨next.2.result, next.1.sight⟩ :: next.1.trace rest

end PacketPath
