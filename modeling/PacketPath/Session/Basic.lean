import PacketPath.Session.Command

set_option autoImplicit false

/-! # Sessions

A session holds packets, checkers and sinks by name, over one pool of buffers. A step executes one
command. Every handle on a buffer is in exactly one place, under a name or in a sink, and leaves
that place only by being released, moved to another place, or consumed by the command. Only making
packets and resizing them depends on the environment.
-/

namespace PacketPath

structure Session where
  pool : Pool := {}
  packets : Registry String Handle := .empty
  checkers : Registry String Checker := .empty
  /-- The packets queued in each sink, oldest first. -/
  sinks : Registry String (List Handle) := .empty

namespace Session

instance : Inhabited Session := ⟨{}⟩

/-! ## Packets by name -/

/-- Stores a packet under a name. A packet that was there is released. -/
def store (s : Session) (name : String) (h : Handle) : Session :=
  let pool := match s.packets.find? name with
    | some old => s.pool.release old.buffer
    | none => s.pool
  { s with pool := pool, packets := s.packets.insert name h }

/-- Stores what has become of the packet under a name. -/
def update (s : Session) (name : String) (h : Handle) : Session :=
  { s with packets := s.packets.insert name h }

/-- Takes a packet from its name without releasing it. -/
def remove (s : Session) (name : String) : Session :=
  { s with packets := s.packets.erase name }

/-- Releases the packet under a name. -/
def drop (s : Session) (name : String) (h : Handle) : Session :=
  { s.remove name with pool := s.pool.release h.buffer }

/-- Acts on the packet under a name. -/
def withPacket (s : Session) (name : String) (act : Handle → Session × Reply) : Session × Reply :=
  match s.packets.find? name with
  | some h => act h
  | none => (s, .noPacket)

/-- Acts on the checker under a name. -/
def withChecker (s : Session) (name : String) (act : Checker → Session × Reply) :
    Session × Reply :=
  match s.checkers.find? name with
  | some c => act c
  | none => (s, .noChecker)

/-- Acts on the sink under a name. -/
def withSink (s : Session) (name : String) (act : List Handle → Session × Reply) :
    Session × Reply :=
  match s.sinks.find? name with
  | some queue => act queue
  | none => (s, .noSink)

/-! ## Commands on packets -/

def make (s : Session) (target : String) (source : Source) (env : Environment := .standard) :
    Session × Reply :=
  match s.pool.make source env with
  | .ok (pool, h) => ({ s with pool := pool }.store target h, .done)
  | .error (.alloc e) => (s, .allocFailed e)
  | .error .fault => (s, .fault)

/-- Clones a packet, which becomes a shared one. -/
def clone (s : Session) (packet target : String) : Session × Reply :=
  s.withPacket packet fun h =>
    let (pool, other) := s.pool.clone h
    (({ s with pool := pool }.update packet h.toShared).store target other, .done)

/-- Whether a packet lives in another buffer than before; a buffer without bytes does not tell. -/
def movedElsewhere (s : Session) (before after : Handle) : Option Bool :=
  if s.pool.limit before = 0 then none else some (before.buffer != after.buffer)

/-- Resizes a packet. If that fails it is gone. -/
def resize (s : Session) (packet : String) (how : Resizing) (env : Environment := .standard) :
    Session × Reply :=
  s.withPacket packet fun h =>
    match how.apply s.pool h env with
    | (pool, .ok after) =>
      ({ s with pool := pool }.update packet after, .moved (s.movedElsewhere h after))
    | (pool, .error (.alloc e)) => ({ s with pool := pool }.remove packet, .allocFailed e)
    | (pool, .error .fault) => ({ s with pool := pool }.remove packet, .fault)

def write (s : Session) (packet : String) (region : Region) (position : Nat) (bytes : Bytes) :
    Session × Reply :=
  s.withPacket packet fun h =>
    match s.pool.write h region position bytes with
    | .ok pool => ({ s with pool := pool }, .done)
    | .error .notWritable => (s, .notWritable)
    | .error .noHeader => (s, .nothing)
    | .error .outOfRegion => (s, .outOfRegion)
    | .error .fault => (s, .fault)

def adjust (s : Session) (packet : String) (how : Adjustment) : Session × Reply :=
  s.withPacket packet fun h =>
    match how.apply h.frame (s.pool.limit h) with
    | .ok frame => (s.update packet { h with frame := frame }, .done)
    | .error reply => (s, reply)

def annotate (s : Session) (packet : String) (how : Annotating) : Session × Reply :=
  s.withPacket packet fun h =>
    match how.apply h with
    | .ok h => (s.update packet h, .annotations h.annotations)
    | .error reply => (s, reply)

/-- Takes over all annotations of another packet; the header marks stay. -/
def copyAnnotations (s : Session) (packet source : String) : Session × Reply :=
  s.withPacket packet fun h =>
    s.withPacket source fun other =>
      (s.update packet { h with annotations := other.annotations }, .done)

/-- Compares two packets. -/
def compare (s : Session) (packet other : String) (same : Handle → Handle → Bool) :
    Session × Reply :=
  s.withPacket packet fun a => s.withPacket other fun b => (s, .flag (same a b))

/-! ## Commands on checkers and sinks -/

/-- The sinks with an empty one under a name, unless there is one already. -/
def ensureSink (s : Session) : Option String → Session
  | none => s
  | some name =>
    if s.sinks.contains name then s else { s with sinks := s.sinks.insert name [] }

/-- Makes a checker. The sink it diverts to exists afterwards even if its name is refused. -/
def createChecker (s : Session) (checker : String) (transport : Transport) (name : String)
    (settings : List (String × Bool)) (divert : Option String) : Session × Reply :=
  match CheckConfig.ofKeywords settings with
  | .error e => (s, .configFailed e)
  | .ok config =>
    let s := s.ensureSink divert
    match Checker.create transport name config divert with
    | .error e => (s, .statsFailed e)
    | .ok c => ({ s with checkers := s.checkers.insert checker c }, .checker c)

/-- Stores what has become of the checker under a name. -/
def updateChecker (s : Session) (name : String) (c : Checker) : Session :=
  { s with checkers := s.checkers.insert name c }

/-- Checks a packet at least once and leaves it where it is. -/
def validate (s : Session) (checker packet : String) (times : Nat) : Session × Reply :=
  s.withChecker checker fun c =>
    s.withPacket packet fun h =>
      let run := c.validateTimes (s.pool.headerViews h) (times - 1)
      ((s.update packet h.toShared).updateChecker checker run.checker,
        .checked run.verdict run.log run.checker)

/-- Appends a packet to a sink. -/
def enqueue (s : Session) (sink : String) (h : Handle) : Session :=
  { s with sinks := s.sinks.insert sink ((s.sinks.find? sink).getD [] ++ [h]) }

/-- Checks a packet. It stays if it passes; otherwise it goes to the sink of the checker, or is
released if there is none. -/
def process (s : Session) (checker packet : String) : Session × Reply :=
  s.withChecker checker fun c =>
    s.withPacket packet fun h =>
      let run := c.validateTimes (s.pool.headerViews h) 0
      let s := s.updateChecker checker run.checker
      match run.verdict with
      | .ok () => (s.update packet h.toShared, .processed true run.log run.checker)
      | .error _ =>
        let s := match c.divert with
          | some sink => (s.remove packet).enqueue sink h.toShared
          | none => s.drop packet h
        (s, .processed false run.log run.checker)

def readHandler (s : Session) (checker handler : String) : Session × Reply :=
  s.withChecker checker fun c =>
    match c.readHandler handler with
    | .ok text => (s, .text text)
    | .error e => (s, .handlerFailed e)

/-- Stores packets under numbered names, from a number on. -/
def storeAll (s : Session) (target : String) : Nat → List Handle → Session
  | _, [] => s
  | i, h :: rest => (s.store (target ++ i.repr) h).storeAll target (i + 1) rest

/-- Empties a sink, and stores its packets under numbered names. -/
def drain (s : Session) (sink target : String) : Session × Reply :=
  s.withSink sink fun queue =>
    ({ s with sinks := s.sinks.insert sink [] }.storeAll target 0 queue, .drained queue.length)

/-! ## Running -/

/-- Executes one command. -/
def step (s : Session) (c : Command) (env : Environment := .standard) : Session × Reply :=
  match c with
  | .make target source => s.make target source env
  | .clone packet target => s.clone packet target
  | .toShared packet => s.withPacket packet fun h => (s.update packet h.toShared, .done)
  | .kill packet => s.withPacket packet fun h => (s.drop packet h, .done)
  | .resize packet how => s.resize packet how env
  | .write packet region position bytes => s.write packet region position bytes
  | .adjust packet how => s.adjust packet how
  | .annotate packet how => s.annotate packet how
  | .inquire packet what => s.withPacket packet fun h => (s, what.answer s.pool h)
  | .copyAnnotations packet source => s.copyAnnotations packet source
  | .sameAnnotations packet other =>
    s.compare packet other fun a b => a.annotations.block == b.annotations.block
  | .sameStorage packet other => s.compare packet other s.pool.sameStorage
  | .createChecker checker transport name settings divert =>
    s.createChecker checker transport name settings divert
  | .inspect checker => s.withChecker checker fun c => (s, .checker c)
  | .validate checker packet times => s.validate checker packet times
  | .process checker packet => s.process checker packet
  | .readHandler checker handler => s.readHandler checker handler
  | .sinkLength sink => s.withSink sink fun queue => (s, .sinkLength queue.length)
  | .drain sink target => s.drain sink target

/-- The session after some commands, all of them in one environment. Where none is given, memory never
runs out in the whole run. -/
def run (s : Session) (cs : List Command) (env : Environment := .standard) : Session :=
  match cs with
  | [] => s
  | c :: rest => (s.step c env).1.run rest env

/-- The handles on each buffer: those under names, then those in sinks. -/
def handles (s : Session) : List Handle := s.packets.values ++ s.sinks.values.flatten

/-- Ends a session: the packets are released in the order of their names, then those queued in
sinks in the order of the sinks. -/
def close (s : Session) : Session where
  pool := s.handles.foldl (fun pool h => pool.release h.buffer) s.pool

/-- The regions handed back between two states of a session. -/
def releasedSince (after before : Session) : List Release :=
  after.pool.releases.drop before.pool.releases.length

/-! ## Observing -/

/-- What can be read of the packet under a name, if there is one. -/
def view (s : Session) (name : String) : Option PacketView :=
  (s.packets.find? name).map s.pool.observe

/-- How a live packet stands to others: its name, the number of handles on its buffer, whether it
is shared, and whether it is writable. -/
structure Standing where
  name : String
  uses : Nat
  shared : Bool
  writable : Bool
deriving DecidableEq

/-- The standing of every packet, in the order of names. -/
def census (s : Session) : List Standing :=
  s.packets.entries.map fun (name, h) =>
    ⟨name, s.pool.uses h.buffer, s.pool.shared h, h.writable⟩

end Session

end PacketPath
