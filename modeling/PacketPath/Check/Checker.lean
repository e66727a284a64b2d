import PacketPath.Check.Config
import PacketPath.Check.Transport
import PacketPath.Log
import PacketPath.Stats
import PacketPath.Text.Decimal

set_option autoImplicit false

/-! # Checkers

A checker is a pipeline element that checks the transport header of every packet and counts the
outcomes. It never changes a packet. Packets that pass go on; packets that fail go to a second
output, if one is attached. The first failure is logged, and every further one if the options say
so.
-/

namespace PacketPath

structure Checker where
  name : String
  transport : Transport
  config : CheckConfig
  /-- How many packets passed, and how many failed. -/
  stats : StatGroup 2
  /-- How many packets failed for each reason, if that is counted. -/
  reasons : Option (StatGroup 3)
  /-- The sink that receives the packets that fail. -/
  divert : Option String
deriving DecidableEq

namespace Checker

/-- The text that reports that a checker could not be made. -/
def creationMessage (e : StatError) : String := "failed to register stats: " ++ e.message

/-- A checker that has seen no packet. -/
def create (transport : Transport) (name : String) (config : CheckConfig)
    (divert : Option String) : Except StatError Checker := do
  let stats ← StatGroup.register "pktcheck" name #v["count", "drops"]
  let reasons ←
    if config.details then do
      let group ← StatGroup.register "pktcheck_reasons" name
        #v["not_proto", "bad_length", "bad_checksum"]
      pure (some group)
    else pure none
  return ⟨name, transport, config, stats, reasons, divert⟩

/-- The number of packets that passed. -/
def count (c : Checker) : UInt64 := c.stats.value 0

/-- The number of packets that failed. -/
def drops (c : Checker) : UInt64 := c.stats.value 1

/-- The number of packets that failed for a reason, if that is counted. -/
def reasonCount (c : Checker) (reason : DropReason) : Option UInt64 :=
  c.reasons.map (·.value reason.index)

def reasonText (c : Checker) (reason : DropReason) : String := c.transport.reasonText reason

/-- The number of outputs in use. -/
def outputs (c : Checker) : Nat := if c.divert.isSome then 2 else 1

/-! ## Checking packets -/

/-- What is logged about a packet that fails. -/
def dropMessage (c : Checker) (reason : DropReason) : LogRecord :=
  ⟨.warn, c.name ++ ": " ++ c.transport.protocol.describe ++ " header check failed: "
    ++ c.reasonText reason⟩

/-- Counts a packet that passed. -/
def recordPass (c : Checker) : Checker := { c with stats := (c.stats.increment 0 1).2 }

/-- Counts a packet that failed, and gives what is logged about it. -/
def recordDrop (c : Checker) (reason : DropReason) : Checker × Option LogRecord :=
  let (before, stats) := c.stats.increment 1 1
  let logged := if before = 0 || c.config.verbose then some (c.dropMessage reason) else none
  ({ c with
      stats := stats
      reasons := c.reasons.map fun group => (group.increment reason.index 1).2 }, logged)

/-- The outcome of one check. -/
structure Checked where
  checker : Checker
  verdict : Except DropReason Unit
  logged : Option LogRecord

/-- Checks a packet, given by its bytes from the network mark and from the transport mark on. -/
def validate (c : Checker) (views : Option (Bytes × Bytes)) : Checked :=
  match c.transport.classify c.config.checksum views with
  | .ok () => ⟨c.recordPass, .ok (), none⟩
  | .error reason =>
    let (checker, logged) := c.recordDrop reason
    ⟨checker, .error reason, logged⟩

/-- The outcome of several checks of one packet. -/
structure Run where
  checker : Checker
  /-- The outcome of the last check. -/
  verdict : Except DropReason Unit
  log : List LogRecord

/-- Checks a packet once, and then `again` times more. -/
def validateTimes (c : Checker) (views : Option (Bytes × Bytes)) : Nat → Run
  | 0 =>
    let checked := c.validate views
    ⟨checked.checker, checked.verdict, checked.logged.toList⟩
  | again + 1 =>
    let before := c.validateTimes views again
    let checked := before.checker.validate views
    ⟨checked.checker, checked.verdict, before.log ++ checked.logged.toList⟩

/-! ## Read handlers -/

/-- A line of the table of drops: the count in fifteen columns, the reason in twenty-four. -/
def detailLine (count : UInt64) (text : String) : String :=
  Text.padLeft 15 ' ' count.toNat.repr ++ " packets due to: " ++ Text.padLeft 24 ' ' text ++ "\n"

/-- The table of drops per reason, if these are counted. -/
def dropDetails (c : Checker) : Option String :=
  c.reasons.map fun group =>
    String.join (DropReason.all.map fun r => detailLine (group.value r.index) (c.reasonText r))

/-- The names of the read handlers. -/
def handlers (c : Checker) : List String :=
  if c.reasons.isSome then ["count", "drops", "drop_details"] else ["count", "drops"]

/-- Why a handler cannot be read. -/
inductive HandlerError
  | unknownHandler (name : String)
deriving DecidableEq

def HandlerError.message : HandlerError → String
  | unknownHandler name => "no handler named " ++ name

def readHandler (c : Checker) (name : String) : Except HandlerError String :=
  if name = "count" then .ok c.count.toNat.repr
  else if name = "drops" then .ok c.drops.toNat.repr
  else if name = "drop_details" then
    match c.dropDetails with
    | some text => .ok text
    | none => .error (.unknownHandler name)
  else .error (.unknownHandler name)

end Checker

end PacketPath
