import PacketPath.Annotation.Basic
import PacketPath.Check.Config
import PacketPath.Header.Protocol
import PacketPath.Json.Standard

set_option autoImplicit false

/-! # Types with a document form

Protocols, packet types, timestamps, devices and checker options are written into documents and read
back by means of a library. All that is known of their documents is declared here. A protocol number
without a name is an alternative with a value. Timestamps need both of their fields and take no notice
of others; options are spelled in upper case, have defaults, and no others are accepted.
-/

namespace PacketPath

open Json

namespace Json.Declaration

variable {α : Type}

/-- The document of a value. -/
def toJson (d : Declaration α) (a : α) (lib : Library := .standard) : String :=
  lib.write d.schema (d.toValue a)

/-- The value of a document. -/
def ofJson (d : Declaration α) (text : String) (lib : Library := .standard) : Except Failure α :=
  match lib.read d.schema text with
  | .ok value =>
    match d.ofValue? value with
    | some a => .ok a
    | none => .error .malformed
  | .error e => .error e

theorem ofJson_of_ok {d : Declaration α} {lib : Library} {text : String} {value : Value} {a : α}
    (hread : lib.read d.schema text = .ok value) (hvalue : d.ofValue? value = some a) :
    d.ofJson text lib = .ok a := by
  simp only [ofJson, hread, hvalue]

theorem ofJson_of_error {d : Declaration α} {lib : Library} {text : String} {e : Failure}
    (hread : lib.read d.schema text = .error e) : d.ofJson text lib = .error e := by
  simp only [ofJson, hread]

end Json.Declaration

def Protocol.declaration : Declaration Protocol where
  schema := .alternatives [("ICMP", none), ("TCP", none), ("UDP", none),
    ("Unknown", some (.integer .unsigned8))]
  toValue
    | .icmp => .alternative "ICMP" none
    | .tcp => .alternative "TCP" none
    | .udp => .alternative "UDP" none
    | .unknown n => .alternative "Unknown" (some (.integer n.toNat))
  ofValue?
    | .alternative "ICMP" none => some .icmp
    | .alternative "TCP" none => some .tcp
    | .alternative "UDP" none => some .udp
    | .alternative "Unknown" (some (.integer n)) => some (.unknown (UInt8.ofNat n.toNat))
    | _ => none

def PacketType.declaration : Declaration PacketType where
  schema := .alternatives (PacketType.all.map fun t => (t.name, none))
  toValue t := .alternative t.name none
  ofValue?
    | .alternative name none => PacketType.all.find? (·.name = name)
    | _ => none

/-- The values of the fields, in order of declaration. -/
def Timestamp.values (t : Timestamp) : List Datum :=
  [.integer t.secs.toInt, .integer t.usecs.toInt]

def Timestamp.recordType : RecordType where
  name := "Timestamp"
  fields := [{ name := "secs", type := .integer .signed64 },
    { name := "usecs", type := .integer .signed32 }]

def Timestamp.declaration : Declaration Timestamp where
  schema := .record recordType
  toValue t := .record t.values
  ofValue?
    | .record [.integer secs, .integer usecs] => some ⟨Int64.ofInt secs, Int32.ofInt usecs⟩
    | _ => none

def DeviceId.declaration : Declaration DeviceId where
  schema := .wrapper (.integer .unsigned32)
  toValue d := .scalar (.integer d.number.toNat)
  ofValue?
    | .scalar (.integer n) => some ⟨UInt32.ofNat n.toNat⟩
    | _ => none

def CheckConfig.recordType : RecordType :=
  let default : CheckConfig := {}
  { name := "CheckCfg"
    fields := [{ name := "verbose", type := .boolean, default := some (.boolean default.verbose) },
      { name := "details", type := .boolean, default := some (.boolean default.details) },
      { name := "checksum", type := .boolean, default := some (.boolean default.checksum) }]
    upperCase := true
    closed := true }

/-- The values of the options, in order of declaration. -/
def CheckConfig.values (c : CheckConfig) : List Datum :=
  [.boolean c.verbose, .boolean c.details, .boolean c.checksum]

def CheckConfig.declaration : Declaration CheckConfig where
  schema := .record recordType
  toValue c := .record c.values
  ofValue?
    | .record [.boolean verbose, .boolean details, .boolean checksum] =>
      some ⟨verbose, details, checksum⟩
    | _ => none

end PacketPath
