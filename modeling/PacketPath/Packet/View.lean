import PacketPath.Packet.Pool

set_option autoImplicit false

/-! # Observing packets

Everything that can be read through a handle, as one record, and its text for people: on one line,
or with a line for each field.
-/

namespace PacketPath

/-- What can be read about marked headers. -/
structure HeaderView where
  networkOffset : Int
  networkLength : Nat
  transportOffset : Int
  network : Bytes
  transport : Bytes
deriving DecidableEq

/-- What can be read through a handle, annotations apart. -/
structure PacketView where
  writable : Bool
  headroom : Nat
  length : Nat
  tailroom : Nat
  bufferLength : Nat
  shared : Bool
  uses : Nat
  data : Bytes
  buffer : Bytes
  header : Option HeaderView
deriving DecidableEq

namespace Pool

/-- What can be read about the headers of a packet, if they are marked. -/
def observeHeader (p : Pool) (h : Handle) : Option HeaderView := do
  let networkOffset ← h.frame.networkOffset
  let networkLength ← h.frame.networkLength
  let transportOffset ← h.frame.transportOffset
  let network ← p.view? h .network
  let transport ← p.view? h .transport
  return ⟨networkOffset, networkLength, transportOffset, network, transport⟩

/-- What can be read through a handle. -/
def observe (p : Pool) (h : Handle) : PacketView where
  writable := h.writable
  headroom := h.frame.start
  length := h.frame.length
  tailroom := p.tailroom h
  bufferLength := p.limit h
  shared := p.shared h
  uses := p.uses h.buffer
  data := (p.view? h .data).getD []
  buffer := p.bytes h.buffer
  header := p.observeHeader h

/-- The bytes that a checker looks at: from the network mark and from the transport mark to the end
of the data. -/
def headerViews (p : Pool) (h : Handle) : Option (Bytes × Bytes) :=
  match p.view? h .network, p.view? h .transport with
  | some network, some transport => some (network, transport)
  | _, _ => none

/-! ## Text -/

/-- The fields that are shown, with their values. -/
def shownFields (p : Pool) (h : Handle) (offset : Option Int → String) : List (String × String) :=
  [("headroom", h.frame.start.repr),
   ("length", h.frame.length.repr),
   ("tailroom", (p.tailroom h).repr),
   ("shared", if p.shared h then "true" else "false"),
   ("network_header_offset", offset h.frame.networkOffset),
   ("transport_header_offset", offset h.frame.transportOffset),
   ("pkt_type", h.annotations.packetType.name)]

/-- A packet on one line. -/
def describe (p : Pool) (h : Handle) : String :=
  let offset : Option Int → String
    | some n => "Some(" ++ Text.decimal n ++ ")"
    | none => "None"
  let fields := (p.shownFields h offset).map fun (name, value) => name ++ ": " ++ value ++ ", "
  "Packet \x7b " ++ String.join fields ++ ".. \x7d"

/-- A packet with a line for each field. -/
def describeTall (p : Pool) (h : Handle) : String :=
  let offset : Option Int → String
    | some n => "Some(\n        " ++ Text.decimal n ++ ",\n    )"
    | none => "None"
  let fields := (p.shownFields h offset).map fun (name, value) =>
    "    " ++ name ++ ": " ++ value ++ ",\n"
  "Packet \x7b\n" ++ String.join fields ++ "    ..\n\x7d"

end Pool

end PacketPath
