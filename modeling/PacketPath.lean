import PacketPath.Json.Codec
import PacketPath.Packet.Pool.Lemmas
import PacketPath.Session.Basic
import PacketPath.Proofs.Bytes
import PacketPath.Proofs.Pool.Sound
import PacketPath.Proofs.Pool.Resizing
import PacketPath.Proofs.Pool.Making
import PacketPath.Proofs.Pool.Evolution
import PacketPath.Proofs.Pool.Ledger
import PacketPath.Proofs.Session.Sound
import PacketPath.Proofs.Session.Places
import PacketPath.Proofs.Session.History
import PacketPath.Proofs.Session.Ownership
import PacketPath.Proofs.Session.Releases
import PacketPath.Proofs.DeepCopy.Machine
import PacketPath.Proofs.DeepCopy.Handles
import PacketPath.Proofs.DeepCopy.Refinement
import PacketPath.Proofs.Checksum.Accumulator
import PacketPath.Proofs.Checksum.NetworkOrder
import PacketPath.Proofs.Check.Guarded
import PacketPath.Proofs.Check.Verdict
import PacketPath.Proofs.Packet.Guarded
import PacketPath.Proofs.Session.Contained
import PacketPath.Proofs.Check.Docket
import PacketPath.Proofs.Check.Events
import PacketPath.Proofs.Session.Accounting
import PacketPath.Proofs.Checksum.BitErrors
import PacketPath.Proofs.Checksum.Incremental
import PacketPath.Proofs.Checksum.PartialSums
import PacketPath.Proofs.Check.BitErrors
import PacketPath.Proofs.Check.Datagram
import PacketPath.Proofs.Check.Truncation
import PacketPath.Proofs.Check.Placement
import PacketPath.Proofs.Session.Queues
import PacketPath.Proofs.DeepCopy.Standing
import PacketPath.Proofs.DeepCopy.Widened
import PacketPath.Proofs.Session.Conservation
import PacketPath.Proofs.Session.Marks
import PacketPath.Proofs.Session.Resizing
import PacketPath.Proofs.Session.Pushing
import PacketPath.Proofs.Session.Putting
import PacketPath.Proofs.Session.Uniqueifying
import PacketPath.Proofs.Session.Sides
import PacketPath.Proofs.Session.RoomLaws
import PacketPath.Proofs.Session.Writing
import PacketPath.Proofs.Session.Refusing
import PacketPath.Proofs.Session.Adjusting
import PacketPath.Proofs.Check.RoundTrip
import PacketPath.Proofs.Session.Making
import PacketPath.Proofs.Json.Written
import PacketPath.Proofs.Json.Reading
import PacketPath.Proofs.Json.Records
import PacketPath.Proofs.Check.Settings
import PacketPath.Proofs.Json.RoundTrip
import PacketPath.Proofs.Annotation.UserArea
import PacketPath.Proofs.Session.UserMemory
import PacketPath.Proofs.Session.Descent
import PacketPath.Proofs.Session.Lives
import PacketPath.Proofs.Annotation.Timestamp
import PacketPath.Proofs.Checksum.Folding
import PacketPath.Proofs.Check.Handlers
import PacketPath.Proofs.Stats
