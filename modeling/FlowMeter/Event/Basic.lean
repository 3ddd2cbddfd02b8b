import FlowMeter.Address.Basic
import FlowMeter.Event.Code
import FlowMeter.Fault

/-!
# Capture events

What the capture program reports: a header, and for traffic a packet with its payload. Only an event
of the data kind carries its packet; a packet on any other event does not count. A buffer is refused where
it is too short for a header, and a frame where the bytes that it announces are not there; what else is odd
about a buffer is noted and does not stop the reading.
-/

namespace FlowMeter

/-- What every event tells: its kind, the process and socket, the time in nanoseconds, and both ends
of the connection, the source being the local one. -/
structure Header where
  kind : EventKind := .none
  pid : UInt32 := 0
  socketHash : UInt32 := 0
  time : UInt64 := 0
  source : Address := .zero4
  destination : Address := .zero4
  sourcePort : UInt16 := 0
  destinationPort : UInt16 := 0
deriving DecidableEq, Repr

/-- A captured packet. Its payload may be cut short; `realLength` is the length before that. -/
structure Packet where
  direction : Direction
  protocol : Protocol
  message : MessageKind
  realLength : UInt32
  payload : Bytes
deriving DecidableEq, Repr

/-- An event. -/
structure Event where
  header : Header
  packet : Option Packet
deriving DecidableEq, Repr

namespace Event

/-- An event without a packet. -/
def ofHeader (header : Header) : Event := ⟨header, none⟩

/-- A data event. -/
def ofPacket (header : Header) (packet : Packet) : Event :=
  ⟨{ header with kind := .data }, some packet⟩

/-- The packet that an event carries. -/
def carried (event : Event) : Option Packet :=
  if event.header.kind = .data then event.packet else none

/-- Whether an event carries a packet. -/
def isData (event : Event) : Bool :=
  event.carried.isSome

/-- The event without a packet that does not count. -/
def normal (event : Event) : Event :=
  { event with packet := event.carried }

/-- Without the packet that does not count, an event carries what it did. -/
theorem carried_normal (event : Event) : event.normal.carried = event.carried := by
  simp only [normal, carried]
  split <;> simp_all

/-- Why a buffer or a frame is refused. -/
inductive Refusal where
  | tooShort (length needed : Nat)
  | frameLength (announced available : Nat)
  | fault (cause : Fault)
deriving DecidableEq, Repr

/-- The message of a refusal. -/
def Refusal.message : Refusal → String
  | .tooShort length needed =>
    "buffer too short: " ++ toString length ++ " bytes, needs at least " ++ toString needed
  | .frameLength announced available =>
    "frame length " ++ toString announced ++ " does not match " ++ toString available ++
      " available bytes"
  | .fault cause => cause.message

/-- What is noted while a buffer is read. -/
inductive Notice where
  | clamped (declared present : Nat)
  | headerOnly (length : Nat)
  | dropped (refusal : Refusal)
deriving DecidableEq, Repr

/-- The message of a notice. -/
def Notice.message : Notice → String
  | .clamped declared present =>
    "packet event declares " ++ toString declared ++ " payload bytes but only " ++
      toString present ++ " present, clamped"
  | .headerOnly length =>
    "data event of " ++ toString length ++
      " bytes has no complete data section, header only"
  | .dropped refusal => "drop capture buffer: " ++ refusal.message

end Event

end FlowMeter
