import FlowMeter.Event.Frame
import FlowMeter.Flow.Table
import FlowMeter.Record
import FlowMeter.Settings.Basic

/-!
# The meter

A meter turns capture buffers into flow statistics, and these at intervals into records. It counts what
became of the buffers. Its owner feeds it and flushes it; a stream of frames may be fed in pieces, as
long as the rest that a piece leaves is put in front of the next one. A counter is read as a name, a kind
and a value, written as a decimal number; a number with places has the fewest digits that read back and no
mark where it is whole.
-/

namespace FlowMeter

/-- What a counter measures: events since it was last read, or a level. -/
inductive CounterKind where
  | counted
  | gauged
deriving DecidableEq, Repr

/-- The name of a kind of counter. -/
def CounterKind.name : CounterKind → String
  | .counted => "Counted"
  | .gauged => "Gauged"

/-- The value of a counter. -/
inductive CounterValue where
  | signed (value : Int64)
  | unsigned (value : UInt64)
  | float (value : Decimal.Binary64)
deriving DecidableEq, Repr

namespace CounterValue

/-- Values have no mark where they are whole. -/
def numberFormat : Decimal.NumberFormat := ⟨""⟩

/-- The text of a value. -/
def text : CounterValue → String
  | .signed value => toString value.toInt
  | .unsigned value => toString value
  | .float value => value.render numberFormat

end CounterValue

/-- A counter. -/
structure Counter where
  name : String
  kind : CounterKind
  value : CounterValue
deriving DecidableEq, Repr

/-- The counters of a meter, which wrap around. -/
structure MeterCounters where
  decoded : UInt64 := 0
  dropped : UInt64 := 0
  ignored : UInt64 := 0
  flushed : UInt64 := 0
deriving DecidableEq, Repr

/-- The counters for a reader. -/
def MeterCounters.list (counters : MeterCounters) : List Counter :=
  [⟨"decoded", .counted, .unsigned counters.decoded⟩,
    ⟨"dropped", .counted, .unsigned counters.dropped⟩,
    ⟨"ignored", .counted, .unsigned counters.ignored⟩,
    ⟨"flushed", .counted, .unsigned counters.flushed⟩]

/-- A meter. -/
structure Meter where
  aggregation : Aggregation
  withLocalPort : Bool
  flushInterval : Duration
  table : FlowTable aggregation
  counters : MeterCounters
deriving Repr

namespace Meter

/-- A new meter. -/
def ofSettings (settings : Settings) : Meter where
  aggregation := settings.aggregation
  withLocalPort := settings.withLocalPort
  flushInterval := settings.flushInterval
  table := .empty
  counters := {}

/-- The number of flows. -/
def size (meter : Meter) : Nat :=
  meter.table.size

/-- Whether there are no flows. -/
def isEmpty (meter : Meter) : Bool :=
  meter.table.isEmpty

/-- The counters of the flow of a key. -/
def get? (meter : Meter) (key : FlowKey) : Option FlowStats :=
  meter.table.get? key

/-- The packet of an event that is accounted: a packet with a direction. -/
def accounted (event : Event) : Option Packet :=
  event.carried.filter (·.direction ≠ .none)

/-- Whether a packet asks or answers: as it says itself, or else as its ports suggest. -/
def messageOf (header : Header) (packet : Packet) : MessageKind :=
  if packet.message = .none then
    inferMessage packet.direction header.sourcePort header.destinationPort
  else packet.message

/-- The key under which a packet is accounted. -/
def keyOf (header : Header) (packet : Packet) : FlowKey :=
  FlowKey.ofHeader header (inferRole packet.direction (messageOf header packet)) .inet

/-- Counts a packet in the counters of its flow. -/
def countPacket (packet : Packet) (stats : FlowStats) : Except Fault FlowStats := do
  (← stats.onPacket packet.direction packet.realLength.toUInt64).onProtocol packet.protocol

/-- Changes the counters of the flow of a key. -/
def alter (meter : Meter) (key : FlowKey) (change : FlowStats → Except Fault FlowStats) :
    Except Fault Meter :=
  (meter.table.alter key change).map fun table => { meter with table }

/-- Accounts an event; one without a packet that has a direction is ignored. -/
def onEvent (meter : Meter) (event : Event) : Except Fault Meter :=
  match accounted event with
  | some packet => meter.alter (keyOf event.header packet) (countPacket packet)
  | none =>
    .ok { meter with counters.ignored := meter.counters.ignored + 1 }

/-- Reads a buffer and accounts its event. Tells whether the buffer was accepted. -/
def onBuffer (meter : Meter) (buffer : Bytes) : Except Fault (Bool × Meter) :=
  match Event.consume buffer with
  | .ok (some event, _) =>
    (onEvent { meter with counters.decoded := meter.counters.decoded + 1 } event).map (true, ·)
  | .ok (none, _) =>
    .ok (false, { meter with counters.dropped := meter.counters.dropped + 1 })
  | .error fault => .error fault

/-- Accounts the complete frames at the front of a stream. Gives the number of bytes consumed. -/
def onFrames (meter : Meter) (stream : Bytes) : Except Fault (Nat × Meter) := do
  let (bodies, rest) := Frame.split stream
  let meter ← bodies.foldlM (fun meter body => (meter.onBuffer body).map (·.2)) meter
  return (stream.length - rest.length, meter)

/-- Adds a latency to the flow of a key. -/
def addLatency (meter : Meter) (key : FlowKey) (direction : Direction) (nanos : UInt64) :
    Except Fault Meter :=
  meter.alter key (·.addLatency direction nanos)

/-- Reads the counters and sets them back. -/
def pollCounters (meter : Meter) : List Counter × Meter :=
  (meter.counters.list, { meter with counters := {} })

/-- Reports every flow as a record and empties the table. -/
def flush (meter : Meter) (resolver : Resolver) : List Record × Meter :=
  let (entries, table) := meter.table.drain
  let records := entries.map fun (key, stats) =>
    Record.empty.addFlow key stats meter.withLocalPort resolver
  let flushed := meter.counters.flushed + records.length.toUInt64
  (records, { meter with table, counters := { meter.counters with flushed } })

/-- What is noted while frames are read. -/
def frameNotices (stream : Bytes) : List Event.Notice :=
  (Frame.split stream).1.flatMap Event.notices

/-- What is noted of a flush. -/
def flushNotice (meter : Meter) (records : List Record) : String :=
  "flushed " ++ toString records.length ++ " flow records, aggregation " ++ meter.aggregation.name

end Meter

end FlowMeter
