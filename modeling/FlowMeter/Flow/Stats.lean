import FlowMeter.Flow.Role
import FlowMeter.Fault
import FlowMeter.Json.Value

/-!
# Flow statistics

The counters of a flow. Sending and receiving are seen from the local side. Every sum is checked; a
sum that does not fit is a fault.
-/

namespace FlowMeter

/-- The counters of a flow; latencies are in nanoseconds. -/
structure FlowStats where
  sendBytes : UInt64 := 0
  recvBytes : UInt64 := 0
  sendPackets : UInt64 := 0
  recvPackets : UInt64 := 0
  protocolMatched : UInt64 := 0
  protocolUnmatched : UInt64 := 0
  lastProtocol : Protocol := .none
  sendLatency : UInt64 := 0
  recvLatency : UInt64 := 0
  sendRetransmissions : UInt64 := 0
  recvRetransmissions : UInt64 := 0
  sendZeroWindows : UInt64 := 0
  recvZeroWindows : UInt64 := 0
deriving DecidableEq, Repr

namespace FlowStats

/-- Counters at the start. -/
def zero : FlowStats := {}

/-- Counts a packet that was sent. -/
def onSend (stats : FlowStats) (bytes : UInt64) : Except Fault FlowStats := do
  let sendBytes ← checkedAdd stats.sendBytes bytes
  let sendPackets ← checkedAdd stats.sendPackets 1
  return { stats with sendBytes, sendPackets }

/-- Counts a packet that was received. -/
def onReceive (stats : FlowStats) (bytes : UInt64) : Except Fault FlowStats := do
  let recvBytes ← checkedAdd stats.recvBytes bytes
  let recvPackets ← checkedAdd stats.recvPackets 1
  return { stats with recvBytes, recvPackets }

/-- Counts a packet by its direction; a packet without one is not counted. -/
def onPacket (stats : FlowStats) (direction : Direction) (bytes : UInt64) :
    Except Fault FlowStats :=
  match direction with
  | .outbound => stats.onSend bytes
  | .inbound => stats.onReceive bytes
  | .none => .ok stats

/-- Adds a latency by the direction of its packet; one without a direction is not counted. -/
def addLatency (stats : FlowStats) (direction : Direction) (nanos : UInt64) :
    Except Fault FlowStats :=
  match direction with
  | .outbound =>
    (checkedAdd stats.sendLatency nanos).map fun sendLatency => { stats with sendLatency }
  | .inbound =>
    (checkedAdd stats.recvLatency nanos).map fun recvLatency => { stats with recvLatency }
  | .none => .ok stats

/-- Counts whether a protocol was recognised, and keeps the last one. -/
def onProtocol (stats : FlowStats) (protocol : Protocol) : Except Fault FlowStats :=
  if protocol = .none then
    (checkedAdd stats.protocolUnmatched 1).map fun protocolUnmatched =>
      { stats with protocolUnmatched }
  else
    (checkedAdd stats.protocolMatched 1).map fun protocolMatched =>
      { stats with protocolMatched, lastProtocol := protocol }

/-- The later of two protocols, where none counts as no news. -/
def laterProtocol (first second : Protocol) : Protocol :=
  if second = .none then first else second

/-- Adds the counters of another part of the same flow. -/
def merge (stats other : FlowStats) : Except Fault FlowStats := do
  return {
    sendBytes := ← checkedAdd stats.sendBytes other.sendBytes
    recvBytes := ← checkedAdd stats.recvBytes other.recvBytes
    sendPackets := ← checkedAdd stats.sendPackets other.sendPackets
    recvPackets := ← checkedAdd stats.recvPackets other.recvPackets
    protocolMatched := ← checkedAdd stats.protocolMatched other.protocolMatched
    protocolUnmatched := ← checkedAdd stats.protocolUnmatched other.protocolUnmatched
    lastProtocol := laterProtocol stats.lastProtocol other.lastProtocol
    sendLatency := ← checkedAdd stats.sendLatency other.sendLatency
    recvLatency := ← checkedAdd stats.recvLatency other.recvLatency
    sendRetransmissions := ← checkedAdd stats.sendRetransmissions other.sendRetransmissions
    recvRetransmissions := ← checkedAdd stats.recvRetransmissions other.recvRetransmissions
    sendZeroWindows := ← checkedAdd stats.sendZeroWindows other.sendZeroWindows
    recvZeroWindows := ← checkedAdd stats.recvZeroWindows other.recvZeroWindows }

/-- The counters as a JSON value. -/
def json (stats : FlowStats) : Json.Value :=
  .object [
    ("send_bytes", .number stats.sendBytes.toNat),
    ("recv_bytes", .number stats.recvBytes.toNat),
    ("send_packets", .number stats.sendPackets.toNat),
    ("recv_packets", .number stats.recvPackets.toNat),
    ("protocol_matched", .number stats.protocolMatched.toNat),
    ("protocol_unmatched", .number stats.protocolUnmatched.toNat),
    ("last_inferred_protocol", .string stats.lastProtocol.name),
    ("send_total_latency", .number stats.sendLatency.toNat),
    ("recv_total_latency", .number stats.recvLatency.toNat),
    ("send_retran_count", .number stats.sendRetransmissions.toNat),
    ("recv_retran_count", .number stats.recvRetransmissions.toNat),
    ("send_zero_win_count", .number stats.sendZeroWindows.toNat),
    ("recv_zero_win_count", .number stats.recvZeroWindows.toNat)]

end FlowStats

end FlowMeter
