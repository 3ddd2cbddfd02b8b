import FlowMeter.Address.Text
import FlowMeter.Event.Basic
import FlowMeter.Flow.Role
import FlowMeter.Hash

/-!
# Flow keys

The identity of a flow, seen from the local side, and the two ways in which keys count as the same: by
process and socket, or by process, remote endpoint and role. Each way has a name, a word that chooses it,
and a hash that agrees with it.
-/

namespace FlowMeter

/-- Which packets count as one flow: those of a socket, or all that a process exchanges with a remote
endpoint in one role. -/
inductive Aggregation where
  | perSocket
  | mergedByEndpoint
deriving DecidableEq, Repr

namespace Aggregation

/-- The name of a way of aggregation in messages. -/
def name : Aggregation → String
  | .perSocket => "PerSocket"
  | .mergedByEndpoint => "MergedByEndpoint"

/-- The word for a way of aggregation in a settings text. -/
def word : Aggregation → String
  | .perSocket => "per-socket"
  | .mergedByEndpoint => "merged-by-endpoint"

/-- The way of aggregation that a word stands for. -/
def ofWord? (word : String) : Option Aggregation :=
  [perSocket, mergedByEndpoint].find? (·.word == word)

end Aggregation

/-- What is known of the flow that a packet belongs to. -/
structure FlowKey where
  pid : UInt32 := 0
  socketHash : UInt32 := 0
  source : Address := .zero4
  sourcePort : UInt16 := 0
  destination : Address := .zero4
  destinationPort : UInt16 := 0
  role : Role := .unknown
  socketKind : SocketKind := .unknown
deriving DecidableEq, Repr

namespace FlowKey

/-- The key of a packet; headers are seen from the local side already. -/
def ofHeader (header : Header) (role : Role) (socketKind : SocketKind) : FlowKey where
  pid := header.pid
  socketHash := header.socketHash
  source := header.source
  sourcePort := header.sourcePort
  destination := header.destination
  destinationPort := header.destinationPort
  role := role
  socketKind := socketKind

/-- The text of a key. -/
def text (key : FlowKey) : String :=
  "pid:" ++ toString key.pid ++ " sock_hash:" ++ toString key.socketHash ++
    " " ++ key.source.text ++ ":" ++ toString key.sourcePort ++
    " > " ++ key.destination.text ++ ":" ++ toString key.destinationPort ++
    " role:" ++ key.role.label ++ " socket_type:" ++ key.socketKind.label

/-- Whether two keys belong to one flow. -/
def same (aggregation : Aggregation) (a b : FlowKey) : Bool :=
  match aggregation with
  | .perSocket => a.pid = b.pid && a.socketHash = b.socketHash
  | .mergedByEndpoint =>
    a.pid = b.pid && a.destinationPort = b.destinationPort && a.role = b.role &&
      a.destination = b.destination

/-- The hash of process and socket. -/
def socketKeyHash (key : FlowKey) : UInt64 :=
  Hash.mix64 ((key.pid.toUInt64 <<< 32) ||| key.socketHash.toUInt64)

/-- The hash of remote address, remote port and process, taken in this order. -/
def endpointKeyHash (key : FlowKey) : UInt64 :=
  let hash := Hash.xxh32 key.destination.bytes 0
  let hash := Hash.xxh32 (Wire.bytes 2 key.destinationPort.toNat) hash
  (Hash.xxh32 (Wire.bytes 4 key.pid.toNat) hash).toUInt64

/-- The hash that agrees with a way of aggregation. -/
def hash (aggregation : Aggregation) (key : FlowKey) : UInt64 :=
  match aggregation with
  | .perSocket => key.socketKeyHash
  | .mergedByEndpoint => key.endpointKeyHash

/-- A key belongs to the flow of itself. -/
theorem same_refl (aggregation : Aggregation) (a : FlowKey) : same aggregation a a = true := by
  cases aggregation <;> simp [same]

/-- Of two keys of one flow either may be named first. -/
theorem same_symm {aggregation : Aggregation} {a b : FlowKey} (h : same aggregation a b = true) :
    same aggregation b a = true := by
  cases aggregation <;> simp_all [same]

/-- Keys that share a flow with one key share it with each other. -/
theorem same_trans {aggregation : Aggregation} {a b c : FlowKey}
    (h : same aggregation a b = true) (h' : same aggregation b c = true) :
    same aggregation a c = true := by
  cases aggregation <;> simp_all [same]

end FlowKey

end FlowMeter
