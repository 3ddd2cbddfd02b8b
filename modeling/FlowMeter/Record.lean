import FlowMeter.Flow.Key
import FlowMeter.Flow.Stats
import FlowMeter.Service.Directory

/-!
# Records

A record is a list of fields, each a key and a value, in the order in which they were added. A key may
occur more than once; the first occurrence counts. A flow is reported as a record: the remote side as a
JSON object, the kinds of socket and role, and the counters. The service behind the remote side is looked
up for clients only, where a miss reports a server without a host. The remote port of a server is that of
a passing client and is not shown.
-/

namespace FlowMeter

/-- A record: keys with values, in order. -/
structure Record where
  fields : List (String × String)
deriving DecidableEq, Repr

namespace Record

/-- The record without fields. -/
def empty : Record := ⟨[]⟩

/-- Adds a field at the end. -/
def add (record : Record) (key value : String) : Record :=
  ⟨record.fields ++ [(key, value)]⟩

/-- The first value of a key. -/
def get? (record : Record) (key : String) : Option String :=
  record.fields.lookup key

/-- The keys in order. -/
def keys (record : Record) : List String :=
  record.fields.map (·.1)

/-- The number of fields. -/
def size (record : Record) : Nat :=
  record.fields.length

/-- Whether there are no fields. -/
def isEmpty (record : Record) : Bool :=
  record.fields.isEmpty

/-- The text of a record. -/
def text (record : Record) : String :=
  String.intercalate " " (record.fields.map fun (key, value) => key ++ "=" ++ value)

/-- A record as a JSON value. -/
def json (record : Record) : Json.Value :=
  .object [("contents",
    .array (record.fields.map fun (key, value) =>
      .object [("key", .string key), ("value", .string value)]))]

/-- The first occurrence of a key counts, so a field that is added shows only where its key is new. -/
theorem get?_add (record : Record) (key value other : String) :
    (record.add key value).get? other =
      (record.get? other).or (if other = key then some value else none) := by
  obtain ⟨fields⟩ := record
  simp only [get?, add]
  induction fields with
  | nil =>
    by_cases h : other = key
    · simp [h]
    · simp [List.lookup_cons, beq_false_of_ne h, h]
  | cons field rest ih =>
    obtain ⟨first, old⟩ := field
    by_cases h : other = first
    · simp [h]
    · have hne : (other == first) = false := by simpa using h
      simpa [List.lookup_cons, hne] using ih

/-- The members that tell the service behind the remote side. -/
def serviceMembers (key : FlowKey) (resolver : Resolver) : List (String × Json.Value) :=
  if key.role = .client then
    match resolver key.pid key.destination.text with
    | some service =>
      ("remote_type", .string service.category.label) ::
        (if service.host = "" then [] else [("remote_host", .string service.host)])
    | none => [("remote_type", .string ServiceCategory.server.label)]
  else []

/-- The remote side of a flow as a JSON value. -/
def remoteInfo (key : FlowKey) (resolver : Resolver) : Json.Value :=
  .object (
    [("remote_ip", .string key.destination.text),
      ("remote_port",
        .string (if key.role = .server then "0" else toString key.destinationPort))] ++
      serviceMembers key resolver)

/-- Adds what the key of a flow tells; the local port only if it is wanted. -/
def addKey (record : Record) (key : FlowKey) (withLocalPort : Bool) (resolver : Resolver) :
    Record :=
  let record := record.add "remote_info" (remoteInfo key resolver).text
  let record := if withLocalPort then record.add "local_port" (toString key.sourcePort) else record
  (record.add "socket_type" key.socketKind.label).add "role" key.role.label

/-- Adds the counters of a flow that are reported. -/
def addStats (record : Record) (stats : FlowStats) : Record :=
  record
    |>.add "send_bytes" (toString stats.sendBytes)
    |>.add "recv_bytes" (toString stats.recvBytes)
    |>.add "send_packets" (toString stats.sendPackets)
    |>.add "recv_packets" (toString stats.recvPackets)
    |>.add "send_total_latency" (toString stats.sendLatency)
    |>.add "recv_total_latency" (toString stats.recvLatency)

/-- Adds a flow. -/
def addFlow (record : Record) (key : FlowKey) (stats : FlowStats) (withLocalPort : Bool)
    (resolver : Resolver) : Record :=
  (record.addKey key withLocalPort resolver).addStats stats

end Record

end FlowMeter
