import FlowMeter.Proofs.Budget
import FlowMeter.Proofs.Invariant
import FlowMeter.Proofs.RecordJson

/-!
# What records of traffic look like

Where a meter takes packets only, every flow is made by a packet with a direction: it knows its role, it has
counted a packet, and it has no latency. So its record has the same fields in the same order whatever was
taken, and whatever the resolver knows: only the local port is there or not, as it is set, and only the record
of a client tells the service on the remote side.
-/

namespace FlowMeter

/-- A direction, with a message that asks or answers, tells the role. -/
theorem inferRole_eq_client_or_server {direction : Direction} {message : MessageKind}
    (hdirection : direction ≠ .none) (hmessage : message ≠ .none) :
    inferRole direction message = .client ∨ inferRole direction message = .server := by
  cases direction with
  | none => contradiction
  | inbound => cases message <;> simp_all [inferRole]
  | outbound => cases message <;> simp_all [inferRole]

/-- A packet with a direction knows its role: its message tells the role, or else its ports do. -/
theorem Meter.role_keyOf {packet : Packet} (h : packet.direction ≠ .none) (header : Header) :
    (keyOf header packet).role = .client ∨ (keyOf header packet).role = .server := by
  change inferRole packet.direction (messageOf header packet) = .client ∨
    inferRole packet.direction (messageOf header packet) = .server
  by_cases hmessage : packet.message = .none
  · rw [messageOf, if_pos hmessage, inferRole_inferMessage _ _ _ h]
    cases towardsService header.sourcePort header.destinationPort with
    | true => exact .inl rfl
    | false => exact .inr rfl
  · rw [messageOf, if_neg hmessage]
    exact inferRole_eq_client_or_server h hmessage

/-- A flow as packets make it: it knows its role and the kind of its socket, it has counted a packet, and it
has no latency. -/
structure PacketFlow (key : FlowKey) (amounts : Amounts) : Prop where
  role : key.role = .client ∨ key.role = .server
  socketKind : key.socketKind = .inet
  packets : 1 ≤ amounts.count .sendPackets + amounts.count .recvPackets
  latencies : ∀ counter ∈ FlowCounter.latencies, amounts.count counter = 0

namespace PacketFlow

/-- A packet with a direction makes such a flow. -/
theorem of_packet {packet : Packet} (h : packet.direction ≠ .none) (header : Header) :
    PacketFlow (Meter.keyOf header packet) (Meter.packetAmounts packet) where
  role := Meter.role_keyOf h header
  socketKind := rfl
  packets := (Meter.packets_packetAmounts h).ge
  latencies _ hcounter := Meter.count_packetAmounts_eq_zero packet (List.mem_append_left _ hcounter)

/-- Such a flow stays one where the amounts of another one are added. -/
theorem add {key other : FlowKey} {held amounts : Amounts} (hheld : PacketFlow key held)
    (hamounts : PacketFlow other amounts) : PacketFlow key (held + amounts) where
  role := hheld.role
  socketKind := hheld.socketKind
  packets := by
    have hcounted := hheld.packets
    simp only [Amounts.count_add]
    omega
  latencies counter hcounter := by
    rw [Amounts.count_add, hheld.latencies counter hcounter, hamounts.latencies counter hcounter]

/-- What a request without a latency posts keeps such flows. -/
theorem keptBy_of_mem_postings {request : Request} {posting : FlowKey × Amounts}
    (hlatency : request.isLatency = false) (h : posting ∈ request.postings) :
    FlowProperty.KeptBy PacketFlow posting := by
  rcases Request.cases_of_mem_postings h with
    ⟨event, packet, haccounted, rfl⟩ | ⟨key, direction, nanos, rfl, _⟩
  · have hpacket := of_packet (Meter.direction_of_accounted haccounted) event.header
    exact ⟨hpacket, fun key held hheld => hheld.add hpacket⟩
  · contradiction

end PacketFlow

namespace Record

/-- The keys of a record of a flow, in order. -/
def flowKeys (withLocalPort : Bool) : List String :=
  ["remote_info"] ++ (if withLocalPort then ["local_port"] else []) ++
    ["socket_type", "role", "send_bytes", "recv_bytes", "send_packets", "recv_packets",
      "send_total_latency", "recv_total_latency"]

/-- A record that tells a client: the members of its remote side have the kind of a service. -/
def TellsClient (record : Record) (remote : List (String × Json.Datum)) : Prop :=
  record.get? "role" = some "client" ∧
    ∃ category : ServiceCategory, ("remote_type", .string category.label) ∈ remote

/-- A record that tells a server: its remote side is an address without a port. -/
def TellsServer (record : Record) (remote : List (String × Json.Datum)) : Prop :=
  record.get? "role" = some "server" ∧
    ∃ address : Address, remote = [("remote_ip", .string address.text), ("remote_port", .string "0")]

/-- A record of a flow of packets. -/
structure OfTraffic (record : Record) (withLocalPort : Bool) : Prop where
  keys : record.keys = flowKeys withLocalPort
  socketKind : record.get? "socket_type" = some "inet"
  packets : ∃ sent received : UInt64, record.get? "send_packets" = some (toString sent) ∧
    record.get? "recv_packets" = some (toString received) ∧ 1 ≤ sent.toNat + received.toNat
  sendLatency : record.get? "send_total_latency" = some "0"
  recvLatency : record.get? "recv_total_latency" = some "0"
  remote : ∃ text members, record.get? "remote_info" = some text ∧
    Json.read? text = some (.object members) ∧
      (record.TellsClient members ∨ record.TellsServer members)

variable {key : FlowKey} {stats : FlowStats} {withLocalPort : Bool} {resolver : Resolver}

/-- The record of a flow has the keys of a flow, in order. -/
theorem keys_addFlow :
    (empty.addFlow key stats withLocalPort resolver).keys = flowKeys withLocalPort := by
  cases withLocalPort <;> rfl

/-- What a record tells of a key is what the key tells. -/
theorem get?_addFlow_key (key : FlowKey) (stats : FlowStats) (withLocalPort : Bool) (resolver : Resolver) :
    (empty.addFlow key stats withLocalPort resolver).get? "remote_info" =
        some (remoteInfo key resolver).text ∧
      (empty.addFlow key stats withLocalPort resolver).get? "socket_type" =
        some key.socketKind.label ∧
      (empty.addFlow key stats withLocalPort resolver).get? "role" = some key.role.label := by
  cases withLocalPort <;> exact ⟨rfl, rfl, rfl⟩

/-- Of a client the remote side has the kind of a service, whether the resolver finds one or not. -/
theorem exists_remote_type_of_client (h : key.role = .client) :
    ∃ category : ServiceCategory,
      ("remote_type", .string category.label) ∈ remoteMembers key resolver := by
  refine ⟨(resolver key.pid key.destination.text).elim .server (·.category), ?_⟩
  apply List.mem_cons_of_mem
  apply List.mem_cons_of_mem
  rw [mem_memberData_serviceMembers]
  refine .inl ⟨rfl, h, ?_⟩
  cases resolver key.pid key.destination.text <;> rfl

/-- Of a server the remote side is its address without a port. -/
theorem remoteMembers_of_server (h : key.role = .server) :
    remoteMembers key resolver =
      [("remote_ip", .string key.destination.text), ("remote_port", .string "0")] := by
  simp [remoteMembers, serviceMembers, h, Json.Value.memberData]

/-- A counter that holds nothing is told as zero. -/
theorem get?_addFlow_of_count_eq_zero {counter : FlowCounter} {field : String}
    (hfield : counter.field? = some field) (h : stats.amounts.count counter = 0) :
    (empty.addFlow key stats withLocalPort resolver).get? field = some "0" := by
  have hzero : stats.counter counter = 0 := UInt64.toNat_inj.mp h
  rw [get?_addFlow_of_field hfield, hzero]
  rfl

/-- The record of a flow as packets make it is a record of traffic. -/
theorem ofTraffic_of_packetFlow (h : PacketFlow key stats.amounts) :
    (empty.addFlow key stats withLocalPort resolver).OfTraffic withLocalPort := by
  obtain ⟨hremote, hsocketKind, hrole⟩ := get?_addFlow_key key stats withLocalPort resolver
  have hsend := h.latencies .sendLatency (by decide)
  have hrecv := h.latencies .recvLatency (by decide)
  constructor
  · exact keys_addFlow
  · rw [hsocketKind, h.socketKind]
    rfl
  · exact ⟨_, _, get?_addFlow_of_field rfl .., get?_addFlow_of_field rfl .., h.packets⟩
  · exact get?_addFlow_of_count_eq_zero rfl hsend
  · exact get?_addFlow_of_count_eq_zero rfl hrecv
  · refine ⟨_, remoteMembers key resolver, hremote, ?_, ?_⟩
    · rw [Json.read?_text, datum_remoteInfo]
    · rcases h.role with hclient | hserver
      · left
        exact ⟨by rw [hrole, hclient]; rfl, exists_remote_type_of_client hclient⟩
      · right
        exact ⟨by rw [hrole, hserver]; rfl, _, remoteMembers_of_server hserver⟩

end Record

/-- Whatever buffers, frames and events a meter takes, every record that it reports is one of traffic: its
keys are known and in order, it knows its role, it tells a packet and no latency. -/
theorem serve_reports_traffic {settings : Settings} {requests : List Request} {answers : List Answer}
    {meter : Meter} (hlatency : ∀ request ∈ requests, request.isLatency = false)
    (h : (Meter.ofSettings settings).serve requests = .ok (answers, meter)) :
    ∀ record ∈ answers.flatMap Answer.reported, record.OfTraffic settings.withLocalPort := by
  have hkept : ∀ request ∈ requests, ∀ posting ∈ request.postings,
      FlowProperty.KeptBy PacketFlow posting :=
    fun request hrequest _ => PacketFlow.keptBy_of_mem_postings (hlatency request hrequest)
  intro record hrecord
  obtain ⟨key, stats, resolver, hflow, rfl⟩ :=
    (Meter.all_of_serve FlowTable.all_nil hkept h).2 record hrecord
  exact Record.ofTraffic_of_packetFlow hflow

/-- A packet to a service that a resolver knows, and one from it; a buffer that is dropped, a packet without a
direction, and one that a client sends. -/
def knownService : List Request :=
  let header : Header := { pid := 7, sourcePort := 40000, destinationPort := 3306 }
  [.event (.ofPacket header ⟨.outbound, .mysql, .none, 40, []⟩), .buffer [1, 2, 3],
    .event (.ofPacket header ⟨.inbound, .none, .response, 20, []⟩),
    .event (.ofPacket header ⟨.none, .none, .request, 9, []⟩),
    .event (.ofPacket { header with pid := 8 } ⟨.inbound, .http, .request, 30, []⟩),
    .flush fun _ _ => some ⟨.database, "primary"⟩]

/-- The flow to the service and the flow of the client are told, each as traffic. -/
theorem serve_reports_traffic_knownService :
    (∀ request ∈ knownService, request.isLatency = false) ∧
      ∃ answers meter,
        (Meter.ofSettings { withLocalPort := true }).serve knownService = .ok (answers, meter) ∧
        (answers.flatMap Answer.reported).map (·.get? "role") = [some "client", some "server"] ∧
        ∀ record ∈ answers.flatMap Answer.reported, record.OfTraffic true := by
  have hlatency : ∀ request ∈ knownService, request.isLatency = false := by
    simp [knownService, Request.isLatency]
  have hserve : (Meter.ofSettings { withLocalPort := true }).serve knownService = .ok (_, _) := rfl
  exact ⟨hlatency, _, _, hserve, rfl, serve_reports_traffic hlatency hserve⟩

end FlowMeter
