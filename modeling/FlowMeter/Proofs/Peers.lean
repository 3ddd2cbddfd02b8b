import FlowMeter.Proofs.Balance

/-!
# Flows of peers

The events that a meter is handed one after the other lie in places of its table: those of one identity in
one place, whose counters are what these events make up together. Where packets do not tell whether they
ask or answer, their ports do, and their direction cancels out of the role. Under merged aggregation a place
is then a peer: a process, a remote end, and whether this looks like a service.
-/

namespace FlowMeter

/-- The place of the flow of a key among some entries. -/
def FlowTable.place? (aggregation : Aggregation) (key : FlowKey) (entries : List (FlowKey × FlowStats)) :
    Option Nat :=
  entries.findIdx? fun entry => entry.1.same aggregation key

namespace Meter

/-- The place of the flow in which an event is accounted. -/
def placeOf? (meter : Meter) (event : Event) : Option Nat :=
  (accounted event).bind fun packet =>
    FlowTable.place? meter.aggregation (keyOf event.header packet) meter.table.entries

/-- The identity of the flow in which an event is accounted. -/
def identityOf? (aggregation : Aggregation) (event : Event) : Option FlowIdentity :=
  (accounted event).map fun packet => (keyOf event.header packet).identity aggregation

/-- The events that are accounted. -/
def accountedEvents (events : List Event) : List Event :=
  events.filter (!isIgnored ·)

/-- Counts the packet of an event, where that is accounted, in the counters of its flow. -/
def countEvent (stats : FlowStats) (event : Event) : Except Fault FlowStats :=
  match accounted event with
  | some packet => countPacket packet stats
  | none => .ok stats

end Meter

namespace FlowLog

variable {aggregation : Aggregation} {log : FlowLog} {entries : List (FlowKey × FlowStats)}
  {key : FlowKey} {place : Nat} {entry : FlowKey × FlowStats}

/-- A key has its place where the entry of its identity is. -/
theorem Tells.place?_eq_some_iff (h : Tells aggregation log entries)
    (hentry : entries[place]? = some entry) :
    FlowTable.place? aggregation key entries = some place ↔
      key.identity aggregation = entry.1.identity aggregation := by
  obtain ⟨hplace, hget⟩ := List.getElem?_eq_some_iff.mp hentry
  rw [FlowTable.place?, List.findIdx?_eq_some_iff_getElem]
  constructor
  · rintro ⟨_, hsame, _⟩
    rw [hget] at hsame
    exact (FlowKey.same_iff.mp hsame).symm
  · intro hidentity
    refine ⟨hplace, FlowKey.same_iff.mpr (hget ▸ hidentity.symm), fun other hother hsame => ?_⟩
    -- An entry in front of it has another identity, as the identities of entries are distinct.
    have hbound : other < entries.length := hother.trans hplace
    have hshared : (identities aggregation entries)[other]? = (identities aggregation entries)[place]? := by
      rw [identities, List.getElem?_map, List.getElem?_map, hentry, List.getElem?_eq_getElem hbound,
        Option.map_some, Option.map_some, FlowKey.same_iff.mp hsame, hidentity]
    have hlength : other < (identities aggregation entries).length := by
      rwa [identities, List.length_map]
    exact hother.ne ((List.getElem?_inj hlength h.distinct).mp hshared)

/-- An identity that a log knows has an entry in some place. -/
theorem Tells.exists_place (h : Tells aggregation log entries) {identity : FlowIdentity}
    (hidentity : identity ∈ identities aggregation log) :
    ∃ place : Nat, ∃ entry,
      entries[place]? = some entry ∧ entry.1.identity aggregation = identity := by
  obtain ⟨entry, hentry, hsame⟩ := List.mem_map.mp ((h.covers identity).mpr hidentity)
  obtain ⟨place, hplace⟩ := List.mem_iff_getElem?.mp hentry
  exact ⟨place, entry, hplace, hsame⟩

/-- The log of events knows the identities of those that are accounted. -/
theorem identities_flatMap_ofEvent (events : List Event) :
    identities aggregation (events.flatMap ofEvent) =
      events.filterMap (Meter.identityOf? aggregation) := by
  induction events with
  | nil => rfl
  | cons event rest ih =>
    rw [List.flatMap_cons, identities, List.map_append, ← identities, ← identities, ih,
      List.filterMap_cons, Meter.identityOf?]
    cases haccounted : Meter.accounted event with
    | none =>
      rw [ofEvent_of_not_accounted haccounted]
      rfl
    | some packet =>
      rw [ofEvent_of_accounted haccounted]
      rfl

/-- What the log of events makes up for an identity is what the events of the identity do. -/
theorem tally_flatMap_ofEvent (events : List Event) (identity : FlowIdentity) :
    tally aggregation (events.flatMap ofEvent) identity =
      (events.filter (Meter.identityOf? aggregation · = some identity)).foldlM
        Meter.countEvent .zero := by
  unfold tally
  generalize FlowStats.zero = start
  induction events generalizing start with
  | nil => rfl
  | cons event rest ih =>
    rw [List.flatMap_cons, List.filter_append, List.filter_cons]
    cases haccounted : Meter.accounted event with
    | none => simpa [ofEvent_of_not_accounted haccounted, Meter.identityOf?, haccounted] using ih start
    | some packet =>
      rw [ofEvent_of_accounted haccounted, List.filter_singleton]
      by_cases hidentity : (Meter.keyOf event.header packet).identity aggregation = identity
      · have hcount : Meter.countEvent start event = Meter.countPacket packet start := by
          rw [Meter.countEvent, haccounted]
        simp only [Meter.identityOf?, haccounted, Option.map_some, hidentity, decide_true, ↓reduceIte,
          List.singleton_append, List.foldlM_cons, hcount, cond_true]
        exact bind_congr ih
      · simpa [Meter.identityOf?, haccounted, hidentity] using ih start

end FlowLog

namespace Meter

variable {settings : Settings} {log : FlowLog} {meter next : Meter} {event : Event} {packet : Packet}

/-- A meter that is handed events one after the other tells a log that goes on by them. -/
theorem Follows.onEvents {events : List Event} (h : meter.Follows settings log)
    (hnext : events.foldlM Meter.onEvent meter = .ok next) :
    next.Follows settings (log ++ events.flatMap FlowLog.ofEvent) := by
  induction events generalizing meter log with
  | nil =>
    obtain rfl := Except.ok.inj hnext
    simpa using h
  | cons event rest ih =>
    obtain ⟨between, hbetween, hrest⟩ := exists_of_bind_eq_ok hnext
    rw [List.flatMap_cons, ← List.append_assoc]
    exact ih (h.onEvent hbetween) hrest

/-- An event has its place where the entry of its identity is. -/
theorem Follows.placeOf?_eq_some_iff {place : Nat} {entry : FlowKey × FlowStats}
    (h : meter.Follows settings log) (hentry : meter.table.entries[place]? = some entry) :
    meter.placeOf? event = some place ↔
      identityOf? settings.aggregation event = some (entry.1.identity settings.aggregation) := by
  have htable := h.table
  rw [← h.aggregation] at htable ⊢
  rw [placeOf?, identityOf?]
  cases accounted event with
  | none => simp
  | some packet =>
    rw [Option.bind_some, Option.map_some, Option.some_inj]
    exact htable.place?_eq_some_iff hentry

/-- Events lie in one place where they have one identity, and the counters there are what they make up. -/
theorem exists_place_of_identityOf? {events : List Event} {identity : FlowIdentity}
    (h : events.foldlM onEvent (ofSettings settings) = .ok meter) (hevent : event ∈ events)
    (hidentity : identityOf? settings.aggregation event = some identity) :
    ∃ place key stats, meter.table.entries[place]? = some (key, stats) ∧
      key.identity settings.aggregation = identity ∧
      (∀ other, meter.placeOf? other = some place ↔
        identityOf? settings.aggregation other = some identity) ∧
      (events.filter (meter.placeOf? · = some place)).foldlM countEvent .zero = .ok stats := by
  have hfollows := (follows_ofSettings settings).onEvents h
  rw [List.nil_append] at hfollows
  have hknown : identity ∈
      FlowLog.identities settings.aggregation (events.flatMap FlowLog.ofEvent) := by
    rw [FlowLog.identities_flatMap_ofEvent]
    exact List.mem_filterMap.mpr ⟨event, hevent, hidentity⟩
  obtain ⟨place, ⟨key, stats⟩, hentry, rfl⟩ := hfollows.table.exists_place hknown
  have hplace (other : Event) : meter.placeOf? other = some place ↔
      identityOf? settings.aggregation other = some (key.identity settings.aggregation) :=
    hfollows.placeOf?_eq_some_iff hentry
  have htotal := hfollows.table.total _ (List.mem_of_getElem? hentry)
  rw [FlowLog.tally_flatMap_ofEvent] at htotal
  refine ⟨place, key, stats, hentry, rfl, hplace, ?_⟩
  simpa only [hplace] using htotal

/-- Events that are ignored have no identity. -/
theorem filterMap_identityOf? (aggregation : Aggregation) (events : List Event) :
    events.filterMap (identityOf? aggregation) =
      (accountedEvents events).filterMap (identityOf? aggregation) := by
  rw [accountedEvents, List.filterMap_filter]
  refine List.filterMap_congr fun event _ => ?_
  rw [identityOf?, isIgnored]
  cases accounted event <;> rfl

/-- There are as many flows as there are identities of the events. -/
theorem size_eq_card_identityOf? {events : List Event}
    (h : events.foldlM onEvent (ofSettings settings) = .ok meter) :
    meter.size = (events.filterMap (identityOf? settings.aggregation)).toFinset.card := by
  have hfollows := (follows_ofSettings settings).onEvents h
  rw [← FlowLog.identities_flatMap_ofEvent]
  exact hfollows.table.length_eq

end Meter

/-- A remote end as a process sees it. -/
@[ext]
structure Peer where
  pid : UInt32
  destination : Address
  destinationPort : UInt16
  isService : Bool
deriving DecidableEq, Repr

/-- The peer of a packet. It looks like a service where its port is below the limit or the local one. -/
def Header.peer (header : Header) : Peer where
  pid := header.pid
  destination := header.destination
  destinationPort := header.destinationPort
  isService := header.destinationPort < header.sourcePort || header.destinationPort < 30000

namespace Peer

/-- The role of a process towards a peer: of a service it is the client. -/
def role (peer : Peer) : Role :=
  if peer.isService then .client else .server

/-- The identity of the flow of a peer. -/
def identity (peer : Peer) : FlowIdentity :=
  .endpoint peer.pid peer.destination peer.destinationPort peer.role

/-- The role towards a peer tells whether this looks like a service. -/
theorem role_eq_client_iff (peer : Peer) : peer.role = .client ↔ peer.isService = true := by
  unfold role
  cases peer.isService <;> simp

/-- The identity of a peer tells the peer. -/
theorem identity_injective : Function.Injective identity := by
  intro a b h
  obtain ⟨hpid, hdestination, hport, hrole⟩ := FlowIdentity.endpoint.inj h
  have hservice : a.isService = b.isService := by
    rw [Bool.eq_iff_iff, ← role_eq_client_iff, ← role_eq_client_iff, hrole]
  exact Peer.ext hpid hdestination hport hservice

/-- Peers are as many as their identities. -/
theorem card_identities (peers : List Peer) :
    (peers.map identity).toFinset.card = peers.toFinset.card := by
  have himage : (peers.map identity).toFinset = peers.toFinset.image identity := by
    ext shared
    simp
  rw [himage, Finset.card_image_of_injective _ identity_injective]

end Peer

namespace Meter

variable {event : Event} {packet : Packet}

/-- The role under which a packet is accounted that does not tell whether it asks or answers: that
towards its peer, whatever its direction. -/
theorem role_keyOf_eq_peer (h : accounted event = some packet) (hmessage : packet.message = .none) :
    (keyOf event.header packet).role = event.header.peer.role := by
  change inferRole packet.direction (messageOf event.header packet) = _
  rw [messageOf, if_pos hmessage, inferRole_inferMessage _ _ _ (direction_of_accounted h)]
  rfl

/-- A packet that does not tell whether it asks or answers is accounted in the flow of its peer. -/
theorem identityOf?_of_accounted (h : accounted event = some packet) (hmessage : packet.message = .none) :
    identityOf? .mergedByEndpoint event = some event.header.peer.identity := by
  rw [identityOf?, h, Option.map_some, FlowKey.identity, role_keyOf_eq_peer h hmessage]
  rfl

end Meter

/-- Where packets do not tell whether they ask or answer, the flows of merged aggregation are the peers of
the events that are accounted: there are as many, and these events lie in one place exactly where they have
one peer. The role of the flow is that towards the peer, and its counters are what its events make up. The
direction of a packet, its socket and its local address have no part in it. -/
theorem flows_of_peers {settings : Settings} {events : List Event} {meter : Meter}
    (hmerged : settings.aggregation = .mergedByEndpoint)
    (hmessage : ∀ event ∈ events, ∀ packet,
      Meter.accounted event = some packet → packet.message = .none)
    (hrun : events.foldlM Meter.onEvent (Meter.ofSettings settings) = .ok meter) :
    meter.size = ((Meter.accountedEvents events).map (·.header.peer)).toFinset.card ∧
      ∀ event ∈ Meter.accountedEvents events, ∃ place key stats,
        meter.placeOf? event = some place ∧ meter.table.entries[place]? = some (key, stats) ∧
        key.role = event.header.peer.role ∧
        (events.filter (meter.placeOf? · = some place)).foldlM Meter.countEvent .zero = .ok stats ∧
        ∀ other ∈ Meter.accountedEvents events,
          (meter.placeOf? other = some place ↔ other.header.peer = event.header.peer) ∧
          (other.header.pid = event.header.pid → other.header.destination = event.header.destination →
            other.header.destinationPort = event.header.destinationPort →
            other.header.sourcePort = event.header.sourcePort →
            meter.placeOf? other = some place) := by
  have hidentity : ∀ event ∈ Meter.accountedEvents events,
      Meter.identityOf? settings.aggregation event = some event.header.peer.identity := by
    intro event hevent
    obtain ⟨hmem, haccounted⟩ := List.mem_filter.mp hevent
    obtain ⟨packet, hpacket⟩ : ∃ packet, Meter.accounted event = some packet := by
      simpa [Meter.isIgnored, Option.isSome_iff_exists] using haccounted
    rw [hmerged]
    exact Meter.identityOf?_of_accounted hpacket (hmessage event hmem packet hpacket)
  constructor
  · have hpeers : events.filterMap (Meter.identityOf? settings.aggregation) =
        ((Meter.accountedEvents events).map (·.header.peer)).map Peer.identity := by
      rw [Meter.filterMap_identityOf?, List.filterMap_congr hidentity, List.map_map, List.filterMap_eq_map']
      rfl
    rw [Meter.size_eq_card_identityOf? hrun, hpeers, Peer.card_identities]
  · intro event hevent
    obtain ⟨place, key, stats, hentry, hkey, hplace, htotal⟩ :=
      Meter.exists_place_of_identityOf? hrun (List.mem_of_mem_filter hevent) (hidentity event hevent)
    rw [hmerged] at hkey
    refine ⟨place, key, stats, (hplace event).mpr (hidentity event hevent), hentry,
      (FlowIdentity.endpoint.inj hkey).2.2.2, htotal, fun other hother => ?_⟩
    have hpeer : meter.placeOf? other = some place ↔ other.header.peer = event.header.peer := by
      rw [hplace, hidentity other hother, Option.some_inj, Peer.identity_injective.eq_iff]
    refine ⟨hpeer, fun hpid hdestination hport hsource => hpeer.mpr ?_⟩
    rw [Header.peer, hpid, hdestination, hport, hsource]
    rfl

/-- Packets of both directions, from two sockets of two local addresses, to one service port; packets to a
port at the limit, from itself and from the port above; and an event without a packet. -/
def mixedDirections : List Event :=
  let header (socketHash : UInt32) (octet : UInt8) (sourcePort destinationPort : UInt16) : Header :=
    { pid := 7, socketHash, source := .v4 #v[10, 0, 0, octet], sourcePort, destinationPort }
  let packet (direction : Direction) : Packet := ⟨direction, .none, .none, 10, []⟩
  [.ofPacket (header 1 1 40001 80) (packet .outbound), .ofPacket (header 2 2 40002 80) (packet .inbound),
    .ofPacket (header 3 1 30000 30000) (packet .outbound),
    .ofPacket (header 3 1 30001 30000) (packet .inbound), .ofHeader (header 1 1 40001 80)]

/-- Both sockets share a flow; at the limit the local port decides. -/
theorem flows_of_peers_mixedDirections :
    ∃ meter, mixedDirections.foldlM Meter.onEvent (Meter.ofSettings {}) = .ok meter ∧
      mixedDirections.map meter.placeOf? = [some 0, some 0, some 1, some 2, none] ∧
      meter.table.entries.map (·.1.role) = [.client, .server, .client] ∧
      meter.size = ((Meter.accountedEvents mixedDirections).map (·.header.peer)).toFinset.card := by
  have hrun : mixedDirections.foldlM Meter.onEvent (Meter.ofSettings {}) = .ok _ := rfl
  have hmessage : ∀ event ∈ mixedDirections, ∀ packet,
      Meter.accounted event = some packet → packet.message = .none := by
    decide
  exact ⟨_, hrun, by decide, by decide, (flows_of_peers rfl hmessage hrun).1⟩

end FlowMeter
