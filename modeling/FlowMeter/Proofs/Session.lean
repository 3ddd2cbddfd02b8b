import FlowMeter.Proofs.Log
import FlowMeter.Proofs.Stream

/-!
# Sessions

A session is all that the owner of a meter asks of it, in any order. What is accounted in a session
makes up a log, which every flush clears; of a stream these are the events in the bodies of its framing.
The table of a meter tells the log of its session: the number
of flows, the counters of every key and the records of a flush follow from the log alone.
-/

namespace FlowMeter

/-- What the owner of a meter asks of it. -/
inductive Request where
  | buffer (buffer : Bytes)
  | frames (stream : Bytes)
  | event (event : Event)
  | latency (key : FlowKey) (direction : Direction) (nanos : UInt64)
  | poll
  | flush (resolver : Resolver)

/-- What a meter answers. -/
inductive Answer where
  | accepted (taken : Bool)
  | consumed (count : Nat)
  | done
  | counters (counters : List Counter)
  | records (records : List Record)

namespace Meter

/-- Answers a request. -/
def answer (meter : Meter) : Request → Except Fault (Answer × Meter)
  | .buffer buffer => (meter.onBuffer buffer).map fun (taken, after) => (.accepted taken, after)
  | .frames stream => (meter.onFrames stream).map fun (count, after) => (.consumed count, after)
  | .event event => (meter.onEvent event).map (.done, ·)
  | .latency key direction nanos => (meter.addLatency key direction nanos).map (.done, ·)
  | .poll => .ok (.counters meter.pollCounters.1, meter.pollCounters.2)
  | .flush resolver => .ok (.records (meter.flush resolver).1, (meter.flush resolver).2)

/-- Answers the requests of a session one after the other. -/
def serve (meter : Meter) : List Request → Except Fault (List Answer × Meter)
  | [] => .ok ([], meter)
  | request :: rest => do
    let (first, between) ← meter.answer request
    let (answers, after) ← between.serve rest
    return (first :: answers, after)

/-- A session that starts with a request answers it, and the rest as a session of the meter after it. -/
theorem exists_of_serve_cons {meter next : Meter} {request : Request} {rest : List Request}
    {answers : List Answer} (h : meter.serve (request :: rest) = .ok (answers, next)) :
    ∃ first between later, meter.answer request = .ok (first, between) ∧
      between.serve rest = .ok (later, next) ∧ answers = first :: later := by
  obtain ⟨⟨first, between⟩, hfirst, hlater⟩ := exists_of_bind_eq_ok h
  obtain ⟨⟨later, last⟩, hlast, hpair⟩ := exists_of_bind_eq_ok hlater
  obtain ⟨rfl, rfl⟩ := Prod.mk.inj (Except.ok.inj hpair)
  exact ⟨first, between, later, hfirst, hlast, rfl⟩

/-- A request is answered, unless a counter of a flow does not fit. -/
theorem answer_onlyOverflow (meter : Meter) (request : Request) :
    OnlyOverflow (meter.answer request) := by
  cases request with
  | buffer buffer => exact (meter.onBuffer_onlyOverflow buffer).map _
  | frames stream => exact (meter.onFrames_onlyOverflow stream).map _
  | event event => exact (meter.onEvent_onlyOverflow event).map _
  | latency key direction nanos =>
    have hchange (stats : FlowStats) : OnlyOverflow (stats.addLatency direction nanos) :=
      stats.addLatency_onlyOverflow direction nanos
    exact (meter.alter_onlyOverflow key hchange).map _
  | poll => exact .ok _
  | flush resolver => exact .ok _

/-- A session ends early only where a counter of a flow does not fit. -/
theorem serve_onlyOverflow (meter : Meter) (requests : List Request) :
    OnlyOverflow (meter.serve requests) := by
  induction requests generalizing meter with
  | nil => exact .ok _
  | cons request rest ih =>
    refine (meter.answer_onlyOverflow request).bind fun answered => ?_
    exact (ih answered.2).bind fun served => .ok _

end Meter

namespace FlowLog

/-- What an event adds to a log: its packet, where it is a data event and the packet has a direction,
under the key of its header. The role is that of the message kind that the packet tells, or else of
the one that its ports suggest. -/
def ofEvent (event : Event) : FlowLog :=
  match event.header.kind, event.packet with
  | .data, some packet =>
    if packet.direction = .none then []
    else
      let message :=
        if packet.message = .none then
          inferMessage packet.direction event.header.sourcePort event.header.destinationPort
        else packet.message
      [(.ofHeader event.header (inferRole packet.direction message) .inet, fun stats => do
        let counted ← stats.onPacket packet.direction packet.realLength.toUInt64
        counted.onProtocol packet.protocol)]
  | _, _ => []

/-- A packet that is accounted is a change under its key. -/
theorem ofEvent_of_accounted {event : Event} {packet : Packet}
    (h : Meter.accounted event = some packet) :
    ofEvent event = [(Meter.keyOf event.header packet, Meter.countPacket packet)] := by
  obtain ⟨hcarried, hdirection⟩ := Option.filter_eq_some_iff.mp h
  unfold Event.carried at hcarried
  split at hcarried
  · rename_i hkind
    rw [ofEvent, hkind, hcarried]
    exact if_neg (by simpa using hdirection)
  · contradiction

/-- An event without a packet that is accounted adds nothing. -/
theorem ofEvent_of_not_accounted {event : Event} (h : Meter.accounted event = none) :
    ofEvent event = [] := by
  unfold ofEvent
  split
  · rename_i packet hkind hpacket
    have hcarried : event.carried = some packet := by rw [Event.carried, if_pos hkind, hpacket]
    rw [Meter.accounted, hcarried] at h
    exact if_pos (by simpa using h)
  · rfl

/-- What a buffer adds to a log: what its event does, if the buffer holds one. -/
def ofBuffer (buffer : Bytes) : FlowLog :=
  match Event.ofBuffer? buffer with
  | some event => ofEvent event
  | none => []

/-- The log after a request: what is accounted comes last, and a flush clears it. -/
def after (log : FlowLog) : Request → FlowLog
  | .buffer buffer => log ++ ofBuffer buffer
  | .frames stream => log ++ (Frame.bodies stream).flatMap ofBuffer
  | .event event => log ++ ofEvent event
  | .latency key direction nanos =>
    log ++ [(key, fun (stats : FlowStats) => stats.addLatency direction nanos)]
  | .poll => log
  | .flush _ => []

/-- The log of a session since its last flush. -/
def ofRequests (requests : List Request) : FlowLog :=
  requests.foldl after []

end FlowLog

namespace Meter

/-- A meter with some settings whose table tells a log. -/
structure Follows (settings : Settings) (log : FlowLog) (meter : Meter) : Prop where
  aggregation : meter.aggregation = settings.aggregation
  withLocalPort : meter.withLocalPort = settings.withLocalPort
  table : FlowLog.Tells settings.aggregation log meter.table.entries

/-- An event either changes the flow that it adds to the log, or adds nothing and is ignored. -/
theorem onEvent_cases {meter after : Meter} {event : Event} (h : meter.onEvent event = .ok after) :
    (∃ key change, FlowLog.ofEvent event = [(key, change)] ∧ meter.alter key change = .ok after) ∨
      (FlowLog.ofEvent event = [] ∧
        after = { meter with counters.ignored := meter.counters.ignored + 1 }) := by
  unfold onEvent at h
  cases haccounted : accounted event with
  | some packet =>
    rw [haccounted] at h
    exact .inl ⟨_, _, FlowLog.ofEvent_of_accounted haccounted, h⟩
  | none =>
    rw [haccounted] at h
    exact .inr ⟨FlowLog.ofEvent_of_not_accounted haccounted, (Except.ok.inj h).symm⟩

variable {settings : Settings} {log : FlowLog} {meter next : Meter}

/-- A new meter tells the log without changes. -/
theorem follows_ofSettings (settings : Settings) : (ofSettings settings).Follows settings [] :=
  ⟨rfl, rfl, FlowLog.tells_nil⟩

/-- The counters of a meter have no part in what it tells. -/
theorem Follows.setCounters (h : meter.Follows settings log) (counters : MeterCounters) :
    Follows settings log { meter with counters } :=
  ⟨h.aggregation, h.withLocalPort, h.table⟩

/-- A meter that changes a flow tells a log that goes on by the change. -/
theorem Follows.alter {key : FlowKey} {change : FlowChange} (h : meter.Follows settings log)
    (hnext : meter.alter key change = .ok next) : next.Follows settings (log ++ [(key, change)]) := by
  obtain ⟨table, htable, rfl⟩ := exists_of_map_eq_ok hnext
  obtain ⟨entries, hentries, rfl⟩ := exists_of_map_eq_ok htable
  have htable := h.table
  rw [← h.aggregation] at htable
  refine ⟨h.aggregation, h.withLocalPort, ?_⟩
  rw [← h.aggregation]
  exact htable.concat hentries

/-- A meter that accounts an event tells a log that goes on by what the event adds. -/
theorem Follows.onEvent {event : Event} (h : meter.Follows settings log)
    (hnext : meter.onEvent event = .ok next) :
    next.Follows settings (log ++ FlowLog.ofEvent event) := by
  rcases onEvent_cases hnext with ⟨key, change, hadded, hchange⟩ | ⟨hadded, rfl⟩
  · rw [hadded]
    exact h.alter hchange
  · rw [hadded, List.append_nil]
    exact h.setCounters _

/-- A meter that reads a buffer tells a log that goes on by what the buffer adds. -/
theorem Follows.onBuffer {buffer : Bytes} {taken : Bool} (h : meter.Follows settings log)
    (hnext : meter.onBuffer buffer = .ok (taken, next)) :
    next.Follows settings (log ++ FlowLog.ofBuffer buffer) := by
  rw [onBuffer_eq] at hnext
  rw [FlowLog.ofBuffer, Event.ofBuffer?]
  split at hnext
  · obtain ⟨rfl, rfl⟩ := Prod.mk.inj (Except.ok.inj hnext)
    rw [if_pos ‹_›, List.append_nil]
    exact h.setCounters _
  · obtain ⟨after, hafter, hpair⟩ := exists_of_map_eq_ok hnext
    obtain ⟨rfl, rfl⟩ := Prod.mk.inj hpair
    rw [if_neg ‹_›]
    exact (h.setCounters _).onEvent hafter

/-- A meter that reads the bodies of some frames tells a log that goes on by what each of them adds. -/
theorem Follows.onBodies {bodies : List Bytes} (h : meter.Follows settings log)
    (hnext : meter.onBodies bodies = .ok next) :
    next.Follows settings (log ++ bodies.flatMap FlowLog.ofBuffer) := by
  induction bodies generalizing meter log with
  | nil =>
    obtain rfl := Except.ok.inj hnext
    simpa using h
  | cons body rest ih =>
    obtain ⟨between, hbetween, hrest⟩ := exists_of_bind_eq_ok hnext
    obtain ⟨⟨taken, after⟩, hafter, rfl⟩ := exists_of_map_eq_ok hbetween
    rw [List.flatMap_cons, ← List.append_assoc]
    exact ih (h.onBuffer hafter) hrest

/-- A request that is answered leaves a meter that tells the log after the request. -/
theorem Follows.answer {request : Request} {given : Answer} (h : meter.Follows settings log)
    (hnext : meter.answer request = .ok (given, next)) :
    next.Follows settings (log.after request) := by
  cases request with
  | buffer buffer =>
    obtain ⟨⟨taken, after⟩, hafter, hpair⟩ := exists_of_map_eq_ok hnext
    obtain ⟨rfl, rfl⟩ := Prod.mk.inj hpair
    exact h.onBuffer hafter
  | frames stream =>
    obtain ⟨⟨count, after⟩, hafter, hpair⟩ := exists_of_map_eq_ok hnext
    obtain ⟨rfl, rfl⟩ := Prod.mk.inj hpair
    -- What is left of the stream adds nothing to the log: it is handed over again.
    rw [onFrames_eq meter (.ofStream stream)] at hafter
    obtain ⟨last, hlast, hpair⟩ := exists_of_map_eq_ok hafter
    obtain ⟨rfl, rfl⟩ := Prod.mk.inj hpair
    exact h.onBodies hlast
  | event event =>
    obtain ⟨after, hafter, hpair⟩ := exists_of_map_eq_ok hnext
    obtain ⟨rfl, rfl⟩ := Prod.mk.inj hpair
    exact h.onEvent hafter
  | latency key direction nanos =>
    obtain ⟨after, hafter, hpair⟩ := exists_of_map_eq_ok hnext
    obtain ⟨rfl, rfl⟩ := Prod.mk.inj hpair
    exact h.alter hafter
  | poll =>
    obtain ⟨rfl, rfl⟩ := Prod.mk.inj (Except.ok.inj hnext)
    exact h.setCounters _
  | flush resolver =>
    obtain ⟨rfl, rfl⟩ := Prod.mk.inj (Except.ok.inj hnext)
    exact ⟨h.aggregation, h.withLocalPort, FlowLog.tells_nil⟩

/-- A session leaves a meter that tells the log after its requests. -/
theorem Follows.serve {requests : List Request} {answers : List Answer}
    (h : meter.Follows settings log) (hnext : meter.serve requests = .ok (answers, next)) :
    next.Follows settings (requests.foldl FlowLog.after log) := by
  induction requests generalizing meter log answers with
  | nil =>
    obtain ⟨rfl, rfl⟩ := Prod.mk.inj (Except.ok.inj hnext)
    exact h
  | cons request rest ih =>
    obtain ⟨first, between, later, hfirst, hlast, rfl⟩ := exists_of_serve_cons hnext
    exact ih (h.answer hfirst) hlast

end Meter

/-- A meter is a fold over the log of its session. It has as many flows as the log has identities, and
a key finds the changes of its identity made one after the other from zero, or nothing where the log
does not know its identity. A flush reports one record for each identity in the log, of its first key
and its counters. -/
theorem serve_folds_log {settings : Settings} {requests : List Request} {answers : List Answer}
    {meter : Meter} (h : (Meter.ofSettings settings).serve requests = .ok (answers, meter)) :
    meter.size =
        (FlowLog.identities settings.aggregation (FlowLog.ofRequests requests)).toFinset.card ∧
      (∀ key : FlowKey, match meter.get? key with
        | some stats =>
          key.identity settings.aggregation ∈
              FlowLog.identities settings.aggregation (FlowLog.ofRequests requests) ∧
            FlowLog.tally settings.aggregation (FlowLog.ofRequests requests)
              (key.identity settings.aggregation) = .ok stats
        | none =>
          key.identity settings.aggregation ∉
            FlowLog.identities settings.aggregation (FlowLog.ofRequests requests)) ∧
      ∀ resolver, ∃ flows,
        FlowLog.Tells settings.aggregation (FlowLog.ofRequests requests) flows ∧
          (meter.flush resolver).1 = flows.map fun (key, stats) =>
            Record.empty.addFlow key stats settings.withLocalPort resolver := by
  have hfollows := (Meter.follows_ofSettings settings).serve h
  refine ⟨hfollows.table.length_eq, fun key => ?_, fun resolver =>
    ⟨meter.table.entries, hfollows.table, ?_⟩⟩
  · have hfind := hfollows.table.find? key
    rw [← hfollows.aggregation] at hfind ⊢
    exact hfind
  · rw [← hfollows.withLocalPort]
    rfl

/-- A packet that comes back from a remote side. -/
def answeringEvent : Event :=
  .ofPacket { pid := 7, socketHash := 2, destinationPort := 80 } ⟨.inbound, .none, .none, 20, [1, 2]⟩

/-- The frame of the packet that comes back, an empty frame, and the front of another frame. -/
def answeringStream : Bytes :=
  Frame.ofBody answeringEvent.bytes ++ Frame.ofBody [] ++ [88, 0]

/-- The framing of these frames. -/
def answeringFraming : Framing answeringStream where
  bodies := [answeringEvent.bytes, []]
  rest := [88, 0]
  fits := by decide
  incomplete := by decide
  concat := rfl

/-- A packet in front of a flush; behind it one packet each of two sockets with one remote side, the first
in a buffer and the second in a stream of frames, and a latency. -/
def twoSockets : List Request :=
  let header (socketHash : UInt32) : Header := { pid := 7, socketHash, destinationPort := 80 }
  [.event (.ofPacket (header 3) ⟨.outbound, .none, .none, 40, []⟩), .flush .nothing,
    .buffer (Event.ofPacket (header 1) ⟨.outbound, .http, .none, 10, []⟩).bytes,
    .frames answeringStream, .latency (.ofHeader (header 4) .client .inet) .inbound 5]

/-- The counters of the flow of the two sockets. -/
def twoSocketsStats : FlowStats :=
  { sendBytes := 10, sendPackets := 1, recvBytes := 20, recvPackets := 1, protocolMatched := 1,
    protocolUnmatched := 1, lastProtocol := .http, recvLatency := 5 }

/-- Two sockets with one remote side make one flow, under the key of the first: with the packet of the
buffer, that of the frame, and the latency. -/
theorem serve_folds_log_twoSockets :
    ∃ answers meter, (Meter.ofSettings {}).serve twoSockets = .ok (answers, meter) ∧
      (FlowLog.identities .mergedByEndpoint (FlowLog.ofRequests twoSockets)).toFinset.card = 1 ∧
      FlowLog.tally .mergedByEndpoint (FlowLog.ofRequests twoSockets)
        (.endpoint 7 .zero4 80 .client) = .ok twoSocketsStats ∧
      ∃ flows, FlowLog.Tells .mergedByEndpoint (FlowLog.ofRequests twoSockets) flows ∧
        (meter.flush .nothing).1 = flows.map fun (key, stats) =>
          Record.empty.addFlow key stats false .nothing := by
  let key : FlowKey := { pid := 7, destinationPort := 80, role := .client }
  have hframes (meter : Meter) := meter.onFrames_eq answeringFraming
  have hserve : ∃ answers meter, (Meter.ofSettings {}).serve twoSockets = .ok (answers, meter) ∧
      meter.size = 1 ∧ meter.get? key = some twoSocketsStats := by
    simp only [twoSockets, Meter.serve, Meter.answer, hframes]
    exact ⟨_, _, rfl, rfl, rfl⟩
  obtain ⟨answers, meter, hanswers, hone, hstats⟩ := hserve
  obtain ⟨hsize, hget, hflush⟩ := serve_folds_log hanswers
  have htally := hget key
  rw [hstats] at htally
  exact ⟨answers, meter, hanswers, hsize.symm.trans hone, htally.2, hflush .nothing⟩

end FlowMeter
