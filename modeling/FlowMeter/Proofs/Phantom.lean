import FlowMeter.Proofs.RecordShape

/-!
# Records of nothing

A packet that is accounted always leaves something in a counter that is reported: it is counted itself. A
latency makes the flow of its key before it looks at what it adds, so one without a direction, or of no time,
leaves a flow that holds nothing where the flow was not there. The next flush reports it. So a record tells
nothing exactly where all that reached its flow since the last flush were such latencies.
-/

namespace FlowMeter

/-- A record that tells nothing: every counter that it reports is zero. -/
def Record.TellsNothing (record : Record) : Prop :=
  ∀ counter, ∀ field ∈ FlowCounter.field? counter, record.get? field = some "0"

/-- Amounts that have no part in a counter that is reported. -/
def Amounts.Idle (amounts : Amounts) : Prop :=
  ∀ counter, (FlowCounter.field? counter).isSome → amounts.count counter = 0

namespace Amounts

variable {a b : Amounts}

/-- A flow without amounts is idle. -/
theorem idle_zero : Idle 0 :=
  fun _ _ => rfl

/-- A sum is idle where both parts are: amounts never make up for each other. -/
theorem idle_add_iff : (a + b).Idle ↔ a.Idle ∧ b.Idle := by
  simp only [Idle, count_add, Nat.add_eq_zero_iff]
  constructor
  · intro h
    exact ⟨fun counter hcounter => (h counter hcounter).1, fun counter hcounter => (h counter hcounter).2⟩
  · rintro ⟨ha, hb⟩ counter hcounter
    exact ⟨ha counter hcounter, hb counter hcounter⟩

/-- A latency is idle without a direction, or where it is no time. -/
theorem idle_latency_iff (direction : Direction) (nanos : UInt64) :
    (FlowUpdate.latency direction nanos).added.amounts.Idle ↔ direction = .none ∨ nanos = 0 := by
  constructor
  · intro h
    cases direction with
    | none => exact .inl rfl
    | inbound =>
      have hnanos : nanos.toNat = 0 := h .recvLatency rfl
      exact .inr (UInt64.toNat_inj.mp hnanos)
    | outbound =>
      have hnanos : nanos.toNat = 0 := h .sendLatency rfl
      exact .inr (UInt64.toNat_inj.mp hnanos)
  · rintro (rfl | rfl) counter hcounter
    · cases counter <;> rfl
    · cases direction <;> cases counter <;> rfl

/-- A packet with a direction is never idle: it counts itself, whatever its length. -/
theorem not_idle_packetAmounts {packet : Packet} (h : packet.direction ≠ .none) :
    ¬(Meter.packetAmounts packet).Idle := by
  intro hidle
  have hsend := hidle .sendPackets rfl
  have hrecv := hidle .recvPackets rfl
  have hpackets := Meter.packets_packetAmounts h
  omega

end Amounts

/-- The record of a flow tells nothing exactly where what the flow holds is idle. -/
theorem Record.tellsNothing_addFlow_iff {key : FlowKey} {stats : FlowStats} {withLocalPort : Bool}
    {resolver : Resolver} :
    (Record.empty.addFlow key stats withLocalPort resolver).TellsNothing ↔ stats.amounts.Idle := by
  constructor
  · intro h counter hcounter
    obtain ⟨field, hfield⟩ := Option.isSome_iff_exists.mp hcounter
    rw [← number_addFlow hcounter key stats withLocalPort resolver, number, hfield, Option.bind_some,
      h counter field hfield]
    rfl
  · intro h counter field hfield
    exact get?_addFlow_of_count_eq_zero hfield (h counter (Option.isSome_of_mem hfield))

/-- What is posted to an identity is idle exactly where every posting of it is. -/
theorem Postings.idle_total_iff {aggregation : Aggregation} {postings : Postings}
    {identity : FlowIdentity} :
    (postings.total aggregation identity).Idle ↔
      ∀ posting ∈ postings, posting.1.identity aggregation = identity → posting.2.Idle := by
  induction postings with
  | nil => exact iff_of_true Amounts.idle_zero (List.forall_mem_nil _)
  | cons posting rest ih =>
    obtain ⟨key, amounts⟩ := posting
    rw [List.forall_mem_cons, ← ih]
    by_cases hidentity : key.identity aggregation = identity
    · subst hidentity
      rw [total_cons_self, Amounts.idle_add_iff]
      simp
    · rw [total_cons_of_ne amounts rest hidentity]
      simp [hidentity]

namespace Request

/-- A request that leaves a flow idle: no packet of its events is accounted under the flow, and if it is a
latency of the flow, then one without a direction or of no time. -/
structure LeavesIdle (aggregation : Aggregation) (identity : FlowIdentity) (request : Request) : Prop where
  packets : ∀ event ∈ request.events, ∀ packet, Meter.accounted event = some packet →
    (Meter.keyOf event.header packet).identity aggregation ≠ identity
  latencies : ∀ key direction nanos, request = .latency key direction nanos →
    key.identity aggregation = identity → direction = .none ∨ nanos = 0

/-- A latency leaves a flow idle if it is of another flow, or has no direction, or is no time. -/
theorem leavesIdle_latency_iff {aggregation : Aggregation} {identity : FlowIdentity} {key : FlowKey}
    {direction : Direction} {nanos : UInt64} :
    (Request.latency key direction nanos).LeavesIdle aggregation identity ↔
      (key.identity aggregation = identity → direction = .none ∨ nanos = 0) := by
  constructor
  · intro h
    exact h.latencies key direction nanos rfl
  · intro h
    refine ⟨fun event hevent => ?_, fun _ _ _ hlatency => ?_⟩
    · exact absurd hevent List.not_mem_nil
    · obtain ⟨rfl, rfl, rfl⟩ := Request.latency.inj hlatency
      exact h

/-- A latency is posted under its own key. -/
theorem mem_postings_latency (key : FlowKey) (direction : Direction) (nanos : UInt64) :
    (key, (FlowUpdate.latency direction nanos).added.amounts) ∈
      (Request.latency key direction nanos).postings :=
  List.mem_append_right _ (List.mem_singleton_self _)

/-- A request leaves a flow idle exactly where all that it posts to the flow is idle. -/
theorem leavesIdle_iff {aggregation : Aggregation} {identity : FlowIdentity} {request : Request} :
    request.LeavesIdle aggregation identity ↔
      ∀ posting ∈ request.postings, posting.1.identity aggregation = identity → posting.2.Idle := by
  constructor
  · intro h posting hposting hidentity
    rcases List.mem_append.mp hposting with hevents | hlatency
    · obtain ⟨event, hevent, hpacket⟩ := List.mem_flatMap.mp hevents
      obtain ⟨packet, haccounted, rfl⟩ := Meter.mem_eventPostings.mp hpacket
      exact absurd hidentity (h.packets event hevent packet haccounted)
    · cases request with
      | latency key direction nanos =>
        obtain rfl := List.mem_singleton.mp hlatency
        exact (Amounts.idle_latency_iff direction nanos).mpr (h.latencies _ _ _ rfl hidentity)
      | _ => contradiction
  · intro h
    constructor
    · intro event hevent packet haccounted hidentity
      have hposting : (Meter.keyOf event.header packet, Meter.packetAmounts packet) ∈ request.postings :=
        List.mem_append_left _ (List.mem_flatMap.mpr
          ⟨event, hevent, Meter.mem_eventPostings.mpr ⟨packet, haccounted, rfl⟩⟩)
      exact Amounts.not_idle_packetAmounts (Meter.direction_of_accounted haccounted)
        (h _ hposting hidentity)
    · rintro key direction nanos rfl hidentity
      exact (Amounts.idle_latency_iff direction nanos).mp
        (h _ (mem_postings_latency key direction nanos) hidentity)

/-- What is pending after a request: a flush leaves nothing, and other requests come last. -/
def pendingAfter (pending : List Request) (request : Request) : List Request :=
  if request.isFlush then [] else pending ++ [request]

/-- The requests of a session since its last flush. -/
def sinceFlush (requests : List Request) : List Request :=
  requests.foldl pendingAfter []

end Request

namespace Meter

variable {meter next : Meter} {settings : Settings} {requests pending : List Request}

/-- A meter that holds what some requests posted, and nothing else. -/
def Holds (meter : Meter) (pending : List Request) : Prop :=
  FlowTable.post meter.aggregation (pending.flatMap Request.postings) [] = .ok meter.table.entries

/-- A request that is posted behind others is pending with them. -/
theorem Holds.post {request : Request} {entries : List (FlowKey × FlowStats)} (h : meter.Holds pending)
    (hflush : request.isFlush = false)
    (hentries : FlowTable.post meter.aggregation request.postings meter.table.entries = .ok entries) :
    FlowTable.post meter.aggregation
      ((Request.pendingAfter pending request).flatMap Request.postings) [] = .ok entries := by
  rw [Request.pendingAfter, if_neg (ne_true_of_eq_false hflush), List.flatMap_append,
    FlowTable.post_append, h, List.flatMap_singleton]
  exact hentries

/-- A request that is answered is pending then, unless it is a flush, after which nothing is. -/
theorem Holds.answer {request : Request} {given : Answer} (h : meter.Holds pending)
    (hnext : meter.answer request = .ok (given, next)) :
    next.Holds (Request.pendingAfter pending request) := by
  cases hflush : request.isFlush with
  | true =>
    cases request with
    | flush resolver =>
      obtain ⟨rfl, rfl⟩ := Prod.mk.inj (Except.ok.inj hnext)
      rfl
    | _ => contradiction
  | false =>
    rcases answer_cases hnext with ⟨⟨entries, hentries, rfl⟩, _⟩ | ⟨rfl, _, rfl⟩ | ⟨_, rfl, _⟩
    · exact h.post hflush hentries
    · exact h.post hflush rfl
    · contradiction

/-- After a session a meter holds what was posted since the last flush. -/
theorem Holds.serve {answers : List Answer} (h : meter.Holds pending)
    (hnext : meter.serve requests = .ok (answers, next)) :
    next.Holds (requests.foldl Request.pendingAfter pending) := by
  induction requests generalizing meter pending answers with
  | nil =>
    obtain ⟨rfl, rfl⟩ := Prod.mk.inj (Except.ok.inj hnext)
    exact h
  | cons request rest ih =>
    obtain ⟨first, between, later, hfirst, hlast, rfl⟩ := exists_of_serve_cons hnext
    exact ih (h.answer hfirst) hlast

/-- What a meter holds of a flow is idle exactly where all that is pending leaves the flow idle. -/
theorem Holds.idle_iff (h : meter.Holds pending) {entry : FlowKey × FlowStats}
    (hentry : entry ∈ meter.table.entries) :
    entry.2.amounts.Idle ↔
      ∀ request ∈ pending, request.LeavesIdle meter.aggregation (entry.1.identity meter.aggregation) := by
  have htells := FlowLog.tells_nil.post h
  rw [List.nil_append] at htells
  simp only [htells.amounts_eq hentry, Postings.idle_total_iff, Request.leavesIdle_iff]
  constructor
  · intro hidle request hrequest posting hposting
    exact hidle posting (List.mem_flatMap.mpr ⟨request, hrequest, hposting⟩)
  · intro hidle posting hposting
    obtain ⟨request, hrequest, hmem⟩ := List.mem_flatMap.mp hposting
    exact hidle request hrequest posting hmem

/-- A meter has a flow exactly where something is pending that is posted to the flow. -/
theorem Holds.mem_identities_iff (h : meter.Holds pending) (identity : FlowIdentity) :
    identity ∈ FlowLog.identities meter.aggregation meter.table.entries ↔
      ∃ request ∈ pending, ∃ posting ∈ request.postings,
        posting.1.identity meter.aggregation = identity := by
  rw [FlowTable.mem_identities_post h]
  simp only [FlowLog.identities, List.map_nil, List.not_mem_nil, false_or, List.mem_map,
    List.mem_flatMap]
  constructor
  · rintro ⟨posting, ⟨request, hrequest, hposting⟩, hidentity⟩
    exact ⟨request, hrequest, posting, hposting, hidentity⟩
  · rintro ⟨request, hrequest, posting, hposting, hidentity⟩
    exact ⟨posting, ⟨request, hrequest, hposting⟩, hidentity⟩

/-- A flush reports a record that tells nothing exactly where a latency is pending whose flow all that is
pending leaves idle. -/
theorem Holds.exists_tellsNothing_iff (h : meter.Holds pending) (resolver : Resolver) :
    (∃ record ∈ (meter.flush resolver).1, record.TellsNothing) ↔
      ∃ key direction nanos, .latency key direction nanos ∈ pending ∧
        ∀ request ∈ pending, request.LeavesIdle meter.aggregation (key.identity meter.aggregation) := by
  constructor
  · rintro ⟨record, hrecord, hnothing⟩
    obtain ⟨entry, hentry, rfl⟩ := List.mem_map.mp hrecord
    have hidle := (h.idle_iff hentry).mp (Record.tellsNothing_addFlow_iff.mp hnothing)
    have hmem : entry.1.identity meter.aggregation ∈
        FlowLog.identities meter.aggregation meter.table.entries := List.mem_map_of_mem hentry
    obtain ⟨request, hrequest, posting, hposting, hidentity⟩ := (h.mem_identities_iff _).mp hmem
    have hpostingIdle := Request.leavesIdle_iff.mp (hidle request hrequest) posting hposting hidentity
    -- What made the flow is no packet, since a packet is never idle.
    rcases Request.cases_of_mem_postings hposting with
      ⟨event, packet, haccounted, rfl⟩ | ⟨key, direction, nanos, rfl, rfl⟩
    · exact absurd hpostingIdle
        (Amounts.not_idle_packetAmounts (Meter.direction_of_accounted haccounted))
    · refine ⟨key, direction, nanos, hrequest, ?_⟩
      rw [hidentity]
      exact hidle
  · rintro ⟨key, direction, nanos, hlatency, hidle⟩
    have hmem := (h.mem_identities_iff (key.identity meter.aggregation)).mpr
      ⟨_, hlatency, _, Request.mem_postings_latency key direction nanos, rfl⟩
    obtain ⟨entry, hentry, hidentity⟩ := List.mem_map.mp hmem
    refine ⟨_, List.mem_map_of_mem hentry, Record.tellsNothing_addFlow_iff.mpr ?_⟩
    rw [h.idle_iff hentry, hidentity]
    exact hidle

end Meter

/-- Whatever a meter takes, the flush behind it reports a record that tells nothing exactly where there was a
latency since the flush before it, and all that came for the flow of this latency since then were latencies
without a direction or of no time. -/
theorem flush_tellsNothing_iff {settings : Settings} {requests : List Request} {answers : List Answer}
    {meter : Meter} (h : (Meter.ofSettings settings).serve requests = .ok (answers, meter))
    (resolver : Resolver) :
    (∃ record ∈ (meter.flush resolver).1, record.TellsNothing) ↔
      ∃ key direction nanos, .latency key direction nanos ∈ Request.sinceFlush requests ∧
        ∀ request ∈ Request.sinceFlush requests,
          request.LeavesIdle settings.aggregation (key.identity settings.aggregation) := by
  have hholds : (Meter.ofSettings settings).Holds [] := rfl
  have haggregation := ((Meter.follows_ofSettings settings).serve h).aggregation
  rw [← haggregation]
  exact (hholds.serve h).exists_tellsNothing_iff resolver

/-- A packet to a server that is reported, and behind the flush latencies: of the flow of the packet one without
a direction and one of no time, and one of another flow that adds to it. -/
def latenciesOfNothing : List Request :=
  let header : Header := { pid := 7, destinationPort := 80 }
  [.event (.ofPacket header ⟨.outbound, .http, .none, 40, []⟩), .flush .nothing,
    .latency (.ofHeader header .client .inet) .none 5, .latency (.ofHeader header .client .inet) .inbound 0,
    .latency { pid := 8 } .inbound 9]

/-- The flow of the packet is there again, and the record of it tells nothing. -/
theorem flush_tellsNothing_iff_latenciesOfNothing :
    ∃ answers meter, (Meter.ofSettings {}).serve latenciesOfNothing = .ok (answers, meter) ∧
      meter.size = 2 ∧ ∃ record ∈ (meter.flush .nothing).1, record.TellsNothing := by
  have hserve : (Meter.ofSettings {}).serve latenciesOfNothing = .ok (_, _) := rfl
  refine ⟨_, _, hserve, rfl, (flush_tellsNothing_iff hserve .nothing).mpr ?_⟩
  have hsince : Request.sinceFlush latenciesOfNothing = latenciesOfNothing.drop 2 := rfl
  rw [hsince]
  refine ⟨_, _, _, List.mem_cons_self, ?_⟩
  simp only [latenciesOfNothing, List.drop_succ_cons, List.drop_zero, List.forall_mem_cons,
    Request.leavesIdle_latency_iff]
  refine ⟨fun _ => .inl trivial, fun _ => .inr trivial, fun hidentity => ?_, List.forall_mem_nil _⟩
  contradiction

/-- A flow that holds something keeps what any request posts, unless it is a latency that adds nothing. -/
theorem FlowProperty.keptBy_not_idle {request : Request} {posting : FlowKey × Amounts}
    (hlatency : ∀ key direction nanos, request = .latency key direction nanos →
      direction ≠ .none ∧ nanos ≠ 0)
    (h : posting ∈ request.postings) : KeptBy (fun _ amounts => ¬amounts.Idle) posting := by
  have hposting : ¬posting.2.Idle := by
    rcases Request.cases_of_mem_postings h with
      ⟨event, packet, haccounted, rfl⟩ | ⟨key, direction, nanos, rfl, rfl⟩
    · exact Amounts.not_idle_packetAmounts (Meter.direction_of_accounted haccounted)
    · rw [Amounts.idle_latency_iff, not_or]
      exact hlatency key direction nanos rfl
  exact ⟨hposting, fun _ _ _ hidle => hposting (Amounts.idle_add_iff.mp hidle).2⟩

/-- Where every latency of a session has a direction and some time, no record that is reported tells nothing. -/
theorem serve_reports_something {settings : Settings} {requests : List Request} {answers : List Answer}
    {meter : Meter}
    (hlatency : ∀ key direction nanos, .latency key direction nanos ∈ requests →
      direction ≠ .none ∧ nanos ≠ 0)
    (h : (Meter.ofSettings settings).serve requests = .ok (answers, meter)) :
    ∀ record ∈ answers.flatMap Answer.reported, ¬record.TellsNothing := by
  have hkept : ∀ request ∈ requests, ∀ posting ∈ request.postings,
      FlowProperty.KeptBy (fun _ amounts => ¬amounts.Idle) posting := by
    intro request hrequest posting hposting
    refine FlowProperty.keptBy_not_idle ?_ hposting
    rintro key direction nanos rfl
    exact hlatency key direction nanos hrequest
  intro record hrecord
  obtain ⟨key, stats, resolver, hflow, rfl⟩ :=
    (Meter.all_of_serve FlowTable.all_nil hkept h).2 record hrecord
  rw [Record.tellsNothing_addFlow_iff]
  exact hflow

/-- Not every session reports records that tell something: a latency without a direction, of a flow that was
reported before, is enough for one that tells nothing. -/
theorem not_serve_reports_something :
    ¬∀ (settings : Settings) (requests : List Request) (answers : List Answer) (meter : Meter),
      (Meter.ofSettings settings).serve requests = .ok (answers, meter) →
        ∀ record ∈ answers.flatMap Answer.reported, ¬record.TellsNothing := by
  intro h
  let header : Header := { pid := 7, destinationPort := 80 }
  have hserve : (Meter.ofSettings {}).serve
      [.event (.ofPacket header ⟨.outbound, .http, .none, 40, []⟩), .flush .nothing,
        .latency (.ofHeader header .client .inet) .none 5, .flush .nothing] = .ok (_, _) := rfl
  have hreported := h _ _ _ _ hserve
  refine hreported (Record.empty.addFlow (.ofHeader header .client .inet) .zero false .nothing) ?_ ?_
  · exact List.mem_cons_of_mem _ List.mem_cons_self
  · rw [Record.tellsNothing_addFlow_iff, FlowStats.amounts_zero]
    exact Amounts.idle_zero

end FlowMeter
