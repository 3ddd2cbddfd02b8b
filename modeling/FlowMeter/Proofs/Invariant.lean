import FlowMeter.Proofs.Balance

/-!
# What flows keep

A table is changed by postings only, so that what they keep every flow keeps. A posting keeps a property of
flows where it gives it to a new flow, and leaves it to a flow that has it. What all postings of a session
keep holds of every flow of the meter at its end, and of every flow that a record was made of.
-/

namespace FlowMeter

/-- The counters that latencies move. -/
def FlowCounter.latencies : List FlowCounter := [.sendLatency, .recvLatency]

/-- The counters that neither packets nor latencies move. -/
def FlowCounter.uncounted : List FlowCounter :=
  [.sendRetransmissions, .recvRetransmissions, .sendZeroWindows, .recvZeroWindows]

/-- A property of flows, of the key and what is held. -/
abbrev FlowProperty := FlowKey → Amounts → Prop

/-- A posting that keeps a property: a flow that it makes has the property, and so has every flow that it
is added to if it had it before. -/
structure FlowProperty.KeptBy (property : FlowProperty) (posting : FlowKey × Amounts) : Prop where
  made : property posting.1 posting.2
  added : ∀ key held, property key held → property key (held + posting.2)

/-- A property of what is held that sums keep is kept by what has it. -/
theorem FlowProperty.keptBy_of_add {property : Amounts → Prop}
    (hadd : ∀ a b, property a → property b → property (a + b)) {posting : FlowKey × Amounts}
    (h : property posting.2) : KeptBy (fun _ => property) posting where
  made := h
  added _ held hheld := hadd held posting.2 hheld h

namespace FlowTable

variable {aggregation : Aggregation} {property : FlowProperty}
  {entries result : List (FlowKey × FlowStats)}

/-- All entries have a property. -/
def All (property : FlowProperty) (entries : List (FlowKey × FlowStats)) : Prop :=
  ∀ entry ∈ entries, property entry.1 entry.2.amounts

/-- All entries of a table without flows have every property. -/
theorem all_nil : All property [] :=
  List.forall_mem_nil _

/-- What a posting keeps all entries keep. -/
theorem All.alterEntries {posting : FlowKey × Amounts} (hentries : All property entries)
    (hposting : property.KeptBy posting)
    (h : alterEntries aggregation posting.1 (·.plus posting.2) entries = .ok result) :
    All property result := by
  intro entry hentry
  rcases alterEntries_cases h with
    ⟨front, first, stats, changed, rest, rfl, _, hchanged, rfl⟩ | ⟨_, changed, hchanged, rfl⟩
  · rw [List.mem_append, List.mem_cons] at hentry
    rcases hentry with hfront | rfl | hrest
    · exact hentries entry (List.mem_append_left _ hfront)
    · have hfirst := hentries (first, stats) (List.mem_append_right _ List.mem_cons_self)
      have hsum := hposting.added first stats.amounts hfirst
      rwa [← FlowStats.plus_eq_ok_iff.mp hchanged] at hsum
    · exact hentries entry (List.mem_append_right _ (List.mem_cons_of_mem _ hrest))
  · rcases List.mem_append.mp hentry with hold | hnew
    · exact hentries entry hold
    · obtain rfl := List.mem_singleton.mp hnew
      have hmade := hposting.made
      rwa [← zero_add posting.2, ← FlowStats.amounts_zero, ← FlowStats.plus_eq_ok_iff.mp hchanged]
        at hmade

/-- What all postings keep all entries keep. -/
theorem All.post {postings : Postings} (hentries : All property entries)
    (hpostings : ∀ posting ∈ postings, property.KeptBy posting)
    (h : post aggregation postings entries = .ok result) : All property result := by
  induction postings generalizing entries with
  | nil =>
    obtain rfl := Except.ok.inj h
    exact hentries
  | cons posting rest ih =>
    obtain ⟨hfirst, hrest⟩ := List.forall_mem_cons.mp hpostings
    obtain ⟨between, hbetween, hlater⟩ := exists_of_bind_eq_ok h
    exact ih (hentries.alterEntries hfirst hbetween) hrest hlater

end FlowTable

namespace Request

/-- What a request posts is a packet of one of its events, or its latency. -/
theorem cases_of_mem_postings {request : Request} {posting : FlowKey × Amounts}
    (h : posting ∈ request.postings) :
    (∃ event packet, Meter.accounted event = some packet ∧
      posting = (Meter.keyOf event.header packet, Meter.packetAmounts packet)) ∨
    ∃ key direction nanos, request = .latency key direction nanos ∧
      posting = (key, (FlowUpdate.latency direction nanos).added.amounts) := by
  rcases List.mem_append.mp h with hevents | hlatency
  · obtain ⟨event, _, hevent⟩ := List.mem_flatMap.mp hevents
    obtain ⟨packet, haccounted, hposting⟩ := Meter.mem_eventPostings.mp hevent
    exact .inl ⟨event, packet, haccounted, hposting⟩
  · cases request with
    | latency key direction nanos =>
      exact .inr ⟨key, direction, nanos, rfl, List.mem_singleton.mp hlatency⟩
    | _ => contradiction

end Request

namespace Meter

/-- A packet has no part in the counters of latencies, and in those that nothing moves. -/
theorem count_packetAmounts_eq_zero (packet : Packet) {counter : FlowCounter}
    (h : counter ∈ FlowCounter.latencies ++ FlowCounter.uncounted) :
    (packetAmounts packet).count counter = 0 := by
  have hprotocol : counter ≠ .protocolMatched ∧ counter ≠ .protocolUnmatched := by
    constructor <;> rintro rfl <;> exact absurd h (by decide)
  rw [count_packetAmounts packet hprotocol.1 hprotocol.2]
  cases packet.direction <;> cases counter <;> first | exact absurd h (by decide) | rfl

variable {property : FlowProperty} {meter next : Meter}

/-- What all postings of a request keep all flows keep, and a record is made of a flow that has it. -/
theorem all_of_answer {request : Request} {given : Answer}
    (hmeter : FlowTable.All property meter.table.entries)
    (hrequest : ∀ posting ∈ request.postings, property.KeptBy posting)
    (h : meter.answer request = .ok (given, next)) :
    FlowTable.All property next.table.entries ∧ next.withLocalPort = meter.withLocalPort ∧
      ∀ record ∈ given.reported, ∃ key stats resolver, property key stats.amounts ∧
        record = Record.empty.addFlow key stats meter.withLocalPort resolver := by
  rcases answer_cases h with
    ⟨⟨entries, hentries, rfl⟩, hreported, _⟩ | ⟨rfl, rfl, rfl⟩ | ⟨resolver, rfl, rfl, rfl⟩
  · refine ⟨hmeter.post hrequest hentries, rfl, ?_⟩
    rw [hreported]
    exact List.forall_mem_nil _
  · exact ⟨hmeter, rfl, List.forall_mem_nil _⟩
  · refine ⟨FlowTable.all_nil, rfl, fun record hrecord => ?_⟩
    obtain ⟨⟨key, stats⟩, hentry, rfl⟩ := List.mem_map.mp hrecord
    exact ⟨key, stats, resolver, hmeter (key, stats) hentry, rfl⟩

/-- What all postings of a session keep holds of all flows at its end, and of the flow of every record. -/
theorem all_of_serve {requests : List Request} {answers : List Answer}
    (hmeter : FlowTable.All property meter.table.entries)
    (hrequests : ∀ request ∈ requests, ∀ posting ∈ request.postings, property.KeptBy posting)
    (h : meter.serve requests = .ok (answers, next)) :
    FlowTable.All property next.table.entries ∧
      ∀ record ∈ answers.flatMap Answer.reported, ∃ key stats resolver, property key stats.amounts ∧
        record = Record.empty.addFlow key stats meter.withLocalPort resolver := by
  induction requests generalizing meter answers with
  | nil =>
    obtain ⟨rfl, rfl⟩ := Prod.mk.inj (Except.ok.inj h)
    exact ⟨hmeter, List.forall_mem_nil _⟩
  | cons request rest ih =>
    obtain ⟨first, between, later, hfirst, hlast, rfl⟩ := exists_of_serve_cons h
    obtain ⟨hrequest, hrest⟩ := List.forall_mem_cons.mp hrequests
    obtain ⟨hbetween, hport, hfirstRecords⟩ := all_of_answer hmeter hrequest hfirst
    obtain ⟨hnext, hlaterRecords⟩ := ih hbetween hrest hlast
    refine ⟨hnext, fun record hrecord => ?_⟩
    rw [List.flatMap_cons, List.mem_append] at hrecord
    rcases hrecord with hrecord | hrecord
    · exact hfirstRecords record hrecord
    · rw [← hport]
      exact hlaterRecords record hrecord

end Meter

end FlowMeter
