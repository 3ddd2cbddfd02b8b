import FlowMeter.Proofs.Account

/-!
# The order of samples

Between two flushes a meter is given samples: events and latencies. Their order decides which key stands
for a flow and which protocol was last, and nothing else: every order meets an overflow or none does, and
all leave the same flows with the same numbers. What a record shows of a flow that is merged by endpoint
does not depend on the key that stands for it, so the records are the same too.
-/

namespace FlowMeter

namespace FlowIdentity

/-- A key of an inet socket that tells an identity and nothing else. -/
def inetKey : FlowIdentity → FlowKey
  | .socket pid socketHash => { pid, socketHash, socketKind := .inet }
  | .endpoint pid destination destinationPort role =>
    { pid, destination, destinationPort, role, socketKind := .inet }

/-- A key that is merged by endpoint has the identity of the key that tells its identity. -/
theorem identity_inetKey (key : FlowKey) :
    (key.identity .mergedByEndpoint).inetKey.identity .mergedByEndpoint =
      key.identity .mergedByEndpoint := rfl

end FlowIdentity

namespace Record

/-- Without the local port, a record does not show which key stands for a flow that is merged by
endpoint, nor which protocol was last. -/
theorem addFlow_congr {key other : FlowKey} {stats others : FlowStats}
    (hidentity : key.identity .mergedByEndpoint = other.identity .mergedByEndpoint)
    (hkind : key.socketKind = other.socketKind)
    (hcounter : ∀ counter, stats.counter counter = others.counter counter)
    (record : Record) (resolver : Resolver) :
    record.addFlow key stats false resolver = record.addFlow other others false resolver := by
  simp only [FlowKey.identity, FlowIdentity.endpoint.injEq] at hidentity
  obtain ⟨hpid, hdestination, hport, hrole⟩ := hidentity
  have hkey : record.addKey key false resolver = record.addKey other false resolver := by
    simp only [addKey, remoteInfo, serviceMembers, hpid, hdestination, hport, hrole, hkind]
    rfl
  have hsendBytes : stats.sendBytes = others.sendBytes := hcounter .sendBytes
  have hrecvBytes : stats.recvBytes = others.recvBytes := hcounter .recvBytes
  have hsendPackets : stats.sendPackets = others.sendPackets := hcounter .sendPackets
  have hrecvPackets : stats.recvPackets = others.recvPackets := hcounter .recvPackets
  have hsendLatency : stats.sendLatency = others.sendLatency := hcounter .sendLatency
  have hrecvLatency : stats.recvLatency = others.recvLatency := hcounter .recvLatency
  rw [addFlow, addFlow, hkey, addStats, addStats, hsendBytes, hrecvBytes, hsendPackets, hrecvPackets,
    hsendLatency, hrecvLatency]

end Record

namespace FlowLog

/-- The record of an identity of inet sockets whose counters hold some sums. -/
def recordOf (sums : FlowIdentity → FlowCounter → Nat) (resolver : Resolver) (identity : FlowIdentity) :
    Record :=
  Record.empty.addFlow identity.inetKey (.ofAmounts ⟨sums identity, .none⟩) false resolver

/-- The records of a table that is merged by endpoint follow from the identities that it has and the sums
of its log, where the log is about inet sockets only. -/
theorem Tells.records_eq {postings : Postings} {entries : List (FlowKey × FlowStats)}
    (h : Tells .mergedByEndpoint (ofPostings postings) entries)
    (hinet : ∀ posting ∈ postings, posting.1.socketKind = .inet) (resolver : Resolver) :
    entries.map (fun entry => Record.empty.addFlow entry.1 entry.2 false resolver) =
      (identities .mergedByEndpoint entries).map
        (recordOf (fun identity => (Postings.total .mergedByEndpoint postings identity).count)
          resolver) := by
  rw [identities, List.map_map]
  refine List.map_congr_left fun entry hentry => ?_
  have hkind : entry.1.socketKind = .inet := by
    -- The key of an entry is the first one of its identity in the log.
    have hkey := List.mem_of_find?_eq_some (h.first entry hentry)
    rw [ofPostings, List.map_map] at hkey
    obtain ⟨posting, hposting, hkey⟩ := List.mem_map.mp hkey
    rw [← hkey]
    exact hinet posting hposting
  have hcounter : ∀ counter, entry.2.counter counter =
      (FlowStats.ofAmounts ⟨(Postings.total .mergedByEndpoint postings
        (entry.1.identity .mergedByEndpoint)).count, .none⟩).counter counter := by
    intro counter
    rw [FlowStats.counter_ofAmounts, ← h.amounts_eq hentry, FlowStats.toUInt64_count_amounts]
  exact Record.addFlow_congr (FlowIdentity.identity_inetKey entry.1).symm hkind hcounter _ resolver

end FlowLog

namespace FlowTable

variable {aggregation : Aggregation} {postings others : Postings}
  {entries first second : List (FlowKey × FlowStats)}

/-- In which order amounts are posted makes no difference to the overflow. -/
theorem exists_post_of_perm (h : postings.Perm others) :
    (∃ result, post aggregation postings entries = .ok result) ↔
      ∃ result, post aggregation others entries = .ok result := by
  rw [exists_post_iff, exists_post_iff]
  simp only [Postings.count_total_perm h]

/-- In which order amounts are posted makes no difference to the flows that a table has then. -/
theorem mem_identities_post_of_perm (h : postings.Perm others)
    (hfirst : post aggregation postings entries = .ok first)
    (hsecond : post aggregation others entries = .ok second) (identity : FlowIdentity) :
    identity ∈ FlowLog.identities aggregation first ↔
      identity ∈ FlowLog.identities aggregation second := by
  have hpostings : (FlowLog.identities aggregation postings).Perm
      (FlowLog.identities aggregation others) := h.map _
  rw [mem_identities_post hfirst, mem_identities_post hsecond, hpostings.mem_iff]

/-- Tables of the same flows that hold the same of a counter of a flow show the same of it, or nothing. -/
theorem counter_find?_congr {key : FlowKey} {counter : FlowCounter}
    (hidentities : ∀ identity, identity ∈ FlowLog.identities aggregation first ↔
      identity ∈ FlowLog.identities aggregation second)
    (hheld : (held aggregation first key).amounts.count counter =
      (held aggregation second key).amounts.count counter) :
    (find? aggregation key first).map (·.counter counter) =
      (find? aggregation key second).map (·.counter counter) := by
  have hfound : (find? aggregation key first).isSome ↔ (find? aggregation key second).isSome := by
    rw [isSome_find?_iff, isSome_find?_iff]
    exact hidentities _
  unfold held at hheld
  cases hone : find? aggregation key first with
  | none =>
    cases htwo : find? aggregation key second with
    | none => rfl
    | some other => simp [hone, htwo] at hfound
  | some stats =>
    cases htwo : find? aggregation key second with
    | none => simp [hone, htwo] at hfound
    | some other =>
      rw [hone, htwo] at hheld
      exact congrArg some (UInt64.toNat_inj.mp hheld)

/-- In which order amounts are posted makes no difference to the counters of a flow. -/
theorem counter_post_of_perm (h : postings.Perm others)
    (hfirst : post aggregation postings entries = .ok first)
    (hsecond : post aggregation others entries = .ok second) (key : FlowKey) (counter : FlowCounter) :
    (find? aggregation key first).map (·.counter counter) =
      (find? aggregation key second).map (·.counter counter) := by
  refine counter_find?_congr (mem_identities_post_of_perm h hfirst hsecond) ?_
  rw [amounts_held_post hfirst, amounts_held_post hsecond, Amounts.count_add, Amounts.count_add,
    Postings.count_total_perm h]

/-- In which order amounts are posted to an empty table makes no difference to the records of flows of
inet sockets that are merged by endpoint. -/
theorem records_post_of_perm (h : postings.Perm others)
    (hfirst : post .mergedByEndpoint postings [] = .ok first)
    (hsecond : post .mergedByEndpoint others [] = .ok second)
    (hinet : ∀ posting ∈ postings, posting.1.socketKind = .inet) (resolver : Resolver) :
    (first.map fun entry => Record.empty.addFlow entry.1 entry.2 false resolver).Perm
      (second.map fun entry => Record.empty.addFlow entry.1 entry.2 false resolver) := by
  have htells : FlowLog.Tells .mergedByEndpoint (FlowLog.ofPostings postings) first :=
    FlowLog.tells_nil.post hfirst
  have hothers : FlowLog.Tells .mergedByEndpoint (FlowLog.ofPostings others) second :=
    FlowLog.tells_nil.post hsecond
  have hidentities : (FlowLog.identities .mergedByEndpoint first).Perm
      (FlowLog.identities .mergedByEndpoint second) := by
    rw [List.perm_ext_iff_of_nodup htells.distinct hothers.distinct]
    exact mem_identities_post_of_perm h hfirst hsecond
  have hsums : (fun identity => (Postings.total .mergedByEndpoint postings identity).count) =
      fun identity => (Postings.total .mergedByEndpoint others identity).count := by
    funext identity counter
    exact Postings.count_total_perm h identity counter
  rw [htells.records_eq hinet, hothers.records_eq fun posting hposting =>
    hinet posting (h.mem_iff.mpr hposting), hsums]
  exact hidentities.map _

end FlowTable

/-- What samples post is about inet sockets only, where their latencies are. -/
theorem Sample.socketKind_of_mem_postings {sample : Sample} {posting : FlowKey × Amounts}
    (hlatency : ∀ key direction nanos, sample = .latency key direction nanos → key.socketKind = .inet)
    (h : posting ∈ sample.postings) : posting.1.socketKind = .inet := by
  cases sample with
  | event event =>
    obtain ⟨packet, _, rfl⟩ := Meter.mem_eventPostings.mp h
    rfl
  | latency key direction nanos =>
    rw [List.mem_singleton.mp h]
    exact hlatency key direction nanos rfl

/-- The order of samples makes no difference but to the keys that stand for flows and to the protocols
that were last. In every order an overflow is met or in none; else every order leaves the same flows with
the same counters. Where flows are merged by endpoint, from an empty table, with latencies of inet sockets
only and without the local port, the records are the same, whatever their order. -/
theorem takeAll_of_perm (meter : Meter) {samples others : List Sample} (h : samples.Perm others) :
    match meter.takeAll samples, meter.takeAll others with
    | .ok first, .ok second =>
      (∀ identity, identity ∈ FlowLog.identities meter.aggregation first.table.entries ↔
        identity ∈ FlowLog.identities meter.aggregation second.table.entries) ∧
      (∀ key counter,
        (first.get? key).map (·.counter counter) = (second.get? key).map (·.counter counter)) ∧
      (meter.aggregation = .mergedByEndpoint → meter.withLocalPort = false → meter.isEmpty →
        (∀ key direction nanos, .latency key direction nanos ∈ samples → key.socketKind = .inet) →
        ∀ resolver, (first.flush resolver).1.Perm (second.flush resolver).1)
    | .error fault, .error other => fault = .overflow ∧ other = .overflow
    | _, _ => False := by
  have hpostings := h.flatMap_right Sample.postings
  have hexists : (∃ result, FlowTable.post meter.aggregation (samples.flatMap Sample.postings)
        meter.table.entries = .ok result) ↔
      ∃ result, FlowTable.post meter.aggregation (others.flatMap Sample.postings)
        meter.table.entries = .ok result := FlowTable.exists_post_of_perm hpostings
  rw [meter.takeAll_eq, meter.takeAll_eq]
  cases hfirst : FlowTable.post meter.aggregation (samples.flatMap Sample.postings)
      meter.table.entries with
  | error fault =>
    cases hsecond : FlowTable.post meter.aggregation (others.flatMap Sample.postings)
        meter.table.entries with
    | error other =>
      exact ⟨FlowTable.post_onlyOverflow _ _ fault hfirst, FlowTable.post_onlyOverflow _ _ other hsecond⟩
    | ok result =>
      obtain ⟨other, hother⟩ := hexists.mpr ⟨result, hsecond⟩
      rw [hfirst] at hother
      contradiction
  | ok entries =>
    obtain ⟨result, hsecond⟩ := hexists.mp ⟨entries, hfirst⟩
    rw [hsecond]
    refine ⟨FlowTable.mem_identities_post_of_perm hpostings hfirst hsecond,
      FlowTable.counter_post_of_perm hpostings hfirst hsecond, ?_⟩
    intro hmerged hport hempty hinet resolver
    -- From an empty table the entries follow from the postings alone, which are about inet sockets.
    have hstart : meter.table.entries = [] := List.isEmpty_iff.mp hempty
    rw [hstart, hmerged] at hfirst hsecond
    have hsockets : ∀ posting ∈ samples.flatMap Sample.postings, posting.1.socketKind = .inet := by
      intro posting hposting
      obtain ⟨sample, hsample, hmem⟩ := List.mem_flatMap.mp hposting
      refine Sample.socketKind_of_mem_postings (fun key direction nanos hlatency => ?_) hmem
      exact hinet key direction nanos (hlatency ▸ hsample)
    have hrecords := FlowTable.records_post_of_perm hpostings hfirst hsecond hsockets resolver
    rw [← hport] at hrecords
    exact hrecords

/-- A packet each from two local ports of one flow, and a latency of it. -/
def twoPorts : List Sample :=
  let header (sourcePort : UInt16) : Header := { pid := 7, sourcePort, destinationPort := 80 }
  [.event (.ofPacket (header 5001) ⟨.outbound, .http, .request, 10, []⟩),
    .event (.ofPacket (header 5002) ⟨.inbound, .mysql, .response, 20, []⟩),
    .latency (.ofHeader (header 5003) .client .inet) .inbound 5]

/-- The other way round, another local port stands for the flow of two local ports, but its record is the
same. -/
theorem takeAll_of_perm_twoPorts :
    twoPorts.Perm twoPorts.reverse ∧
      ∃ first second, (Meter.ofSettings {}).takeAll twoPorts = .ok first ∧
        (Meter.ofSettings {}).takeAll twoPorts.reverse = .ok second ∧
        first.table.entries.map (·.1.sourcePort) = [5001] ∧
        second.table.entries.map (·.1.sourcePort) = [5003] ∧
        (first.flush .nothing).1.Perm (second.flush .nothing).1 := by
  have hperm : twoPorts.Perm twoPorts.reverse := twoPorts.reverse_perm.symm
  have hfirst : (Meter.ofSettings {}).takeAll twoPorts = .ok _ := rfl
  have hsecond : (Meter.ofSettings {}).takeAll twoPorts.reverse = .ok _ := rfl
  have hinet : ∀ key direction nanos, .latency key direction nanos ∈ twoPorts →
      key.socketKind = .inet := by
    intro key direction nanos hmem
    simp only [twoPorts, List.mem_cons, List.not_mem_nil, or_false, reduceCtorEq, false_or,
      Sample.latency.injEq] at hmem
    rw [hmem.1]
    rfl
  have horder := takeAll_of_perm (Meter.ofSettings {}) hperm
  rw [hfirst, hsecond] at horder
  obtain ⟨_, _, hrecords⟩ := horder
  exact ⟨hperm, _, _, hfirst, hsecond, rfl, rfl, hrecords rfl rfl rfl hinet .nothing⟩

end FlowMeter
