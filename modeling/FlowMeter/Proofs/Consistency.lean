import FlowMeter.Proofs.Invariant

/-!
# Flows are consistent

The counters of a flow agree with each other although they are moved apart: every packet that is counted is
matched with a protocol or not, a protocol is told where one was matched, no packet has more bytes than a
length tells, and what is never counted stays zero. Sums of consistent amounts are consistent, and packets and
latencies post such amounts. So the flows of a meter are consistent after every session, and so are those of a
table that takes the flows of another one.
-/

namespace FlowMeter

/-- Amounts that agree with each other. -/
structure Amounts.Consistent (amounts : Amounts) : Prop where
  packets : amounts.count .sendPackets + amounts.count .recvPackets =
    amounts.count .protocolMatched + amounts.count .protocolUnmatched
  protocol : amounts.protocol ≠ .none ↔ 0 < amounts.count .protocolMatched
  sendBytes : amounts.count .sendBytes ≤ amounts.count .sendPackets * (2 ^ 32 - 1)
  recvBytes : amounts.count .recvBytes ≤ amounts.count .recvPackets * (2 ^ 32 - 1)
  uncounted : ∀ counter ∈ FlowCounter.uncounted, amounts.count counter = 0

namespace Amounts

variable {a b : Amounts}

/-- A protocol is told of a sum where it is told of one of its parts. -/
theorem protocol_add_ne_none_iff :
    (a + b).protocol ≠ .none ↔ a.protocol ≠ .none ∨ b.protocol ≠ .none := by
  rw [protocol_add, FlowStats.laterProtocol]
  by_cases hb : b.protocol = .none
  · simp [hb]
  · simp [hb]

/-- Sums of consistent amounts are consistent. -/
theorem Consistent.add (ha : a.Consistent) (hb : b.Consistent) : (a + b).Consistent where
  packets := by
    have hfirst := ha.packets
    have hsecond := hb.packets
    simp only [count_add]
    omega
  protocol := by
    rw [protocol_add_ne_none_iff, ha.protocol, hb.protocol, count_add]
    omega
  sendBytes := by
    have hsum := Nat.add_le_add ha.sendBytes hb.sendBytes
    rwa [← Nat.add_mul] at hsum
  recvBytes := by
    have hsum := Nat.add_le_add ha.recvBytes hb.recvBytes
    rwa [← Nat.add_mul] at hsum
  uncounted counter hcounter := by
    rw [count_add, ha.uncounted counter hcounter, hb.uncounted counter hcounter]

/-- A latency is consistent: it counts no packet and tells no protocol. -/
theorem consistent_latency (direction : Direction) (nanos : UInt64) :
    (FlowUpdate.latency direction nanos).added.amounts.Consistent := by
  have hprotocol : (FlowUpdate.latency direction nanos).added.amounts.protocol = .none := by
    cases direction <;> rfl
  have hzero (counter : FlowCounter) (hsend : counter ≠ .sendLatency) (hrecv : counter ≠ .recvLatency) :
      (FlowUpdate.latency direction nanos).added.amounts.count counter = 0 := by
    cases direction <;> cases counter <;> first | contradiction | rfl
  constructor
  · simp [hzero]
  · simp [hzero, hprotocol]
  · simp [hzero]
  · simp [hzero]
  · simp [hzero, FlowCounter.uncounted]

/-- A packet tells its protocol, and is matched with it or not. -/
theorem protocol_packetAmounts (packet : Packet) :
    (Meter.packetAmounts packet).protocol = packet.protocol ∧
      (Meter.packetAmounts packet).count .protocolMatched = (if packet.protocol = .none then 0 else 1) ∧
      (Meter.packetAmounts packet).count .protocolUnmatched = if packet.protocol = .none then 1 else 0 := by
  obtain ⟨direction, protocol, message, realLength, payload⟩ := packet
  by_cases hprotocol : protocol = .none
  · subst hprotocol
    cases direction <;> exact ⟨rfl, rfl, rfl⟩
  · simp only [Meter.packetAmounts, FlowUpdate.amounts, List.map_cons, List.map_nil, List.sum_cons,
      List.sum_nil, add_zero, FlowUpdate.added, if_neg hprotocol]
    cases direction <;> exact ⟨none_laterProtocol protocol, rfl, rfl⟩

/-- A packet has no more bytes than a length tells, and has them where it is counted. -/
theorem bytes_packetAmounts_le (packet : Packet) :
    (Meter.packetAmounts packet).count .sendBytes ≤
        (Meter.packetAmounts packet).count .sendPackets * (2 ^ 32 - 1) ∧
      (Meter.packetAmounts packet).count .recvBytes ≤
        (Meter.packetAmounts packet).count .recvPackets * (2 ^ 32 - 1) := by
  have hlength : packet.realLength.toUInt64.toNat ≤ 1 * (2 ^ 32 - 1) := by
    have hbound := packet.realLength.toNat_lt
    rw [UInt32.toNat_toUInt64]
    omega
  have hcount {counter : FlowCounter} (hmatched : counter ≠ .protocolMatched)
      (hunmatched : counter ≠ .protocolUnmatched) := Meter.count_packetAmounts packet hmatched hunmatched
  rw [hcount (by decide) (by decide), hcount (by decide) (by decide), hcount (by decide) (by decide),
    hcount (by decide) (by decide)]
  cases packet.direction with
  | none => exact ⟨Nat.zero_le _, Nat.zero_le _⟩
  | inbound => exact ⟨Nat.zero_le _, hlength⟩
  | outbound => exact ⟨hlength, Nat.zero_le _⟩

/-- A packet with a direction is consistent: it is counted once, and matched or not. -/
theorem consistent_packetAmounts {packet : Packet} (h : packet.direction ≠ .none) :
    (Meter.packetAmounts packet).Consistent := by
  obtain ⟨hprotocol, hmatched, hunmatched⟩ := protocol_packetAmounts packet
  obtain ⟨hsend, hrecv⟩ := bytes_packetAmounts_le packet
  constructor
  · rw [Meter.packets_packetAmounts h, hmatched, hunmatched]
    split <;> rfl
  · rw [hprotocol, hmatched]
    split <;> simp_all
  · exact hsend
  · exact hrecv
  · intro counter hcounter
    apply Meter.count_packetAmounts_eq_zero
    exact List.mem_append_right _ hcounter

end Amounts

/-- A table that takes the flows of another one has consistent flows where both have. -/
theorem FlowTable.consistent_mergeFrom {aggregation : Aggregation}
    {table other merged left : FlowTable aggregation}
    (htable : All (fun _ => Amounts.Consistent) table.entries)
    (hother : All (fun _ => Amounts.Consistent) other.entries)
    (h : table.mergeFrom other = .ok (merged, left)) :
    All (fun _ => Amounts.Consistent) (merged.entries ++ left.entries) := by
  rw [mergeFrom_eq] at h
  obtain ⟨entries, hentries, hpair⟩ := exists_of_map_eq_ok h
  obtain ⟨rfl, rfl⟩ := Prod.mk.inj hpair
  have hpostings : ∀ posting ∈ Postings.ofEntries other.entries,
      FlowProperty.KeptBy (fun _ => Amounts.Consistent) posting := by
    intro posting hposting
    obtain ⟨entry, hentry, rfl⟩ := List.mem_map.mp hposting
    exact FlowProperty.keptBy_of_add (fun _ _ => Amounts.Consistent.add) (hother entry hentry)
  have hmerged := htable.post hpostings hentries
  rwa [← List.append_nil entries] at hmerged

/-- What a request posts is consistent. -/
theorem Request.consistent_postings {request : Request} {posting : FlowKey × Amounts}
    (h : posting ∈ request.postings) : posting.2.Consistent := by
  rcases cases_of_mem_postings h with
    ⟨event, packet, haccounted, rfl⟩ | ⟨key, direction, nanos, _, rfl⟩
  · exact Amounts.consistent_packetAmounts (Meter.direction_of_accounted haccounted)
  · exact Amounts.consistent_latency direction nanos

/-- The flows of a meter are consistent after every session; and a table that takes the flows of another one
has consistent flows where both have. -/
theorem serve_consistent {settings : Settings} {requests : List Request} {answers : List Answer}
    {meter : Meter} (h : (Meter.ofSettings settings).serve requests = .ok (answers, meter)) :
    (∀ entry ∈ meter.table.entries, entry.2.amounts.Consistent) ∧
      ∀ (aggregation : Aggregation) (table other merged left : FlowTable aggregation),
        (∀ entry ∈ table.entries, entry.2.amounts.Consistent) →
        (∀ entry ∈ other.entries, entry.2.amounts.Consistent) →
        table.mergeFrom other = .ok (merged, left) →
        ∀ entry ∈ merged.entries ++ left.entries, entry.2.amounts.Consistent := by
  constructor
  · have hkept : ∀ request ∈ requests, ∀ posting ∈ request.postings,
        FlowProperty.KeptBy (fun _ => Amounts.Consistent) posting :=
      fun request _ posting hposting =>
        FlowProperty.keptBy_of_add (fun _ _ => Amounts.Consistent.add)
          (Request.consistent_postings hposting)
    exact (Meter.all_of_serve FlowTable.all_nil hkept h).1
  · intro aggregation table other merged left htable hother hmerged
    exact FlowTable.consistent_mergeFrom htable hother hmerged

/-- A packet that tells a protocol and one that tells none, and latencies without a direction: one of the flow
of the packets, and one of another flow. -/
def undirectedLatencies : List Request :=
  let header : Header := { pid := 7, destinationPort := 80 }
  [.event (.ofPacket header ⟨.outbound, .http, .none, 40, []⟩),
    .event (.ofPacket header ⟨.inbound, .none, .none, 20, []⟩),
    .latency (.ofHeader header .client .inet) .none 5, .latency { pid := 8 } .none 9]

/-- The flow of the packets and the empty flow are consistent, and so they are when they are taken twice. -/
theorem serve_consistent_undirectedLatencies :
    ∃ answers meter, (Meter.ofSettings {}).serve undirectedLatencies = .ok (answers, meter) ∧
      meter.size = 2 ∧ (∀ entry ∈ meter.table.entries, entry.2.amounts.Consistent) ∧
      ∃ merged left, meter.table.mergeFrom meter.table = .ok (merged, left) ∧
        merged.entries.map (·.2.sendBytes) = [80, 0] ∧
        ∀ entry ∈ merged.entries ++ left.entries, entry.2.amounts.Consistent := by
  have hserve : (Meter.ofSettings {}).serve undirectedLatencies = .ok (_, _) := rfl
  obtain ⟨hflows, hmerge⟩ := serve_consistent hserve
  exact ⟨_, _, hserve, rfl, hflows, _, _, rfl, rfl, hmerge _ _ _ _ _ hflows hflows rfl⟩

end FlowMeter
