import FlowMeter.Proofs.Balance

/-!
# How much a meter takes between flushes

A packet tells its length in 32 bits, and adds to a counter of its flow its length or one. So what a flow
holds is at most the greatest length for each packet since the last flush, and 2 ^ 32 + 1 packets fit a
counter of 64 bits, whatever they are and however they come. One packet more need not fit: as many
packets of one flow, all of the greatest length, are an overflow.
-/

namespace FlowMeter

/-- The greatest length that a packet tells. -/
def Packet.maxLength : Nat := 2 ^ 32 - 1

namespace Request

/-- Whether a request gives a latency. -/
def isLatency : Request → Bool
  | .latency .. => true
  | _ => false

/-- How many events are accounted since the last flush, where it were so many in front of a request. -/
def accountedAfter (count : Nat) : Request → Nat
  | .flush _ => 0
  | request => count + request.events.countP fun event => (Meter.accounted event).isSome

/-- A request that does not flush adds its accounted events. -/
theorem accountedAfter_of_not_flush (count : Nat) {request : Request} (h : request.isFlush = false) :
    request.accountedAfter count =
      count + request.events.countP fun event => (Meter.accounted event).isSome := by
  cases request with
  | flush resolver => contradiction
  | _ => rfl

/-- A request without a latency posts its events only. -/
theorem postings_of_not_latency {request : Request} (h : request.isLatency = false) :
    request.postings = request.events.flatMap Meter.eventPostings := by
  cases request with
  | latency key direction nanos => contradiction
  | _ => exact List.append_nil _

end Request

namespace Postings

/-- Postings that add at most so much each add at most that often so much to an identity. -/
theorem count_total_le {postings : Postings} {counter : FlowCounter} {bound : Nat}
    (h : ∀ posting ∈ postings, posting.2.count counter ≤ bound) (aggregation : Aggregation)
    (identity : FlowIdentity) :
    (total aggregation postings identity).count counter ≤ postings.length * bound := by
  induction postings with
  | nil => exact Nat.zero_le _
  | cons posting rest ih =>
    obtain ⟨key, amounts⟩ := posting
    obtain ⟨hfirst, hrest⟩ := List.forall_mem_cons.mp h
    have hlater := ih hrest
    rw [List.length_cons, Nat.succ_mul]
    by_cases hidentity : key.identity aggregation = identity
    · rw [← hidentity] at hlater ⊢
      rw [total_cons_self, Amounts.count_add, Nat.add_comm]
      exact Nat.add_le_add hlater hfirst
    · rw [total_cons_of_ne _ _ hidentity]
      exact hlater.trans (Nat.le_add_right _ _)

end Postings

namespace Meter

/-- A packet adds the greatest length at most to every counter. -/
theorem count_packetAmounts_le (packet : Packet) (counter : FlowCounter) :
    (packetAmounts packet).count counter ≤ Packet.maxLength := by
  have hlength : packet.realLength.toUInt64.toNat ≤ Packet.maxLength := by
    rw [UInt32.toNat_toUInt64]
    exact Nat.le_sub_one_of_lt packet.realLength.toNat_lt
  have hone : (1 : UInt64).toNat ≤ Packet.maxLength := by decide
  have hzero : (0 : UInt64).toNat ≤ Packet.maxLength := Nat.zero_le _
  by_cases hprotocol : counter = .protocolMatched ∨ counter = .protocolUnmatched
  · -- The packet itself counts for no protocol, so the recognised one is all that these counters see.
    have hpacket :
        (FlowUpdate.packet packet.direction packet.realLength.toUInt64).added.counter counter = 0 := by
      rcases hprotocol with rfl | rfl <;> cases packet.direction <;> rfl
    have hrecognised : ((FlowUpdate.recognised packet.protocol).added.counter counter).toNat ≤
        Packet.maxLength := by
      rw [FlowUpdate.added]
      rcases hprotocol with rfl | rfl <;> split <;> first | exact hone | exact hzero
    rw [packetAmounts, FlowUpdate.amounts, Amounts.count_sum]
    simpa [FlowStats.amounts, hpacket] using hrecognised
  · obtain ⟨hmatched, hunmatched⟩ := not_or.mp hprotocol
    rw [count_packetAmounts packet hmatched hunmatched]
    cases packet.direction <;> cases counter <;> first | exact hlength | exact hone | exact hzero

/-- An event posts something exactly where it is accounted. -/
theorem length_flatMap_eventPostings (events : List Event) :
    (events.flatMap eventPostings).length = events.countP fun event => (accounted event).isSome := by
  induction events with
  | nil => rfl
  | cons event rest ih =>
    rw [List.flatMap_cons, List.length_append, ih, countP_cons_toNat, eventPostings]
    cases accounted event <;> rfl

/-- A meter none of whose flows holds more than so many packets add. -/
def Within (meter : Meter) (count : Nat) : Prop :=
  ∀ key counter, (FlowTable.held meter.aggregation meter.table.entries key).amounts.count counter ≤
    count * Packet.maxLength

variable {meter next : Meter} {request : Request} {given : Answer} {count : Nat}

/-- Without flows a meter holds nothing. -/
theorem within_of_entries_eq_nil (h : meter.table.entries = []) (count : Nat) : meter.Within count := by
  intro key counter
  have hheld : FlowTable.held meter.aggregation meter.table.entries key = .zero := by rw [h]; rfl
  rw [hheld, FlowStats.amounts_zero]
  exact Nat.zero_le _

/-- What the events of a request post to a flow is at most the greatest length for each that is accounted. -/
theorem count_total_postings_le (hlatency : request.isLatency = false) (aggregation : Aggregation)
    (identity : FlowIdentity) (counter : FlowCounter) :
    (Postings.total aggregation request.postings identity).count counter ≤
      (request.events.countP fun event => (accounted event).isSome) * Packet.maxLength := by
  rw [Request.postings_of_not_latency hlatency, ← length_flatMap_eventPostings]
  refine Postings.count_total_le (fun posting hposting => ?_) aggregation identity
  obtain ⟨event, _, hevent⟩ := List.mem_flatMap.mp hposting
  obtain ⟨packet, _, rfl⟩ := mem_eventPostings.mp hevent
  exact count_packetAmounts_le packet counter

/-- What a request leaves is within the packets that are accounted then. -/
theorem Within.answer (h : meter.Within count) (hlatency : request.isLatency = false)
    (hnext : meter.answer request = .ok (given, next)) :
    next.Within (request.accountedAfter count) := by
  cases hflush : request.isFlush with
  | true =>
    cases request with
    | flush resolver =>
      obtain ⟨_, rfl⟩ := Prod.mk.inj (Except.ok.inj hnext)
      exact within_of_entries_eq_nil rfl _
    | _ => contradiction
  | false =>
    rw [Within, request.accountedAfter_of_not_flush count hflush]
    rcases answer_cases hnext with
      ⟨⟨entries, hentries, rfl⟩, _, _⟩ | ⟨rfl, _, rfl⟩ | ⟨resolver, rfl, _, _⟩
    · intro key counter
      change (FlowTable.held meter.aggregation entries key).amounts.count counter ≤ _
      rw [FlowTable.amounts_held_post hentries, Amounts.count_add, Nat.add_mul]
      exact Nat.add_le_add (h key counter) (count_total_postings_le hlatency _ _ _)
    · exact h
    · contradiction

/-- A request is answered where the packets that are accounted then are few enough. -/
theorem Within.exists_answer (h : meter.Within count) (hlatency : request.isLatency = false)
    (hcount : count + (request.events.countP fun event => (accounted event).isSome) ≤ 2 ^ 32 + 1) :
    ∃ given next, meter.answer request = .ok (given, next) := by
  have hfits : ∀ key counter,
      (FlowTable.held meter.aggregation meter.table.entries key).amounts.count counter +
        (Postings.total meter.aggregation request.postings (key.identity meter.aggregation)).count
          counter < UInt64.size := by
    intro key counter
    calc
      _ ≤ count * Packet.maxLength +
          (request.events.countP fun event => (accounted event).isSome) * Packet.maxLength :=
        Nat.add_le_add (h key counter) (count_total_postings_le hlatency _ _ _)
      _ ≤ (2 ^ 32 + 1) * Packet.maxLength := by
        rw [← Nat.add_mul]
        exact Nat.mul_le_mul_right _ hcount
      _ < UInt64.size := by decide
  obtain ⟨entries, hentries⟩ := FlowTable.exists_post_iff.mpr hfits
  exact exists_answer_of_post hentries

/-- A session is served to its end where the packets between flushes are few enough at every request. -/
theorem Within.exists_serve {requests : List Request} (h : meter.Within count)
    (hlatency : ∀ request ∈ requests, request.isLatency = false)
    (hcount : ∀ front, front <+: requests →
      front.foldl Request.accountedAfter count ≤ 2 ^ 32 + 1) :
    ∃ answers after, meter.serve requests = .ok (answers, after) := by
  -- The count goes on with every request, so the rest starts from the count behind the first one.
  induction requests generalizing meter count with
  | nil => exact ⟨[], meter, rfl⟩
  | cons request rest ih =>
    obtain ⟨hfirst, hrest⟩ := List.forall_mem_cons.mp hlatency
    have hanswered : ∃ given next, meter.answer request = .ok (given, next) := by
      cases hflush : request.isFlush with
      | true =>
        cases request with
        | flush resolver => exact ⟨_, _, rfl⟩
        | _ => contradiction
      | false =>
        have hone := hcount [request] (List.prefix_append [request] rest)
        rw [List.foldl_cons, List.foldl_nil, request.accountedAfter_of_not_flush count hflush] at hone
        exact h.exists_answer hfirst hone
    obtain ⟨given, next, hnext⟩ := hanswered
    have hlater : ∀ front, front <+: rest →
        front.foldl Request.accountedAfter (request.accountedAfter count) ≤ 2 ^ 32 + 1 :=
      fun front hfront => hcount (request :: front) ((List.prefix_cons_inj request).mpr hfront)
    obtain ⟨answers, after, hafter⟩ := ih (h.answer hfirst hnext) hrest hlater
    exact ⟨given :: answers, after, by rw [serve, hnext]; simp [bind, Except.bind, hafter]; rfl⟩

end Meter

end FlowMeter
