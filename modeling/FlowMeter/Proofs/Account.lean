import FlowMeter.Proofs.Posting
import FlowMeter.Proofs.Stream

/-!
# Accounts

Whatever a meter accounts is posted to its table: the packet of an event under the key of its header, a
latency under its own key. An event that is ignored posts nothing and is counted. Events and latencies are
the samples of a meter; taking samples one after the other posts what each of them posts.
-/

namespace FlowMeter

/-- A list has as many members of a kind as its rest, and its head where that is of the kind. -/
theorem countP_cons_toNat {A : Type} (p : A → Bool) (a : A) (rest : List A) :
    (a :: rest).countP p = (p a).toNat + rest.countP p := by
  cases h : p a <;> simp [h, Nat.add_comm]

namespace Meter

/-- What a packet adds to its flow. -/
def packetAmounts (packet : Packet) : Amounts :=
  FlowUpdate.amounts
    [.packet packet.direction packet.realLength.toUInt64, .recognised packet.protocol]

/-- What an event posts: its packet, where that is accounted. -/
def eventPostings (event : Event) : Postings :=
  match accounted event with
  | some packet => [(keyOf event.header packet, packetAmounts packet)]
  | none => []

/-- What an event posts is its packet that is accounted, under the key of the packet. -/
theorem mem_eventPostings {event : Event} {posting : FlowKey × Amounts} :
    posting ∈ eventPostings event ↔ ∃ packet, accounted event = some packet ∧
      posting = (keyOf event.header packet, packetAmounts packet) := by
  rw [eventPostings]
  cases accounted event <;> simp

/-- Counting a packet adds its amounts. -/
theorem countPacket_eq_plus (packet : Packet) (stats : FlowStats) :
    countPacket packet stats = stats.plus (packetAmounts packet) := by
  rw [packetAmounts, ← FlowUpdate.applyAll_eq_plus]
  simp only [FlowUpdate.applyAll, List.foldlM_cons, List.foldlM_nil, bind_pure]
  rfl

/-- Whether an event is ignored. -/
def isIgnored (event : Event) : Bool :=
  (accounted event).isNone

/-- A meter with other entries that has read, dropped and ignored some more. -/
def settle (meter : Meter) (read dropped ignored : Nat) (entries : List (FlowKey × FlowStats)) : Meter :=
  { meter with
    table := ⟨entries⟩
    counters := { meter.counters with
      decoded := meter.counters.decoded + read.toUInt64
      dropped := meter.counters.dropped + dropped.toUInt64
      ignored := meter.counters.ignored + ignored.toUInt64 } }

/-- A meter that is settled twice is settled by the sums. -/
theorem settle_settle (meter : Meter) (read dropped ignored read' dropped' ignored' : Nat)
    (entries : List (FlowKey × FlowStats)) :
    (meter.settle read dropped ignored entries).settle read' dropped' ignored' =
      meter.settle (read + read') (dropped + dropped') (ignored + ignored') := by
  funext others
  simp only [settle, Nat.toUInt64_eq, UInt64.ofNat_add, UInt64.add_assoc]

/-- What is posted to a flow of a meter is posted to its table. -/
theorem alter_plus_eq (meter : Meter) (key : FlowKey) (amounts : Amounts) :
    meter.alter key (·.plus amounts) =
      (FlowTable.post meter.aggregation [(key, amounts)] meter.table.entries).map
        (meter.settle 0 0 0) := by
  rw [FlowTable.post, List.foldlM_cons, alter, FlowTable.alter]
  cases FlowTable.alterEntries meter.aggregation key (·.plus amounts) meter.table.entries with
  | error fault => rfl
  | ok entries => simp [Except.map, bind, Except.bind, pure, Except.pure, settle]

/-- An event posts its packet, or is ignored. -/
theorem onEvent_eq (meter : Meter) (event : Event) :
    meter.onEvent event =
      (FlowTable.post meter.aggregation (eventPostings event) meter.table.entries).map
        (meter.settle 0 0 (isIgnored event).toNat) := by
  rw [onEvent, eventPostings, isIgnored]
  cases accounted event with
  | none => simp [FlowTable.post, Except.map, pure, Except.pure, settle]
  | some packet =>
    have hcount : countPacket packet = fun stats => stats.plus (packetAmounts packet) :=
      funext (countPacket_eq_plus packet)
    simp only [hcount]
    exact meter.alter_plus_eq _ _

/-- A latency posts itself. -/
theorem addLatency_eq (meter : Meter) (key : FlowKey) (direction : Direction) (nanos : UInt64) :
    meter.addLatency key direction nanos =
      (FlowTable.post meter.aggregation [(key, (FlowUpdate.latency direction nanos).added.amounts)]
        meter.table.entries).map (meter.settle 0 0 0) := by
  have hlatency : (fun stats : FlowStats => stats.addLatency direction nanos) =
      fun stats => stats.plus (FlowUpdate.latency direction nanos).added.amounts :=
    funext fun stats => FlowUpdate.apply_eq_plus stats (.latency direction nanos)
  rw [addLatency, hlatency]
  exact meter.alter_plus_eq _ _

end Meter

/-- What a meter is given between flushes. -/
inductive Sample where
  | event (event : Event)
  | latency (key : FlowKey) (direction : Direction) (nanos : UInt64)

namespace Sample

/-- What a sample posts. -/
def postings : Sample → Postings
  | .event given => Meter.eventPostings given
  | .latency key direction nanos => [(key, (FlowUpdate.latency direction nanos).added.amounts)]

/-- Whether a sample is an event that is ignored. -/
def isIgnored : Sample → Bool
  | .event given => Meter.isIgnored given
  | .latency .. => false

end Sample

namespace Meter

/-- Takes a sample. -/
def take (meter : Meter) : Sample → Except Fault Meter
  | .event event => meter.onEvent event
  | .latency key direction nanos => meter.addLatency key direction nanos

/-- Takes samples one after the other. -/
def takeAll (meter : Meter) (samples : List Sample) : Except Fault Meter :=
  samples.foldlM take meter

/-- A sample posts what it tells, and is counted where it is ignored. -/
theorem take_eq (meter : Meter) (sample : Sample) :
    meter.take sample =
      (FlowTable.post meter.aggregation sample.postings meter.table.entries).map
        (meter.settle 0 0 sample.isIgnored.toNat) := by
  cases sample with
  | event event => exact meter.onEvent_eq event
  | latency key direction nanos => exact meter.addLatency_eq key direction nanos

/-- Samples post what each of them posts, and those that are ignored are counted. -/
theorem takeAll_eq (meter : Meter) (samples : List Sample) :
    meter.takeAll samples =
      (FlowTable.post meter.aggregation (samples.flatMap Sample.postings) meter.table.entries).map
        (meter.settle 0 0 (samples.countP Sample.isIgnored)) := by
  induction samples generalizing meter with
  | nil => simp [takeAll, FlowTable.post, Except.map, pure, Except.pure, settle]
  | cons sample rest ih =>
    rw [takeAll, List.foldlM_cons, take_eq, List.flatMap_cons, FlowTable.post_append]
    cases FlowTable.post meter.aggregation sample.postings meter.table.entries with
    | error fault => rfl
    | ok entries =>
      have hrest := ih (meter.settle 0 0 sample.isIgnored.toNat entries)
      rw [settle_settle, ← countP_cons_toNat] at hrest
      exact hrest

/-- Whether a buffer is dropped: one that holds no event. -/
def isDropped (buffer : Bytes) : Bool :=
  (Event.ofBuffer? buffer).isNone

/-- The events of the buffers that are read. -/
def eventsOf (buffers : List Bytes) : List Event :=
  buffers.filterMap Event.ofBuffer?

/-- What becomes of a meter whose buffers post what their events do. -/
def settleBuffers (meter : Meter) (buffers : List Bytes) :
    List (FlowKey × FlowStats) → Meter :=
  meter.settle (eventsOf buffers).length (buffers.countP isDropped) ((eventsOf buffers).countP isIgnored)

/-- A buffer posts what its event does, or is dropped. -/
theorem onBuffer_eq_post (meter : Meter) (buffer : Bytes) :
    (meter.onBuffer buffer).map (·.2) =
      (FlowTable.post meter.aggregation ((eventsOf [buffer]).flatMap eventPostings)
        meter.table.entries).map (meter.settleBuffers [buffer]) := by
  by_cases hshort : buffer.length < Header.size
  · have hevent : Event.ofBuffer? buffer = none := if_pos hshort
    rw [onBuffer_eq, if_pos hshort]
    simp [eventsOf, hevent, isDropped, settleBuffers, settle, FlowTable.post, Except.map, pure,
      Except.pure]
  · have hevent : Event.ofBuffer? buffer = some (Event.ofBuffer buffer) := if_neg hshort
    have hevents : eventsOf [buffer] = [Event.ofBuffer buffer] := by simp [eventsOf, hevent]
    have hcounted : meter.settleBuffers [buffer] =
        meter.settle 1 0 (isIgnored (Event.ofBuffer buffer)).toNat := by
      cases hignored : isIgnored (Event.ofBuffer buffer) <;>
        simp [settleBuffers, hevents, isDropped, hevent, hignored]
    have hread : ({ meter with counters.decoded := meter.counters.decoded + 1 } : Meter) =
        meter.settle 1 0 0 meter.table.entries := by
      simp [settle]
    rw [onBuffer_eq, if_neg hshort, hread, onEvent_eq, settle_settle, hcounted, hevents,
      List.flatMap_singleton]
    change Except.map _ (Except.map _ (Except.map _
      (FlowTable.post meter.aggregation (eventPostings (Event.ofBuffer buffer)) meter.table.entries))) = _
    cases FlowTable.post meter.aggregation (eventPostings (Event.ofBuffer buffer)) meter.table.entries <;>
      simp [Except.map]

/-- Buffers post what their events do, one after the other. -/
theorem onBodies_eq_post (meter : Meter) (buffers : List Bytes) :
    meter.onBodies buffers =
      (FlowTable.post meter.aggregation ((eventsOf buffers).flatMap eventPostings)
        meter.table.entries).map (meter.settleBuffers buffers) := by
  induction buffers generalizing meter with
  | nil => simp [onBodies, eventsOf, settleBuffers, settle, FlowTable.post, Except.map, pure, Except.pure]
  | cons buffer rest ih =>
    have hevents : eventsOf (buffer :: rest) = eventsOf [buffer] ++ eventsOf rest := by
      rw [eventsOf, ← List.singleton_append, List.filterMap_append]
      rfl
    rw [onBodies, List.foldlM_cons, onBuffer_eq_post, hevents, List.flatMap_append,
      FlowTable.post_append]
    cases FlowTable.post meter.aggregation ((eventsOf [buffer]).flatMap eventPostings)
        meter.table.entries with
    | error fault => rfl
    | ok entries =>
      have hdropped : (buffer :: rest).countP isDropped =
          [buffer].countP isDropped + rest.countP isDropped := by
        rw [← List.countP_append, List.singleton_append]
      have hcounted : (meter.settleBuffers [buffer] entries).settleBuffers rest =
          meter.settleBuffers (buffer :: rest) := by
        rw [settleBuffers, settleBuffers, settle_settle, settleBuffers, hevents, hdropped,
          List.length_append, List.countP_append]
      have hrest := ih (meter.settleBuffers [buffer] entries)
      rw [hcounted] at hrest
      exact hrest

end Meter

end FlowMeter
