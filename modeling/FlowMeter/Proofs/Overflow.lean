import FlowMeter.Meter
import FlowMeter.Proofs.Layout

/-!
# The only fault of a meter

Of all faults a meter meets only one, whatever it is fed: a counter of a flow that does not fit. The
bytes it is fed are read within their bounds.
-/

namespace FlowMeter

/-- An outcome that is an answer or the overflow of a counter. -/
def OnlyOverflow {A : Type} (outcome : Except Fault A) : Prop :=
  ∀ fault, outcome = .error fault → fault = .overflow

namespace OnlyOverflow

variable {A B : Type}

/-- An answer is no fault. -/
theorem ok (a : A) : OnlyOverflow (.ok a) :=
  fun _ h => nomatch h

/-- A function of the answer adds no fault. -/
theorem map {outcome : Except Fault A} (f : A → B) (h : OnlyOverflow outcome) :
    OnlyOverflow (outcome.map f) := by
  cases outcome with
  | error fault =>
    intro other hother
    exact Except.error.inj hother ▸ h fault rfl
  | ok a => exact ok (f a)

/-- A step that follows adds no fault but the overflow, if it meets no other from any answer. -/
theorem bind {outcome : Except Fault A} {next : A → Except Fault B} (h : OnlyOverflow outcome)
    (hnext : ∀ a, OnlyOverflow (next a)) : OnlyOverflow (outcome >>= next) := by
  cases outcome with
  | error fault =>
    intro other hother
    exact Except.error.inj hother ▸ h fault rfl
  | ok a => exact hnext a

/-- Steps one after the other meet the overflow only, if each of them does. -/
theorem foldlM {step : B → A → Except Fault B} (h : ∀ b a, OnlyOverflow (step b a)) (items : List A)
    (start : B) : OnlyOverflow (items.foldlM step start) := by
  induction items generalizing start with
  | nil => exact ok start
  | cons item rest ih => exact bind (h start item) fun next => ih next

end OnlyOverflow

/-- A checked sum meets the overflow only. -/
theorem checkedAdd_onlyOverflow (a b : UInt64) : OnlyOverflow (checkedAdd a b) := by
  unfold checkedAdd
  split
  · exact .ok _
  · intro fault h
    exact (Except.error.inj h).symm

namespace FlowStats

/-- A packet is counted, or a counter overflows. -/
theorem onPacket_onlyOverflow (stats : FlowStats) (direction : Direction) (bytes : UInt64) :
    OnlyOverflow (stats.onPacket direction bytes) := by
  cases direction with
  | none => exact .ok _
  | inbound =>
    exact (checkedAdd_onlyOverflow _ _).bind fun _ => (checkedAdd_onlyOverflow _ _).bind fun _ => .ok _
  | outbound =>
    exact (checkedAdd_onlyOverflow _ _).bind fun _ => (checkedAdd_onlyOverflow _ _).bind fun _ => .ok _

/-- A protocol is counted, or a counter overflows. -/
theorem onProtocol_onlyOverflow (stats : FlowStats) (protocol : Protocol) :
    OnlyOverflow (stats.onProtocol protocol) := by
  unfold onProtocol
  split
  · exact (checkedAdd_onlyOverflow _ _).map _
  · exact (checkedAdd_onlyOverflow _ _).map _

/-- A latency is added, or a counter overflows. -/
theorem addLatency_onlyOverflow (stats : FlowStats) (direction : Direction) (nanos : UInt64) :
    OnlyOverflow (stats.addLatency direction nanos) := by
  cases direction with
  | none => exact .ok _
  | inbound => exact (checkedAdd_onlyOverflow _ _).map _
  | outbound => exact (checkedAdd_onlyOverflow _ _).map _

end FlowStats

/-- A change of a flow among entries meets the faults of the change only. -/
theorem FlowTable.alterEntries_onlyOverflow {aggregation : Aggregation} {key : FlowKey}
    {change : FlowStats → Except Fault FlowStats} (h : ∀ stats, OnlyOverflow (change stats))
    (entries : List (FlowKey × FlowStats)) :
    OnlyOverflow (alterEntries aggregation key change entries) := by
  induction entries with
  | nil => exact (h _).map _
  | cons entry rest ih =>
    obtain ⟨first, stats⟩ := entry
    unfold alterEntries
    split
    · exact (h stats).map _
    · exact ih.map _

namespace Meter

/-- A flow is changed, or its change overflows a counter. -/
theorem alter_onlyOverflow (meter : Meter) (key : FlowKey)
    {change : FlowStats → Except Fault FlowStats} (h : ∀ stats, OnlyOverflow (change stats)) :
    OnlyOverflow (meter.alter key change) :=
  ((FlowTable.alterEntries_onlyOverflow h meter.table.entries).map _).map _

/-- A packet is counted in its flow, or a counter overflows. -/
theorem countPacket_onlyOverflow (packet : Packet) (stats : FlowStats) :
    OnlyOverflow (countPacket packet stats) :=
  (stats.onPacket_onlyOverflow _ _).bind fun counted => counted.onProtocol_onlyOverflow _

/-- An event is accounted or ignored, or a counter of its flow overflows. -/
theorem onEvent_onlyOverflow (meter : Meter) (event : Event) : OnlyOverflow (meter.onEvent event) := by
  unfold onEvent
  split
  · exact meter.alter_onlyOverflow _ (countPacket_onlyOverflow _)
  · exact .ok _

/-- What a meter does with a buffer, in terms of the event in it. -/
theorem onBuffer_eq (meter : Meter) (buffer : Bytes) :
    meter.onBuffer buffer =
      if buffer.length < Header.size then
        .ok (false, { meter with counters.dropped := meter.counters.dropped + 1 })
      else
        (onEvent { meter with counters.decoded := meter.counters.decoded + 1 }
          (Event.ofBuffer buffer)).map (true, ·) := by
  rw [onBuffer, Event.consume_eq, Event.ofBuffer?]
  by_cases hshort : buffer.length < Header.size
  · rw [if_pos hshort, if_pos hshort]
  · rw [if_neg hshort, if_neg hshort]

/-- A buffer is read or dropped, or a counter of the flow of its event overflows. -/
theorem onBuffer_onlyOverflow (meter : Meter) (buffer : Bytes) :
    OnlyOverflow (meter.onBuffer buffer) := by
  rw [onBuffer_eq]
  split
  · exact .ok _
  · exact (onEvent_onlyOverflow _ _).map _

end Meter

end FlowMeter
