import FlowMeter.Proofs.Stream

/-!
# Forwarded events

Events that are forwarded in frames are accounted like events that are handed over: the bodies in the
frames of a list of events are the bytes of the events, an event that is read back differs from the event
only in a packet that does not count, and reading a buffer counts it and changes nothing else.
-/

namespace FlowMeter

/-- The framing of the frames of some events: their bodies are the bytes of the events, and nothing is
left. -/
def Framing.ofEvents {events : List Event} (h : ∀ event ∈ events, event.size < 2 ^ 32) :
    Framing (events.flatMap fun event => Frame.ofBody event.bytes) where
  bodies := events.map Event.bytes
  rest := []
  fits := by
    refine List.forall_mem_map.mpr fun event hevent => ?_
    rw [event.bytes_length]
    exact h event hevent
  incomplete := .inl (by decide)
  concat := by rw [List.append_nil, List.flatMap_map]

namespace Meter

/-- A meter that has read some buffers more. -/
def addDecoded (meter : Meter) (count : UInt64) : Meter :=
  { meter with counters.decoded := meter.counters.decoded + count }

/-- The packet of an event that does not count makes no difference. -/
theorem onEvent_normal (meter : Meter) (event : Event) :
    meter.onEvent event.normal = meter.onEvent event := by
  have haccounted : accounted event.normal = accounted event := by
    rw [accounted, accounted, event.carried_normal]
  rw [onEvent, onEvent, haccounted]
  rfl

/-- How many buffers were read makes no difference to an event. -/
theorem onEvent_addDecoded (meter : Meter) (count : UInt64) (event : Event) :
    (meter.addDecoded count).onEvent event = (meter.onEvent event).map (·.addDecoded count) := by
  unfold onEvent
  split
  · rename_i packet _
    simp only [alter, addDecoded]
    cases meter.table.alter (keyOf event.header packet) (countPacket packet) <;> rfl
  · rfl

/-- An event changes no counter of a meter but that of ignored events. -/
theorem counters_onEvent {meter after : Meter} {event : Event} (h : meter.onEvent event = .ok after) :
    after.counters = { meter.counters with ignored := after.counters.ignored } := by
  unfold onEvent at h
  split at h
  · obtain ⟨table, _, rfl⟩ := exists_of_map_eq_ok h
    rfl
  · obtain rfl := Except.ok.inj h
    rfl

/-- A list of events changes no counter of a meter but that of ignored events. -/
theorem counters_foldlM_onEvent {meter after : Meter} {events : List Event}
    (h : events.foldlM onEvent meter = .ok after) :
    after.counters = { meter.counters with ignored := after.counters.ignored } := by
  induction events generalizing meter with
  | nil =>
    obtain rfl := Except.ok.inj h
    rfl
  | cons event rest ih =>
    obtain ⟨next, hnext, hrest⟩ := exists_of_bind_eq_ok h
    rw [ih hrest, counters_onEvent hnext]

/-- The bytes of an event are accounted like the event, and counted as one buffer. -/
theorem onBuffer_bytes (meter : Meter) {event : Event} (h : event.size < 2 ^ 32) :
    meter.onBuffer event.bytes =
      (meter.onEvent event).map fun after => (true, after.addDecoded 1) := by
  have hheader : ¬event.bytes.length < Header.size := by
    rw [event.bytes_length]
    exact Nat.not_lt.mpr event.header_le_size
  have hpayload : event.payload.length < 2 ^ 32 := Nat.lt_of_le_of_lt event.payload_le_size h
  rw [onBuffer_eq, if_neg hheader, event.ofBuffer_bytes_eq_normal_iff.mpr hpayload]
  change ((meter.addDecoded 1).onEvent event.normal).map _ = _
  rw [onEvent_normal, onEvent_addDecoded]
  cases meter.onEvent event <;> rfl

/-- How many buffers were read makes no difference to a list of events. -/
theorem foldlM_onEvent_addDecoded (meter : Meter) (count : UInt64) (events : List Event) :
    events.foldlM onEvent (meter.addDecoded count) =
      (events.foldlM onEvent meter).map (·.addDecoded count) := by
  induction events generalizing meter with
  | nil => rfl
  | cons event rest ih =>
    rw [List.foldlM_cons, List.foldlM_cons, onEvent_addDecoded]
    cases meter.onEvent event with
    | error fault => rfl
    | ok next => exact ih next

/-- Events are accounted one after the other, each counted as one buffer. -/
theorem onBodies_bytes (meter : Meter) {events : List Event}
    (h : ∀ event ∈ events, event.size < 2 ^ 32) :
    meter.onBodies (events.map Event.bytes) =
      (events.foldlM onEvent meter).map (·.addDecoded events.length.toUInt64) := by
  induction events generalizing meter with
  | nil =>
    change Except.ok meter = Except.ok (meter.addDecoded 0)
    simp only [addDecoded, UInt64.add_zero]
  | cons event rest ih =>
    rw [List.map_cons, onBodies, List.foldlM_cons, meter.onBuffer_bytes (h event List.mem_cons_self),
      List.foldlM_cons]
    cases meter.onEvent event with
    | error fault => rfl
    | ok next =>
      have hrest := ih (next.addDecoded 1) fun other hother => h other (List.mem_cons_of_mem _ hother)
      change (next.addDecoded 1).onBodies (rest.map Event.bytes) = _
      rw [hrest, foldlM_onEvent_addDecoded]
      simp only [bind, Except.bind]
      cases rest.foldlM onEvent next with
      | error fault => rfl
      | ok after =>
        have hcount : (1 : UInt64) + rest.length.toUInt64 = (rest.length + 1).toUInt64 := by
          rw [Nat.toUInt64_eq, Nat.toUInt64_eq, UInt64.ofNat_add, UInt64.add_comm]
          rfl
        simp only [Except.map, addDecoded, UInt64.add_assoc, List.length_cons, hcount]

end Meter

/-- Forwarding is transparent: a meter that reads the frames of some events, each of a size that fits
the lead, consumes them all and ends as if it were handed the events one after the other, but for the
buffers that it counts as read; or both meet the same overflow. -/
theorem onFrames_forwarded (meter : Meter) (events : List Event)
    (h : ∀ event ∈ events, event.size < 2 ^ 32) :
    ∃ frames, events.mapM Frame.encode = .ok frames ∧
      OnlyOverflow (meter.onFrames frames.flatten) ∧
      meter.onFrames frames.flatten = (events.foldlM Meter.onEvent meter).map fun after =>
        (frames.flatten.length,
          { after with counters :=
            { meter.counters with
              decoded := meter.counters.decoded + events.length.toUInt64
              ignored := after.counters.ignored } }) := by
  have hencode : Frame.encode = fun event => pure (Frame.ofBody event.bytes) :=
    funext Frame.encode_eq
  refine ⟨events.map fun event => Frame.ofBody event.bytes, by rw [hencode]; exact List.mapM_pure,
    meter.onFrames_onlyOverflow _, ?_⟩
  rw [← List.flatMap_def, meter.onFrames_eq (.ofEvents h), Framing.ofEvents, meter.onBodies_bytes h]
  cases hafter : events.foldlM Meter.onEvent meter with
  | error fault => rfl
  | ok after =>
    simp only [Except.map, Meter.addDecoded, List.length_nil, Nat.sub_zero]
    rw [Meter.counters_foldlM_onEvent hafter]

/-- A packet on an event that does not carry it, in front of a packet that counts. -/
def uncarriedFirst : List Event :=
  [⟨{ kind := .closed, pid := 7 }, some ⟨.outbound, .http, .request, 3, [1, 2, 3]⟩⟩,
    .ofPacket { pid := 7 } ⟨.inbound, .mysql, .none, 900, [4, 5]⟩]

/-- Of a packet that does not count and one that does, forwarded, one is ignored and one makes a
flow. -/
theorem onFrames_forwarded_uncarriedFirst :
    (∀ event ∈ uncarriedFirst, event.size < 2 ^ 32) ∧
      ∃ frames, uncarriedFirst.mapM Frame.encode = .ok frames ∧
        ∃ after, (Meter.ofSettings {}).onFrames frames.flatten = .ok (frames.flatten.length, after) ∧
          after.size = 1 ∧ after.counters = { decoded := 2, ignored := 1 } := by
  have hsize : ∀ event ∈ uncarriedFirst, event.size < 2 ^ 32 := by decide
  obtain ⟨frames, hframes, _, hread⟩ := onFrames_forwarded (Meter.ofSettings {}) uncarriedFirst hsize
  refine ⟨hsize, frames, hframes, ?_⟩
  rw [hread]
  exact ⟨_, rfl, rfl, rfl⟩

end FlowMeter
