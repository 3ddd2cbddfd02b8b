import Mathlib.Algebra.GroupWithZero.Nat
import FlowMeter.Proofs.Forwarding
import FlowMeter.Proofs.Stream

/-!
# Two walks over a stream

A stream may be read frame after frame, up to the frame that is refused, or be handed to a meter. The
meter goes as far as the reader does and accounts the events that this one reads. At the refusal it stops
too, but for a complete frame that is too short for a header: this one it drops, and goes on behind it.
-/

namespace FlowMeter

namespace Frame

variable {stream : Bytes}

/-- An incomplete frame is refused, but not for want of a header. -/
theorem decode_of_incomplete (h : Incomplete stream) :
    ∃ refusal, decode stream = .error refusal ∧ ∀ length, refusal ≠ .tooShort length Header.size := by
  rw [decode_eq]
  rcases h with hlead | hbody
  · refine ⟨_, if_pos hlead, fun length hrefusal => ?_⟩
    have hsize : lead = Header.size := (Event.Refusal.tooShort.inj hrefusal).2
    exact absurd hsize (by decide)
  · by_cases hlead : stream.length < lead
    · refine ⟨_, if_pos hlead, fun length hrefusal => ?_⟩
      have hsize : lead = Header.size := (Event.Refusal.tooShort.inj hrefusal).2
      exact absurd hsize (by decide)
    · rw [if_neg hlead, if_pos hbody]
      exact ⟨_, rfl, fun length hrefusal => (nomatch hrefusal)⟩

/-- A complete frame is refused where it is too short for a header, and read otherwise. -/
theorem decode_of_complete (h : ¬Incomplete stream) :
    decode stream =
      if announced stream < Header.size then .error (.tooShort (announced stream) Header.size)
      else .ok (Event.ofBuffer (body stream), lead + announced stream) := by
  obtain ⟨hlead, hbody⟩ := not_or.mp h
  rw [decode_eq, if_neg hlead, if_neg hbody, ← body, Event.decode_eq, length_body h]
  split <;> rfl

/-- The number of bytes that frames pass. -/
def passed (frames : List (Event × Nat)) : Nat :=
  (frames.map (·.2)).sum

/-- The reader ends at the frame that is refused. -/
theorem decode_drop_passed (stream : Bytes) :
    decode (stream.drop (passed (decodeAll stream).1)) = .error (decodeAll stream).2 := by
  fun_induction decodeAll stream with
  | case1 stream refusal hrefused => exact hrefused
  | case2 stream event count hread frames refusal hrest ih =>
    rw [hrest] at ih
    rw [passed, List.map_cons, List.sum_cons, ← List.drop_drop]
    exact ih

end Frame

namespace Meter

variable {stream : Bytes}

/-- A meter accounts the body of a complete frame and goes on behind it. -/
theorem onFrames_of_complete (meter : Meter) (h : ¬Frame.Incomplete stream) :
    meter.onFrames stream = (do
      let (_, next) ← meter.onBuffer (Frame.body stream)
      let (more, after) ← next.onFrames (stream.drop (Frame.lead + Frame.announced stream))
      return (Frame.lead + Frame.announced stream + more, after)) := by
  let behind := Framing.ofStream (stream.drop (Frame.lead + Frame.announced stream))
  have hlength := Frame.not_incomplete_iff.mp h
  have hrest := behind.rest_suffix.length_le
  rw [List.length_drop] at hrest
  rw [onFrames_eq meter (.cons h behind), Framing.cons, onBodies, List.foldlM_cons]
  cases meter.onBuffer (Frame.body stream) with
  | error fault => rfl
  | ok taken =>
    obtain ⟨accepted, next⟩ := taken
    simp only [bind, Except.bind, Except.map, onFrames_eq next behind]
    change Except.map _ (next.onBodies behind.bodies) = _
    cases next.onBodies behind.bodies with
    | error fault => rfl
    | ok after =>
      simp only [Except.map, pure, Except.pure, List.length_drop]
      congr 2
      omega

/-- A meter that has read some buffers, and then some more. -/
theorem addDecoded_addDecoded (meter : Meter) (count more : UInt64) :
    (meter.addDecoded count).addDecoded more = meter.addDecoded (count + more) := by
  simp only [addDecoded, UInt64.add_assoc]

/-- A meter drops a complete frame that is too short for a header, and goes on behind it. -/
theorem onFrames_of_short (meter : Meter) (h : ¬Frame.Incomplete stream)
    (hshort : Frame.announced stream < Header.size) :
    meter.onFrames stream = (do
      let (more, after) ← onFrames { meter with counters.dropped := meter.counters.dropped + 1 }
        (stream.drop (Frame.lead + Frame.announced stream))
      return (Frame.lead + Frame.announced stream + more, after)) := by
  rw [onFrames_of_complete meter h, onBuffer_eq, if_pos (by rwa [Frame.length_body h])]
  rfl

/-- A meter accounts the event of a complete frame that is read, and goes on behind it. -/
theorem onFrames_of_read (meter : Meter) {event : Event} {count : Nat}
    (h : Frame.decode stream = .ok (event, count)) :
    meter.onFrames stream = (do
      let next ← (meter.addDecoded 1).onEvent event
      let (more, after) ← next.onFrames (stream.drop count)
      return (count + more, after)) := by
  have hcomplete : ¬Frame.Incomplete stream := by
    intro hincomplete
    obtain ⟨refusal, hrefused, _⟩ := Frame.decode_of_incomplete hincomplete
    rw [hrefused] at h
    contradiction
  rw [Frame.decode_of_complete hcomplete] at h
  split at h
  · contradiction
  · rename_i hheader
    obtain ⟨rfl, rfl⟩ := Prod.mk.inj (Except.ok.inj h)
    rw [onFrames_of_complete meter hcomplete, onBuffer_eq,
      if_neg (by rwa [Frame.length_body hcomplete])]
    change Except.map (true, ·) ((meter.addDecoded 1).onEvent _) >>= _ = _
    cases (meter.addDecoded 1).onEvent (Event.ofBuffer (Frame.body stream)) <;> rfl

/-- A meter accounts the events that are read, and goes on at the frame that is refused. -/
theorem onFrames_decodeAll (meter : Meter) (stream : Bytes) :
    meter.onFrames stream = (do
      let between ← ((Frame.decodeAll stream).1.map (·.1)).foldlM onEvent
        (meter.addDecoded (Frame.decodeAll stream).1.length.toUInt64)
      let (more, after) ← between.onFrames (stream.drop (Frame.passed (Frame.decodeAll stream).1))
      return (Frame.passed (Frame.decodeAll stream).1 + more, after)) := by
  fun_induction Frame.decodeAll stream generalizing meter with
  | case1 stream refusal hrefused =>
    have hnone : meter.addDecoded 0 = meter := by simp only [addDecoded, UInt64.add_zero]
    change _ = (meter.addDecoded 0).onFrames stream >>= fun taken => pure (0 + taken.1, taken.2)
    simp only [hnone, Nat.zero_add]
    exact (bind_pure _).symm
  | case2 stream event count hread frames refusal hrest ih =>
    -- All frames are counted in front of their events: no event sees how many were read.
    have hnumber : (1 : UInt64) + frames.length.toUInt64 =
        ((event, count) :: frames).length.toUInt64 := by
      rw [List.length_cons, Nat.add_comm, Nat.toUInt64_eq, Nat.toUInt64_eq, UInt64.ofNat_add]
      rfl
    rw [hrest] at ih
    rw [onFrames_of_read meter hread, ← hnumber, ← addDecoded_addDecoded, List.map_cons,
      List.foldlM_cons, onEvent_addDecoded (meter.addDecoded 1)]
    cases (meter.addDecoded 1).onEvent event with
    | error fault => rfl
    | ok next =>
      have hpassed : Frame.passed ((event, count) :: frames) = count + Frame.passed frames := by
        rw [Frame.passed, List.map_cons, List.sum_cons]
        rfl
      simp only [bind, Except.bind, Except.map, pure, Except.pure, ih next, hpassed, ← List.drop_drop]
      cases (frames.map (·.1)).foldlM onEvent (next.addDecoded frames.length.toUInt64) with
      | error fault => rfl
      | ok between =>
        dsimp only
        cases between.onFrames ((stream.drop count).drop (Frame.passed frames)) with
        | error fault => rfl
        | ok taken => simp only [Nat.add_assoc]

/-- At a frame that is refused a meter consumes nothing, unless the frame is complete and too short for a
header. -/
theorem onFrames_refused (meter : Meter) {refusal : Event.Refusal}
    (h : Frame.decode stream = .error refusal) :
    (meter.onFrames stream = .ok (0, meter) ∧ ∀ length, refusal ≠ .tooShort length Header.size) ∨
      ∃ length, refusal = .tooShort length Header.size ∧
        meter.onFrames stream = (do
          let (more, after) ← onFrames
            { meter with counters.dropped := meter.counters.dropped + 1 }
            (stream.drop (Frame.lead + length))
          return (Frame.lead + length + more, after)) := by
  -- A complete frame that is refused is too short for a header: this is the only other way to end.
  by_cases hincomplete : Frame.Incomplete stream
  · obtain ⟨other, hrefused, hother⟩ := Frame.decode_of_incomplete hincomplete
    rw [hrefused] at h
    obtain rfl := Except.error.inj h
    exact .inl ⟨meter.onFrames_of_incomplete hincomplete, hother⟩
  · rw [Frame.decode_of_complete hincomplete] at h
    split at h
    · rename_i hshort
      obtain rfl := Except.error.inj h
      exact .inr ⟨_, rfl, meter.onFrames_of_short hincomplete hshort⟩
    · contradiction

end Meter

/-- A meter and a reader of frames agree on a stream. The meter accounts the events that are read, each
counted as one buffer, and goes on at the frame that is refused. There it consumes nothing unless the
frame is complete and too short for a header; such a frame it drops, and goes on behind it. -/
theorem onFrames_walk (meter : Meter) (stream : Bytes) :
    let (frames, refusal) := Frame.decodeAll stream
    let left := stream.drop (Frame.passed frames)
    (meter.onFrames stream = do
      let between ← (frames.map (·.1)).foldlM Meter.onEvent (meter.addDecoded frames.length.toUInt64)
      let (more, after) ← between.onFrames left
      return (Frame.passed frames + more, after)) ∧
    ∀ between : Meter,
      (∀ more after, between.onFrames left = .ok (more, after) →
        (more = 0 ↔ ∀ length, refusal ≠ .tooShort length Header.size)) ∧
      ∀ length, refusal = .tooShort length Header.size →
        between.onFrames left = do
          let (more, after) ← Meter.onFrames
            { between with counters.dropped := between.counters.dropped + 1 }
            (left.drop (Frame.lead + length))
          return (Frame.lead + length + more, after) := by
  refine ⟨meter.onFrames_decodeAll stream, fun between => ?_⟩
  rcases between.onFrames_refused (Frame.decode_drop_passed stream) with
    ⟨hleft, hrefusal⟩ | ⟨short, hrefusal, hdropped⟩
  · refine ⟨fun more after htaken => ?_, fun length hlength => absurd hlength (hrefusal length)⟩
    obtain ⟨rfl, rfl⟩ := Prod.mk.inj (Except.ok.inj (hleft.symm.trans htaken))
    exact ⟨fun _ => hrefusal, fun _ => rfl⟩
  · refine ⟨fun more after htaken => ?_, fun length hlength => ?_⟩
    · rw [hdropped] at htaken
      obtain ⟨⟨later, last⟩, _, hpair⟩ := exists_of_bind_eq_ok htaken
      obtain ⟨rfl, rfl⟩ := Prod.mk.inj (Except.ok.inj hpair)
      have hpositive : Frame.lead + short + later ≠ 0 := by
        simp only [Frame.lead]
        omega
      exact ⟨fun hzero => absurd hzero hpositive, fun hother => absurd hrefusal (hother short)⟩
    · obtain ⟨rfl, _⟩ := Event.Refusal.tooShort.inj (hrefusal.symm.trans hlength)
      exact hdropped

end FlowMeter
