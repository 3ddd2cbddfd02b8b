import FlowMeter.Proofs.Walk

/-!
# Frames end where they say

A frame that is read tells its own end. What follows the end does not matter, and without its last byte the
frame is refused: for want of a lead, or of the bytes that it announces. As a frame passes at least its lead
and a header, a walk over the frames of a stream is no longer than the stream allows, and ends in a refusal.
-/

namespace FlowMeter

namespace Frame

variable {stream rest : Bytes} {event : Event} {count limit : Nat} {frames : List (Event × Nat)}

/-- A frame is read exactly where it is complete and announces at least a header. -/
theorem decode_eq_ok_iff :
    decode stream = .ok (event, count) ↔
      (¬Incomplete stream ∧ Header.size ≤ announced stream) ∧
        Event.ofBuffer (body stream) = event ∧ lead + announced stream = count := by
  by_cases hincomplete : Incomplete stream
  · obtain ⟨refusal, hrefused, _⟩ := decode_of_incomplete hincomplete
    simp [hrefused, hincomplete]
  · rw [decode_of_complete hincomplete]
    by_cases hshort : announced stream < Header.size
    · simp [hshort, Nat.not_le_of_lt hshort]
    · simp [hshort, hincomplete, Nat.le_of_not_lt hshort]

/-- A frame that is read passes its lead and a header at least, and lies within the stream. -/
theorem count_bounds (h : decode stream = .ok (event, count)) :
    lead + Header.size ≤ count ∧ count ≤ stream.length := by
  obtain ⟨⟨hcomplete, hheader⟩, _, rfl⟩ := decode_eq_ok_iff.mp h
  exact ⟨Nat.add_le_add_left hheader lead, not_incomplete_iff.mp hcomplete⟩

/-- Bytes behind the lead do not change what a stream announces. -/
theorem announced_append {front : Bytes} (rest : Bytes) (h : lead ≤ front.length) :
    announced (front ++ rest) = announced front := by
  rw [announced, announced, List.take_append_of_le_length h]

/-- A front of a stream that holds the lead announces what the stream does. -/
theorem announced_take (h : lead ≤ limit) : announced (stream.take limit) = announced stream := by
  rw [announced, announced, List.take_take, Nat.min_eq_left h]

/-- A frame is read from its own bytes, whatever follows them. -/
theorem decode_take_append (h : decode stream = .ok (event, count)) (rest : Bytes) :
    decode (stream.take count ++ rest) = .ok (event, count) := by
  have hinside := (count_bounds h).2
  obtain ⟨⟨hcomplete, hheader⟩, hevent, hcount⟩ := decode_eq_ok_iff.mp h
  have hlength : (stream.take count).length = count := List.length_take_of_le hinside
  have hannounced : announced (stream.take count ++ rest) = announced stream := by
    rw [announced_append rest (by omega), announced_take (by omega)]
  have hbody : body (stream.take count ++ rest) = body stream := by
    rw [body, body, hannounced, List.drop_append_of_le_length (by omega),
      List.take_append_of_le_length (by rw [List.length_drop]; omega), List.drop_take, List.take_take,
      Nat.min_eq_left (by omega)]
  rw [decode_eq_ok_iff, not_incomplete_iff, hannounced, hbody, List.length_append]
  exact ⟨⟨by omega, hheader⟩, hevent, hcount⟩

/-- A frame that is read is refused where its bytes end early: within the lead, or behind it. -/
theorem decode_take_of_lt (h : decode stream = .ok (event, count)) (hlimit : limit < count) :
    decode (stream.take limit) =
      .error (if limit < lead then .tooShort limit lead
        else .frameLength (count - lead) (limit - lead)) := by
  have hinside := (count_bounds h).2
  obtain ⟨_, _, hcount⟩ := decode_eq_ok_iff.mp h
  have hlength : (stream.take limit).length = limit := List.length_take_of_le (by omega)
  rw [decode_eq, hlength]
  by_cases hlead : limit < lead
  · rw [if_pos hlead, if_pos hlead]
  · have hannounced : announced (stream.take limit) = count - lead := by
      rw [announced_take (by omega)]
      omega
    rw [if_neg hlead, if_neg hlead, hannounced, if_pos (by omega)]

/-- A walk over a stream: frames that are read one after the other, and what they leave. -/
inductive Reads : (stream : Bytes) → List (Event × Nat) → (rest : Bytes) → Prop where
  | done (stream : Bytes) : Reads stream [] stream
  | next {stream rest : Bytes} {event : Event} {count : Nat} {frames : List (Event × Nat)} :
    decode stream = .ok (event, count) → Reads (stream.drop count) frames rest →
      Reads stream ((event, count) :: frames) rest

/-- The frames of a walk, each with its lead and a header at least, lie within the stream. -/
theorem Reads.length_le (h : Reads stream frames rest) :
    frames.length * (lead + Header.size) + rest.length ≤ stream.length := by
  induction h with
  | done stream => simp
  | next hread _ ih =>
    obtain ⟨hsize, hinside⟩ := count_bounds hread
    rw [List.length_drop] at ih
    rw [List.length_cons, Nat.succ_mul]
    omega

/-- A reader that goes up to a refusal walks over the stream. -/
theorem reads_decodeAll (stream : Bytes) :
    ∃ rest, Reads stream (decodeAll stream).1 rest ∧ decode rest = .error (decodeAll stream).2 := by
  fun_induction decodeAll stream with
  | case1 stream refusal hrefused => exact ⟨stream, .done stream, hrefused⟩
  | case2 stream event count hread frames refusal hrest ih =>
    rw [hrest] at ih
    obtain ⟨rest, hwalk, hrefused⟩ := ih
    exact ⟨rest, .next hread hwalk, hrefused⟩

end Frame

/-- Frames delimit themselves. A frame that is read passes its lead and a header at least and lies within
the stream; it is read from its own bytes with whatever follows them, and is refused where they end early.
So no walk over a stream has more frames than there is room for, and the walk that goes on for as long as
frames are read ends in a refusal. -/
theorem frames_delimit_themselves (stream : Bytes) :
    (∀ event count, Frame.decode stream = .ok (event, count) →
      (Frame.lead + Header.size ≤ count ∧ count ≤ stream.length) ∧
      (∀ rest, Frame.decode (stream.take count ++ rest) = .ok (event, count)) ∧
      ∀ limit < count, Frame.decode (stream.take limit) =
        .error (if limit < Frame.lead then .tooShort limit Frame.lead
          else .frameLength (count - Frame.lead) (limit - Frame.lead))) ∧
    (∀ frames rest, Frame.Reads stream frames rest →
      frames.length ≤ stream.length / (Frame.lead + Header.size)) ∧
    ∃ rest, Frame.Reads stream (Frame.decodeAll stream).1 rest ∧
      Frame.decode rest = .error (Frame.decodeAll stream).2 := by
  refine ⟨fun event count hread => ?_, fun frames rest hwalk => ?_, Frame.reads_decodeAll stream⟩
  · exact ⟨Frame.count_bounds hread, Frame.decode_take_append hread,
      fun limit => Frame.decode_take_of_lt hread⟩
  · have hlength := hwalk.length_le
    exact (Nat.le_div_iff_mul_le (by decide)).mpr (by omega)

/-- A frame with two bytes behind the header of its event, and one byte behind the frame. -/
def trailingBytes : Bytes :=
  Wire.bytes Frame.lead 74 ++ (Event.ofHeader { kind := .data, pid := 7 }).bytes ++ [1, 2, 3]

/-- The frame passes the bytes behind its event, and is refused where one of them is missing or where its
lead is. -/
theorem frames_delimit_themselves_trailingBytes :
    let event : Event := .ofHeader { kind := .data, pid := 7 }
    Frame.decode trailingBytes = .ok (event, 78) ∧
      Frame.decode (trailingBytes.take 78 ++ [9, 9]) = .ok (event, 78) ∧
      Frame.decode (trailingBytes.take 77) = .error (.frameLength 74 73) ∧
      Frame.decode (trailingBytes.take 3) = .error (.tooShort 3 Frame.lead) := by
  have hread : Frame.decode trailingBytes = .ok (.ofHeader { kind := .data, pid := 7 }, 78) := rfl
  obtain ⟨_, happend, hshort⟩ := (frames_delimit_themselves trailingBytes).1 _ _ hread
  exact ⟨hread, happend [9, 9], hshort 77 (by decide), hshort 3 (by decide)⟩

end FlowMeter
