import FlowMeter.Event.Layout

/-!
# Frames

Events are forwarded in frames: the length of the body in four bytes, then the body, which is one
capture buffer. A stream of frames splits into bodies and a rest that is no complete frame.
-/

namespace FlowMeter.Frame

/-- The number of bytes in front of a body. -/
def lead : Nat := 4

/-- The length that a frame announces. -/
def announced (stream : Bytes) : Nat :=
  Wire.number (stream.take lead)

/-- Adds the frame of an event to a buffer; the length is cut to 32 bits. -/
def encodeInto (event : Event) (buffer : Bytes) : Except Fault Bytes :=
  event.write (buffer ++ Wire.bytes lead event.size)

/-- The frame of an event. -/
def encode (event : Event) : Except Fault Bytes :=
  encodeInto event []

/-- Reads the frame at the front of a stream: its event and the number of bytes passed. -/
def decode (stream : Bytes) : Except Event.Refusal (Event × Nat) :=
  if stream.length < lead then .error (.tooShort stream.length lead)
  else
    match Wire.read32 stream with
    | .error fault => .error (.fault fault)
    | .ok length =>
      let available := stream.length - lead
      if available < length.toNat then .error (.frameLength length.toNat available)
      else
        match Wire.slice lead (lead + length.toNat) stream with
        | .error fault => .error (.fault fault)
        | .ok body => (Event.decode body).map fun event => (event, lead + length.toNat)

/-- A frame that is read passes at least its lead and lies within the stream. -/
theorem decode_bounds {stream : Bytes} {event : Event} {passed : Nat}
    (h : decode stream = .ok (event, passed)) : lead ≤ passed ∧ passed ≤ stream.length := by
  unfold decode at h
  split at h
  · contradiction
  · split at h
    · contradiction
    · rename_i length _
      simp only at h
      split at h
      · contradiction
      · split at h
        · contradiction
        · obtain ⟨_, _, hpair⟩ := exists_of_map_eq_ok h
          obtain ⟨_, rfl⟩ := Prod.mk.inj hpair
          omega

/-- Reads frame after frame, up to the refusal that ends every stream. -/
def decodeAll (stream : Bytes) : List (Event × Nat) × Event.Refusal :=
  match _h : decode stream with
  | .error refusal => ([], refusal)
  | .ok (event, passed) =>
    let (frames, refusal) := decodeAll (stream.drop passed)
    ((event, passed) :: frames, refusal)
termination_by stream.length
decreasing_by
  have := decode_bounds _h
  simp only [List.length_drop, lead] at this ⊢
  omega

/-- Splits a stream into the bodies of its complete frames and the rest. -/
def split (stream : Bytes) : List Bytes × Bytes :=
  let length := announced stream
  if lead + length ≤ stream.length then
    let body := (stream.drop lead).take length
    let (bodies, rest) := split (stream.drop (lead + length))
    (body :: bodies, rest)
  else ([], stream)
termination_by stream.length
decreasing_by
  simp only [List.length_drop, lead] at *
  omega

end FlowMeter.Frame
