import FlowMeter.Event.Frame
import FlowMeter.Proofs.Layout

/-!
# What is written is read back

The frame of an event is its size in four bytes and then its bytes. Reading the bytes of an event
gives the event without a packet that does not count, exactly where the length of its payload fits its
field; reading its frame, whatever follows it, exactly where its size fits the lead of the frame.
-/

namespace FlowMeter

namespace Frame

/-- A body behind its length. -/
def ofBody (body : Bytes) : Bytes :=
  Wire.bytes lead body.length ++ body

/-- A frame has a body behind its lead. -/
theorem ofBody_length (body : Bytes) : (ofBody body).length = lead + body.length := by
  rw [ofBody, List.length_append, Wire.bytes_length]

/-- A frame announces the length of its body, cut to four bytes. -/
theorem announced_ofBody (body rest : Bytes) :
    announced (ofBody body ++ rest) = body.length % 2 ^ 32 := by
  have htake : (ofBody body ++ rest).take lead = Wire.bytes lead body.length := by
    rw [ofBody, List.append_assoc]
    exact List.take_left' (Wire.bytes_length ..)
  rw [announced, htake]
  exact Wire.number_bytes lead body.length

/-- The body of a frame stands behind its lead, whatever follows the frame. -/
theorem take_drop_ofBody (body rest : Bytes) :
    ((ofBody body ++ rest).drop lead).take body.length = body := by
  rw [ofBody, List.append_assoc, List.drop_left' (Wire.bytes_length ..), List.take_left' rfl]

/-- Adding the frame of an event is no fault and leaves what the buffer holds. -/
theorem encodeInto_eq (event : Event) (buffer : Bytes) :
    encodeInto event buffer = .ok (buffer ++ ofBody event.bytes) := by
  rw [encodeInto, Event.write_eq, ofBody, Event.bytes_length, List.append_assoc]

/-- The frame of an event has the bytes of the event for its body. -/
theorem encode_eq (event : Event) : encode event = .ok (ofBody event.bytes) :=
  encodeInto_eq event []

/-- What a frame announces fits four bytes. -/
theorem announced_lt (stream : Bytes) : announced stream < 2 ^ 32 := by
  have hnumber := Wire.number_lt (stream.take lead)
  have hlength : (stream.take lead).length ≤ 4 := List.length_take_le ..
  calc announced stream < 256 ^ (stream.take lead).length := hnumber
    _ ≤ 256 ^ 4 := Nat.pow_le_pow_right (by decide) hlength

/-- The frame at the front of a stream, in terms of the length that it announces. -/
theorem decode_eq (stream : Bytes) :
    decode stream =
      if stream.length < lead then .error (.tooShort stream.length lead)
      else if stream.length - lead < announced stream then
        .error (.frameLength (announced stream) (stream.length - lead))
      else (Event.decode ((stream.drop lead).take (announced stream))).map fun event =>
        (event, lead + announced stream) := by
  unfold decode
  split
  · rfl
  · rename_i hlead
    have hread : Wire.read32 stream = .ok (announced stream).toUInt32 :=
      Wire.read32_drop 0 (by simp only [lead] at hlead; omega)
    have hannounced : (announced stream).toUInt32.toNat = announced stream := by
      rw [Nat.toUInt32_eq, UInt32.toNat_ofNat_of_lt' (announced_lt stream)]
    rw [hread]
    simp only [hannounced]
    split
    · rfl
    · rw [Wire.slice_of_le (Nat.le_add_right ..) (by omega), Nat.add_sub_cancel_left]

/-- The frame of an event is read as the event without a packet that does not count, whatever bytes
follow, exactly where the size of the event fits the lead. -/
theorem decode_bytes_iff (event : Event) (rest : Bytes) :
    decode (ofBody event.bytes ++ rest) = .ok (event.normal, lead + event.size) ↔
      event.size < 2 ^ 32 := by
  have hannounced := announced_ofBody event.bytes rest
  have hbody := take_drop_ofBody event.bytes rest
  have hlength : (ofBody event.bytes ++ rest).length = lead + event.size + rest.length := by
    rw [List.length_append, ofBody_length, event.bytes_length]
  have hlead : ¬(ofBody event.bytes ++ rest).length < lead := by omega
  have hmod : event.size % 2 ^ 32 ≤ event.size := Nat.mod_le ..
  have hinside : ¬(ofBody event.bytes ++ rest).length - lead < event.size % 2 ^ 32 := by omega
  rw [event.bytes_length] at hannounced hbody
  rw [decode_eq, if_neg hlead, hannounced, if_neg hinside]
  constructor
  · intro h
    obtain ⟨other, _, hpair⟩ := exists_of_map_eq_ok h
    have hpassed : lead + event.size % 2 ^ 32 = lead + event.size := congrArg Prod.snd hpair
    omega
  · intro hsize
    have hpayload : event.payload.length < 2 ^ 32 :=
      Nat.lt_of_le_of_lt event.payload_le_size hsize
    rw [Nat.mod_eq_of_lt hsize, hbody, event.decode_bytes,
      event.ofBuffer_bytes_eq_normal_iff.mpr hpayload]
    rfl

end Frame

/-- What is written is read back: the bytes of an event exactly where the length of the payload fits
its field, and the frame of an event, whatever follows it, exactly where the size of the event fits
the lead. Writing adds the same bytes to every buffer. -/
theorem encode_decode (event : Event) :
    ∃ raw frame, event.write [] = .ok raw ∧ Frame.encode event = .ok frame ∧
      (Event.decode raw = .ok event.normal ↔ event.payload.length < 2 ^ 32) ∧
      (∀ rest, Frame.decode (frame ++ rest) = .ok (event.normal, Frame.lead + event.size) ↔
        event.size < 2 ^ 32) ∧
      ∀ buffer, event.write buffer = .ok (buffer ++ raw) ∧
        Frame.encodeInto event buffer = .ok (buffer ++ frame) := by
  refine ⟨event.bytes, Frame.ofBody event.bytes, event.write_eq [], Frame.encode_eq event, ?_,
    Frame.decode_bytes_iff event,
    fun buffer => ⟨event.write_eq buffer, Frame.encodeInto_eq event buffer⟩⟩
  rw [event.decode_bytes, Except.ok.injEq]
  exact event.ofBuffer_bytes_eq_normal_iff

end FlowMeter
