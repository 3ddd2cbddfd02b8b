import FlowMeter.Proofs.Frame

/-!
# Framings of a stream

A framing divides a stream into bodies, each behind its length, and a rest that holds no complete frame.
Every stream has one framing and no other, and splitting the stream finds it. So what holds of the frames
of a stream is told by building a framing of it: of an incomplete frame, of a complete frame in front of
others, or of bytes that follow a stream.
-/

namespace FlowMeter

namespace Frame

variable {stream : Bytes}

/-- A stream that holds no complete frame at its front: it ends within the lead, or announces more
bytes than follow. -/
def Incomplete (stream : Bytes) : Prop :=
  stream.length < lead ∨ stream.length - lead < announced stream

instance : Decidable (Incomplete stream) :=
  inferInstanceAs (Decidable (_ ∨ _))

/-- A frame is complete where the stream holds all that it announces. -/
theorem not_incomplete_iff : ¬Incomplete stream ↔ lead + announced stream ≤ stream.length := by
  rw [Incomplete]
  omega

/-- The body of the frame at the front of a stream. -/
def body (stream : Bytes) : Bytes :=
  (stream.drop lead).take (announced stream)

/-- The body of a complete frame is as long as the frame announces. -/
theorem length_body (h : ¬Incomplete stream) : (body stream).length = announced stream := by
  have hcomplete := not_incomplete_iff.mp h
  rw [body, List.length_take, List.length_drop]
  omega

/-- A stream with a complete frame at its front is this frame and what follows it. -/
theorem ofBody_append_drop (h : ¬Incomplete stream) :
    ofBody (body stream) ++ stream.drop (lead + announced stream) = stream := by
  have hcomplete := not_incomplete_iff.mp h
  have hlead : (stream.take lead).length = lead := List.length_take_of_le (by omega)
  have hlength : Wire.bytes lead (announced stream) = stream.take lead := by
    have hnumber := Wire.bytes_number (stream.take lead)
    rwa [hlead] at hnumber
  rw [ofBody, length_body h, hlength, body, List.append_assoc, ← List.drop_drop,
    List.take_append_drop, List.take_append_drop]

end Frame

/-- A stream as bodies, each behind its length, and a rest that holds no complete frame. -/
@[ext]
structure Framing (stream : Bytes) where
  bodies : List Bytes
  rest : Bytes
  fits : ∀ body ∈ bodies, body.length < 2 ^ 32
  incomplete : Frame.Incomplete rest
  concat : bodies.flatMap Frame.ofBody ++ rest = stream

namespace Framing

variable {stream more : Bytes}

/-- The framing of a stream without a complete frame: all of it is left. -/
def nil (h : Frame.Incomplete stream) : Framing stream :=
  ⟨[], stream, nofun, h, rfl⟩

/-- The framing of a stream with a complete frame in front of a stream that is framed. -/
def cons (h : ¬Frame.Incomplete stream)
    (behind : Framing (stream.drop (Frame.lead + Frame.announced stream))) : Framing stream where
  bodies := Frame.body stream :: behind.bodies
  rest := behind.rest
  fits := by
    refine List.forall_mem_cons.mpr ⟨?_, behind.fits⟩
    rw [Frame.length_body h]
    exact Frame.announced_lt stream
  incomplete := behind.incomplete
  concat := by
    rw [List.flatMap_cons, List.append_assoc, behind.concat]
    exact Frame.ofBody_append_drop h

/-- The framing of a stream that goes on: what follows is framed together with the rest. -/
def append (front : Framing stream) (behind : Framing (front.rest ++ more)) :
    Framing (stream ++ more) where
  bodies := front.bodies ++ behind.bodies
  rest := behind.rest
  fits := List.forall_mem_append.mpr ⟨front.fits, behind.fits⟩
  incomplete := behind.incomplete
  concat := by
    rw [List.flatMap_append, List.append_assoc, behind.concat, ← List.append_assoc, front.concat]

/-- The framing of a stream. -/
def ofStream (stream : Bytes) : Framing stream :=
  if h : Frame.Incomplete stream then nil h
  else cons h (ofStream (stream.drop (Frame.lead + Frame.announced stream)))
termination_by stream.length
decreasing_by
  have hcomplete := Frame.not_incomplete_iff.mp h
  simp only [List.length_drop, Frame.lead] at *
  omega

/-- A stream splits into the bodies and the rest of a framing of it. -/
theorem split_eq (framing : Framing stream) : Frame.split stream = (framing.bodies, framing.rest) := by
  obtain ⟨bodies, rest, fits, incomplete, concat⟩ := framing
  -- The lead of the first frame announces its body, as the length of the body fits the lead.
  induction bodies generalizing stream with
  | nil =>
    obtain rfl : rest = stream := concat
    rw [Frame.split]
    exact if_neg fun hcomplete => Frame.not_incomplete_iff.mpr hcomplete incomplete
  | cons body bodies ih =>
    obtain ⟨hbody, hbodies⟩ := List.forall_mem_cons.mp fits
    have hbehind := ih hbodies rfl
    rw [List.flatMap_cons, List.append_assoc] at concat
    have hannounced : Frame.announced stream = body.length := by
      rw [← concat, Frame.announced_ofBody, Nat.mod_eq_of_lt hbody]
    have hcomplete : Frame.lead + body.length ≤ stream.length := by
      rw [← concat, List.length_append, Frame.ofBody_length]
      exact Nat.le_add_right ..
    have hfront : (stream.drop Frame.lead).take body.length = body := by
      rw [← concat, Frame.take_drop_ofBody]
    have hrest : stream.drop (Frame.lead + body.length) = bodies.flatMap Frame.ofBody ++ rest := by
      rw [← concat, List.drop_left' (Frame.ofBody_length body)]
    rw [Frame.split]
    simp only [hannounced, if_pos hcomplete, hfront, hrest, hbehind]

/-- A stream has no framing but one. -/
instance : Subsingleton (Framing stream) where
  allEq framing other := by
    have hsplit := framing.split_eq.symm.trans other.split_eq
    exact Framing.ext (congrArg Prod.fst hsplit) (congrArg Prod.snd hsplit)

/-- The rest of a framing is a suffix of the stream. -/
theorem rest_suffix (framing : Framing stream) : framing.rest <:+ stream :=
  ⟨_, framing.concat⟩

/-- The rest of a framing is what is left of the stream behind its frames. -/
theorem rest_eq_drop (framing : Framing stream) :
    framing.rest = stream.drop (stream.length - framing.rest.length) :=
  List.suffix_iff_eq_drop.mp framing.rest_suffix

end Framing

/-- The bodies of the complete frames of a stream. -/
def Frame.bodies (stream : Bytes) : List Bytes :=
  (Framing.ofStream stream).bodies

/-- Any framing of a stream has the bodies of its complete frames. -/
theorem Framing.bodies_eq {stream : Bytes} (framing : Framing stream) :
    framing.bodies = Frame.bodies stream :=
  congrArg bodies (Subsingleton.elim framing (ofStream stream))

end FlowMeter
