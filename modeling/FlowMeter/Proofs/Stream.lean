import Mathlib.Data.List.Induction
import FlowMeter.Proofs.Framing
import FlowMeter.Proofs.Overflow

/-!
# Streams in pieces

The frames of a stream do not depend on how it is cut: what follows is framed together with the rest
that the front leaves. So a meter that reads a stream in pieces, and puts the rest of each piece in
front of the next one, ends as if it had read the stream at once; what it leaves in the end holds no
complete frame.
-/

namespace FlowMeter

namespace Meter

/-- Accounts one body after the other. -/
def onBodies (meter : Meter) (bodies : List Bytes) : Except Fault Meter :=
  bodies.foldlM (fun meter body => (meter.onBuffer body).map (·.2)) meter

/-- Bodies behind others are accounted after them. -/
theorem onBodies_append (meter : Meter) (front rest : List Bytes) :
    meter.onBodies (front ++ rest) = meter.onBodies front >>= (·.onBodies rest) :=
  List.foldlM_append

/-- A stream is accounted body by body, whatever framing of it tells the bodies. -/
theorem onFrames_eq (meter : Meter) {stream : Bytes} (framing : Framing stream) :
    meter.onFrames stream = (meter.onBodies framing.bodies).map fun after =>
      (stream.length - framing.rest.length, after) := by
  rw [onFrames, framing.split_eq]
  change (meter.onBodies framing.bodies >>= fun after =>
    pure (stream.length - framing.rest.length, after)) = _
  cases meter.onBodies framing.bodies <;> rfl

/-- Frames are passed in front of the rest. -/
theorem onFrames_append (meter : Meter) (front rest : Bytes) :
    meter.onFrames (front ++ rest) = (do
      let (first, between) ← meter.onFrames front
      let (second, after) ← between.onFrames (front.drop first ++ rest)
      return (first + second, after)) := by
  let framing := Framing.ofStream front
  let behind := Framing.ofStream (framing.rest ++ rest)
  have hleft := framing.rest_eq_drop
  have hfront := framing.rest_suffix.length_le
  have hrest := behind.rest_suffix.length_le
  rw [List.length_append] at hrest
  rw [onFrames_eq meter (framing.append behind), onFrames_eq meter framing, Framing.append,
    onBodies_append]
  cases meter.onBodies framing.bodies with
  | error fault => rfl
  | ok between =>
    simp only [bind, Except.bind, Except.map, ← hleft]
    rw [onFrames_eq between behind]
    cases between.onBodies behind.bodies with
    | error fault => rfl
    | ok after =>
      simp only [Except.map, pure, Except.pure, List.length_append]
      congr 2
      omega

/-- What a meter leaves of a stream holds no complete frame. -/
theorem onFrames_rest {meter after : Meter} {stream : Bytes} {consumed : Nat}
    (h : meter.onFrames stream = .ok (consumed, after)) :
    consumed ≤ stream.length ∧ Frame.Incomplete (stream.drop consumed) := by
  let framing := Framing.ofStream stream
  rw [onFrames_eq meter framing] at h
  obtain ⟨last, _, hpair⟩ := exists_of_map_eq_ok h
  obtain ⟨rfl, rfl⟩ := Prod.mk.inj hpair
  refine ⟨Nat.sub_le .., ?_⟩
  rw [← framing.rest_eq_drop]
  exact framing.incomplete

/-- A meter leaves an incomplete frame. -/
theorem onFrames_of_incomplete (meter : Meter) {stream : Bytes} (h : Frame.Incomplete stream) :
    meter.onFrames stream = .ok (0, meter) := by
  rw [onFrames_eq meter (.nil h), Framing.nil, Nat.sub_self]
  rfl

/-- A stream is read to its end unless a counter of a flow does not fit. -/
theorem onFrames_onlyOverflow (meter : Meter) (stream : Bytes) :
    OnlyOverflow (meter.onFrames stream) := by
  rw [onFrames_eq meter (.ofStream stream)]
  exact (OnlyOverflow.foldlM (fun meter body => (meter.onBuffer_onlyOverflow body).map _) _ _).map _

end Meter

/-- A meter that reads a stream in pieces, the rest that the last piece left, and the number of bytes
consumed so far. -/
structure StreamReader where
  meter : Meter
  rest : Bytes
  consumed : Nat

namespace StreamReader

/-- A reader at the start of a stream. -/
def start (meter : Meter) : StreamReader := ⟨meter, [], 0⟩

/-- Reads the next piece, behind the rest of the last one. -/
def push (reader : StreamReader) (piece : Bytes) : Except Fault StreamReader := do
  let (consumed, meter) ← reader.meter.onFrames (reader.rest ++ piece)
  return ⟨meter, (reader.rest ++ piece).drop consumed, reader.consumed + consumed⟩

/-- The reader of a stream that comes in one piece. -/
def ofStream (meter : Meter) (stream : Bytes) : Except Fault StreamReader :=
  (meter.onFrames stream).map fun (consumed, after) => ⟨after, stream.drop consumed, consumed⟩

/-- A piece more is the same as a stream that is longer by the piece. -/
theorem ofStream_append (meter : Meter) (stream piece : Bytes) :
    ofStream meter (stream ++ piece) = ofStream meter stream >>= (·.push piece) := by
  rw [ofStream, ofStream, Meter.onFrames_append]
  cases hfirst : meter.onFrames stream with
  | error fault => rfl
  | ok answer =>
    obtain ⟨first, between⟩ := answer
    have hinside := (Meter.onFrames_rest hfirst).1
    simp only [bind, Except.bind, Except.map, push]
    cases between.onFrames (stream.drop first ++ piece) with
    | error fault => rfl
    | ok answer =>
      have hdrop : stream.drop first ++ piece = (stream ++ piece).drop first :=
        (List.drop_append_of_le_length hinside).symm
      simp only [pure, Except.pure, hdrop, List.drop_drop]

/-- A reader that is fed in pieces ends as if the stream came in one piece. -/
theorem foldlM_push (meter : Meter) (pieces : List Bytes) :
    pieces.foldlM push (start meter) = ofStream meter pieces.flatten := by
  -- The last piece goes first: the reader in front of it has read a whole stream already.
  induction pieces using List.reverseRecOn with
  | nil =>
    rw [List.flatten_nil, ofStream, Meter.onFrames_of_incomplete meter (by decide)]
    rfl
  | append_singleton pieces piece ih =>
    rw [List.foldlM_append, ih, List.flatten_append, List.flatten_singleton, ofStream_append]
    congr 1
    funext reader
    exact bind_pure _

end StreamReader

/-- A stream may come in pieces: what follows a front is read together with the rest that the front
leaves, and a reader of any pieces ends with the meter, the rest and the number of bytes of the whole
stream, or with the same overflow. What it leaves holds no complete frame. -/
theorem onFrames_in_pieces (meter : Meter) :
    (∀ front rest, meter.onFrames (front ++ rest) = do
      let (first, between) ← meter.onFrames front
      let (second, after) ← between.onFrames (front.drop first ++ rest)
      return (first + second, after)) ∧
    ∀ pieces : List Bytes, match pieces.foldlM StreamReader.push (.start meter) with
      | .ok reader =>
        meter.onFrames pieces.flatten = .ok (reader.consumed, reader.meter) ∧
          reader.rest = pieces.flatten.drop reader.consumed ∧ Frame.Incomplete reader.rest
      | .error fault => meter.onFrames pieces.flatten = .error fault ∧ fault = .overflow := by
  refine ⟨meter.onFrames_append, fun pieces => ?_⟩
  rw [StreamReader.foldlM_push, StreamReader.ofStream]
  cases hwhole : meter.onFrames pieces.flatten with
  | error fault => exact ⟨rfl, meter.onFrames_onlyOverflow _ fault hwhole⟩
  | ok answer => exact ⟨rfl, rfl, (Meter.onFrames_rest hwhole).2⟩

end FlowMeter
