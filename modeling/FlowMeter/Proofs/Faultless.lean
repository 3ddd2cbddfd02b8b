import Mathlib.Tactic.IntervalCases
import FlowMeter.Event.Text
import FlowMeter.Proofs.Frame

/-!
# No fault in reading and writing

Bytes that come from outside are read within their bounds, whatever they are: a buffer gives an event exactly
where it holds a header, and is refused for its length otherwise; a frame is read, or refused for a length. An
event is written without a fault, whether it carries its packet or not, as every part is written into the room
that was made for it. Printing looks up no digit that there is none of.
-/

namespace FlowMeter

namespace Dump

/-- A number below sixteen has a digit in the table. -/
theorem lookUpDigit_of_lt {n : Nat} (h : n < 16) : lookUpDigit n = .ok (hexDigit n) := by
  interval_cases n <;> rfl

/-- Both halves of a byte have a digit. -/
theorem lookUpByte_eq (b : UInt8) : lookUpByte b = .ok (hexByte b) := by
  have hb := b.toNat_lt
  rw [lookUpByte, lookUpDigit_of_lt (by omega), lookUpDigit_of_lt (by omega)]
  rfl

/-- The lines of a dump are printed without a fault. -/
theorem printCells_eq (offset : Nat) (bs : Bytes) : printCells offset bs = .ok (cells offset bs) := by
  induction bs generalizing offset with
  | nil => rfl
  | cons b rest ih =>
    rw [printCells, lookUpByte_eq, ih (offset + 1)]
    rfl

/-- Bytes are printed within their bounds. -/
theorem print_eq (bs : Bytes) : print bs = .ok (hex bs) := by
  rw [print, printCells_eq]
  rfl

end Dump

/-- A packet is printed without a fault. -/
theorem Packet.print_eq (packet : Packet) : packet.print = .ok packet.text := by
  rw [print, Dump.print_eq]
  rfl

namespace Event

/-- Printing an event is no fault and gives its text. -/
theorem print_eq (event : Event) : event.print = .ok event.text := by
  unfold print text
  cases event.carried with
  | none => rfl
  | some packet =>
    change packet.print.map _ = _
    rw [packet.print_eq]
    rfl

/-- Printing a buffer is no fault and gives its text, whether there is an event or not. -/
theorem printBuffer_eq (buffer : Bytes) : printBuffer buffer = .ok (textOfBuffer buffer) := by
  rw [printBuffer, textOfBuffer, decode_eq]
  by_cases hshort : buffer.length < Header.size
  · rw [if_pos hshort]
  · rw [if_neg hshort]
    exact print_eq _

/-- Behind the header and the section, the bytes of an event are the payload that it carries. -/
theorem drop_bytes (event : Event) :
    event.bytes.drop (Header.size + Packet.size) = event.payload := by
  unfold bytes payload
  cases event.carried with
  | none =>
    apply List.drop_of_length_le
    rw [List.append_nil, Header.bytes_length]
    exact Nat.le_add_right ..
  | some packet =>
    rw [← List.append_assoc, List.drop_left']
    rw [List.length_append, Header.bytes_length, Packet.sectionBytes_length]

end Event

/-- A frame is read as far as it announces, or it is refused: for the length of its lead or of its body, or for
what it announces. It meets no fault. -/
theorem Frame.decode_faultless (stream : Bytes) :
    match decode stream with
    | .ok (_, count) => count = lead + announced stream
    | .error (.tooShort length needed) =>
      (length = stream.length ∧ needed = lead) ∨ (length = announced stream ∧ needed = Header.size)
    | .error (.frameLength length available) =>
      length = announced stream ∧ available = stream.length - lead
    | .error (.fault _) => False := by
  rw [decode_eq, Event.decode_eq]
  split_ifs with hlead hbody hheader
  · exact .inl ⟨rfl, rfl⟩
  · exact ⟨rfl, rfl⟩
  · have hlength : ((stream.drop lead).take (announced stream)).length = announced stream := by
      rw [List.length_take, List.length_drop]
      omega
    exact .inr ⟨hlength, rfl⟩
  · rfl

/-- Reading and writing meet no fault. A buffer is read exactly where it holds a header and refused as too
short otherwise, and is consumed whole either way; a frame is read, or refused for a length; a buffer is
printed. An event is added to a buffer, as it is and as a frame, and printed: the payload that it carries
fills the room behind the header and the section exactly. -/
theorem codec_faultless :
    (∀ buffer : Bytes,
      (match Event.decode buffer with
        | .ok event => Header.size ≤ buffer.length ∧
            Event.consume buffer = .ok (some event, buffer.length)
        | .error refusal => buffer.length < Header.size ∧
            refusal = .tooShort buffer.length Header.size ∧
            Event.consume buffer = .ok (none, buffer.length)) ∧
      (match Frame.decode buffer with
        | .ok (_, count) => count = Frame.lead + Frame.announced buffer
        | .error (.tooShort length needed) =>
          (length = buffer.length ∧ needed = Frame.lead) ∨
            (length = Frame.announced buffer ∧ needed = Header.size)
        | .error (.frameLength length available) =>
          length = Frame.announced buffer ∧ available = buffer.length - Frame.lead
        | .error (.fault _) => False) ∧
      Event.printBuffer buffer = .ok (Event.textOfBuffer buffer)) ∧
    ∀ (event : Event) (buffer : Bytes), ∃ raw,
      event.write buffer = .ok (buffer ++ raw) ∧
      Frame.encodeInto event buffer = .ok (buffer ++ (Wire.bytes Frame.lead event.size ++ raw)) ∧
      Frame.encode event = .ok (Wire.bytes Frame.lead event.size ++ raw) ∧
      event.print = .ok event.text ∧
      raw.length = event.size ∧ raw.drop (Header.size + Packet.size) = event.payload := by
  constructor
  · intro buffer
    refine ⟨?_, Frame.decode_faultless buffer, Event.printBuffer_eq buffer⟩
    rw [Event.consume_eq, Event.decode_eq, Event.ofBuffer?]
    by_cases hshort : buffer.length < Header.size
    · rw [if_pos hshort, if_pos hshort]
      exact ⟨hshort, rfl, rfl⟩
    · rw [if_neg hshort, if_neg hshort]
      exact ⟨Nat.le_of_not_lt hshort, rfl⟩
  · intro event buffer
    have hframe : Frame.ofBody event.bytes = Wire.bytes Frame.lead event.size ++ event.bytes := by
      rw [Frame.ofBody, event.bytes_length]
    have hencodeInto := Frame.encodeInto_eq event buffer
    have hencode := Frame.encode_eq event
    rw [hframe] at hencodeInto hencode
    exact ⟨event.bytes, event.write_eq buffer, hencodeInto, hencode, event.print_eq,
      event.bytes_length, event.drop_bytes⟩

end FlowMeter
