import FlowMeter.Event.Text
import FlowMeter.Proofs.Canonical
import FlowMeter.Proofs.Isolation

/-!
# Texts tell events apart

The text of an event is a line for each field, and no value of a field breaks its line, so that equal texts
have equal values line by line. The dump of a payload goes over several lines; but its length is told in front
of it, and dumps of payloads of one length are equal only where the payloads are. So the text of an event tells
all of it but a packet that does not count, and the text of a buffer tells whether and as what it is read.
-/

namespace FlowMeter

/-- A label for each value, which differs from that of other values and does not break its line. -/
structure IsLabel {A : Type} (label : A → String) : Prop where
  injective : Function.Injective label
  noBreak : ∀ a, '\n' ∉ (label a).toList

namespace IsLabel

variable {A B : Type} {label : A → String}

/-- Values that are told by labelled values are labelled by them. -/
theorem comp (h : IsLabel label) {f : B → A} (hf : Function.Injective f) :
    IsLabel fun b => label (f b) where
  injective := h.injective.comp hf
  noBreak b := h.noBreak (f b)

/-- A line ends where it breaks. -/
theorem takeWhile_line (h : IsLabel label) (a : A) (rest : List Char) :
    ((label a).toList ++ '\n' :: rest).takeWhile (· ≠ '\n') = (label a).toList := by
  have hvalue : ∀ c ∈ (label a).toList, decide (c ≠ '\n') = true := by
    intro c hc
    rw [decide_eq_true_eq]
    rintro rfl
    exact h.noBreak a hc
  rw [List.takeWhile_append_of_pos hvalue, List.takeWhile_cons_of_neg (by decide), List.append_nil]

/-- Equal texts that start with lines of one field start with the same value and go on in the same way. -/
theorem fieldLine_append (h : IsLabel label) {name rest other : String} {a b : A}
    (htext : fieldLine name (label a) ++ rest = fieldLine name (label b) ++ other) :
    a = b ∧ rest = other := by
  simp only [fieldLine, String.append_assoc, String.append_right_inj] at htext
  have hlists := congrArg String.toList htext
  have hbreak : "\n".toList = ['\n'] := rfl
  simp only [String.toList_append, hbreak, List.singleton_append] at hlists
  have hvalue : (label a).toList = (label b).toList := by
    rw [← h.takeWhile_line a rest.toList, hlists, h.takeWhile_line b]
  rw [hvalue, List.append_cancel_left_eq, List.cons.injEq] at hlists
  exact ⟨h.injective (String.toList_injective hvalue), String.toList_injective hlists.2⟩

end IsLabel

/-- The text of a number is a label. -/
theorem isLabel_repr : IsLabel Nat.repr where
  injective a b h := by
    have hdigits : Nat.toDigits 10 a = Nat.toDigits 10 b := by
      rw [← Nat.toList_repr, ← Nat.toList_repr, h]
    calc a = Nat.ofDigitChars 10 (Nat.toDigits 10 a) 0 := Nat.ofDigitChars_ten_toDigits.symm
      _ = Nat.ofDigitChars 10 (Nat.toDigits 10 b) 0 := by rw [hdigits]
      _ = b := Nat.ofDigitChars_ten_toDigits
  noBreak a h := by
    rw [Nat.toList_repr] at h
    exact absurd (Nat.isDigit_of_mem_toDigits (by decide) (by decide) h) (by decide)

/-- A number of 16 bits has a text of digits that tells it. -/
theorem isLabel_uint16 : IsLabel fun n : UInt16 => toString n :=
  isLabel_repr.comp fun _ _ => UInt16.toNat_inj.mp

/-- A number of 32 bits has a text of digits that tells it. -/
theorem isLabel_uint32 : IsLabel fun n : UInt32 => toString n :=
  isLabel_repr.comp fun _ _ => UInt32.toNat_inj.mp

/-- A number of 64 bits has a text of digits that tells it. -/
theorem isLabel_uint64 : IsLabel fun n : UInt64 => toString n :=
  isLabel_repr.comp fun _ _ => UInt64.toNat_inj.mp

/-- The label of a kind of event tells it. -/
theorem EventKind.isLabel_label : IsLabel EventKind.label where
  injective a b := by cases a <;> cases b <;> decide
  noBreak a := by cases a <;> decide

/-- The label of a direction tells it. -/
theorem Direction.isLabel_label : IsLabel Direction.label where
  injective a b := by cases a <;> cases b <;> decide
  noBreak a := by cases a <;> decide

/-- The label of asking or answering tells it. -/
theorem MessageKind.isLabel_label : IsLabel MessageKind.label where
  injective a b := by cases a <;> cases b <;> decide
  noBreak a := by cases a <;> decide

/-- The label of a protocol tells it. -/
theorem Protocol.isLabel_label : IsLabel Protocol.label where
  injective a b := by cases a <;> cases b <;> decide
  noBreak a := by cases a <;> decide

/-- The text of an address is a label: digits, dots and colons. -/
theorem Address.isLabel_text : IsLabel Address.text where
  injective := Address.text_injective
  noBreak address := by
    have hoctet (octet : UInt8) : '\n' ∉ octetDigits octet := fun hmem =>
      absurd (isDigit_of_mem_octetDigits hmem) (by decide)
    have hoctets (octets : Vector UInt8 4) : '\n' ∉ text4 octets := by
      simp [text4_eq, hoctet]
    rw [text, String.toList_ofList]
    cases address with
    | v4 octets => exact hoctets octets
    | v6 groups =>
      rw [chars]
      split
      · simp [hoctets]
      · exact not_mem_textCompressed (by decide) (by decide) _

/-- A header is told apart by its text, whatever follows. -/
theorem Header.text_append {a b : Header} {rest other : String} (h : a.text ++ rest = b.text ++ other) :
    a = b ∧ rest = other := by
  simp only [Header.text, String.append_assoc] at h
  obtain ⟨hkind, h⟩ := EventKind.isLabel_label.fieldLine_append h
  obtain ⟨hpid, h⟩ := isLabel_uint32.fieldLine_append h
  obtain ⟨hsocket, h⟩ := isLabel_uint32.fieldLine_append h
  obtain ⟨htime, h⟩ := isLabel_uint64.fieldLine_append h
  obtain ⟨hsource, h⟩ := Address.isLabel_text.fieldLine_append h
  obtain ⟨hsourcePort, h⟩ := isLabel_uint16.fieldLine_append h
  obtain ⟨hdestination, h⟩ := Address.isLabel_text.fieldLine_append h
  obtain ⟨hdestinationPort, h⟩ := isLabel_uint16.fieldLine_append h
  refine ⟨?_, h⟩
  cases a
  cases b
  simp only [Header.mk.injEq]
  exact ⟨hkind, hpid, hsocket, htime, hsource, hdestination, hsourcePort, hdestinationPort⟩

namespace Dump

/-- A digit is read back. -/
theorem digitValue?_hexDigit {n : Nat} (h : n < 16) : Decimal.digitValue? 16 (hexDigit n) = some n := by
  interval_cases n <;> rfl

/-- The digits of a byte tell the byte. -/
theorem hexByte_injective : Function.Injective hexByte := by
  intro b c h
  have hb := b.toNat_lt
  have hc := c.toNat_lt
  have hdigit {m n : Nat} (hm : m < 16) (hn : n < 16) (hdigits : hexDigit m = hexDigit n) : m = n := by
    have hread := digitValue?_hexDigit hm
    rw [hdigits, digitValue?_hexDigit hn] at hread
    exact (Option.some.inj hread).symm
  simp only [hexByte, List.cons.injEq, and_true] at h
  have hhigh := hdigit (by omega) (by omega) h.1
  have hlow := hdigit (by omega) (by omega) h.2
  rw [← UInt8.toNat_inj]
  omega

/-- A cell tells its byte: what stands around the digits depends on the offset only. -/
theorem cell_append {offset : Nat} {b c : UInt8} {rest other : List Char}
    (h : cell offset b ++ rest = cell offset c ++ other) : b = c ∧ rest = other := by
  simp only [cell, cellOf, List.append_assoc, List.append_cancel_left_eq] at h
  obtain ⟨hbytes, h⟩ := List.append_inj h rfl
  exact ⟨hexByte_injective hbytes, List.append_cancel_left (List.append_cancel_left h)⟩

/-- Cells from one offset on tell their bytes, where these are as many. -/
theorem cells_append {offset : Nat} {bs cs : Bytes} {rest other : List Char}
    (hlength : bs.length = cs.length) (h : cells offset bs ++ rest = cells offset cs ++ other) :
    bs = cs ∧ rest = other := by
  induction bs generalizing offset cs with
  | nil =>
    obtain rfl := List.length_eq_zero_iff.mp hlength.symm
    exact ⟨rfl, h⟩
  | cons b bs ih =>
    obtain ⟨c, cs, rfl⟩ := List.exists_cons_of_length_eq_add_one hlength.symm
    simp only [cells, List.append_assoc] at h
    obtain ⟨rfl, hcells⟩ := cell_append h
    obtain ⟨rfl, hrest⟩ := ih (Nat.succ.inj hlength) hcells
    exact ⟨rfl, hrest⟩

/-- Dumps of payloads of one length tell the payloads. -/
theorem hex_append {bs cs : Bytes} {rest other : List Char} (hlength : bs.length = cs.length)
    (h : hex bs ++ rest = hex cs ++ other) : bs = cs := by
  simp only [hex, enclose, List.append_assoc, List.append_cancel_left_eq] at h
  exact (cells_append hlength h).1

end Dump

/-- A packet is told by its text. -/
theorem Packet.text_injective : Function.Injective Packet.text := by
  intro a b h
  simp only [Packet.text, Packet.textOf, String.append_assoc] at h
  obtain ⟨hdirection, h⟩ := Direction.isLabel_label.fieldLine_append h
  obtain ⟨hprotocol, h⟩ := Protocol.isLabel_label.fieldLine_append h
  obtain ⟨hmessage, h⟩ := MessageKind.isLabel_label.fieldLine_append h
  obtain ⟨hrealLength, h⟩ := isLabel_uint32.fieldLine_append h
  obtain ⟨hlength, h⟩ := isLabel_repr.fieldLine_append h
  have hpayload : a.payload = b.payload := by
    have hlists := congrArg String.toList h
    simp only [fieldLine, String.toList_append, String.toList_ofList, List.append_assoc,
      List.append_cancel_left_eq] at hlists
    exact Dump.hex_append hlength hlists
  cases a
  cases b
  simp only [Packet.mk.injEq]
  exact ⟨hdirection, hprotocol, hmessage, hrealLength, hpayload⟩

namespace Event

/-- What follows the header in the text of an event: an empty line and the packet, where one is carried. -/
def packetText : Option Packet → String
  | some packet => "\n" ++ packet.text
  | none => ""

/-- The text of an event is that of its header and that of the packet that it carries. -/
theorem text_eq (event : Event) : event.text = event.header.text ++ packetText event.carried := by
  rw [text]
  cases event.carried with
  | none => exact String.append_empty.symm
  | some packet => exact String.append_assoc

/-- The text behind a header tells whether there is a packet, and which. -/
theorem packetText_injective : Function.Injective packetText := by
  have hne (packet : Packet) : packetText none ≠ packetText (some packet) := by
    intro h
    have hlists := congrArg String.toList h
    simp [packetText] at hlists
  intro a b h
  cases a with
  | none =>
    cases b with
    | none => rfl
    | some other => exact absurd h (hne other)
  | some packet =>
    cases b with
    | none => exact absurd h.symm (hne packet)
    | some other =>
      rw [packetText, packetText, String.append_right_inj] at h
      rw [Packet.text_injective h]

/-- The text of an event tells its header and the packet that it carries, and no more. -/
theorem text_eq_iff {a b : Event} : a.text = b.text ↔ a.normal = b.normal := by
  rw [text_eq, text_eq, normal, normal, Event.mk.injEq]
  constructor
  · intro h
    obtain ⟨hheader, hpacket⟩ := Header.text_append h
    exact ⟨hheader, packetText_injective hpacket⟩
  · rintro ⟨hheader, hcarried⟩
    rw [hheader, hcarried]

/-- The text of an event starts with the name of its first field, so that it tells no refusal. -/
theorem text_ne_errorLength (event : Event) : event.text ≠ "ErrorLength" := by
  intro h
  have hlists := congrArg String.toList h
  simp [text_eq, Header.text, fieldLine] at hlists

/-- The text of a buffer is that of its event, if it is read. -/
theorem textOfBuffer_eq (buffer : Bytes) :
    textOfBuffer buffer =
      if buffer.length < Header.size then "ErrorLength" else (ofBuffer buffer).text := by
  rw [textOfBuffer, decode_eq]
  by_cases hshort : buffer.length < Header.size
  · rw [if_pos hshort, if_pos hshort]
  · rw [if_neg hshort, if_neg hshort]

/-- The text of a buffer tells whether it is read, and its event. -/
theorem textOfBuffer_eq_iff {buffer other : Bytes} :
    textOfBuffer buffer = textOfBuffer other ↔
      (buffer.length < Header.size ∧ other.length < Header.size) ∨
        ∃ event, decode buffer = .ok event ∧ decode other = .ok event := by
  rw [textOfBuffer_eq, textOfBuffer_eq, decode_eq, decode_eq]
  by_cases hshort : buffer.length < Header.size
  · by_cases hother : other.length < Header.size
    · simp [hshort, hother]
    · simp [hshort, hother, (text_ne_errorLength _).symm]
  · by_cases hother : other.length < Header.size
    · simp [hshort, hother, text_ne_errorLength]
    · simp [hshort, hother, text_eq_iff, normal_ofBuffer, eq_comm]

end Event

/-- The text of an event identifies it: two events have the same text exactly where they are the same without
a packet that does not count. The text of a buffer identifies its event: two buffers have the same text
exactly where both are too short for a header, or both are read as the same event. What stands for a buffer
that is too short is the text of no event. -/
theorem text_identifies_event :
    (∀ a b : Event, a.text = b.text ↔ a.normal = b.normal) ∧
      (∀ buffer other : Bytes, Event.textOfBuffer buffer = Event.textOfBuffer other ↔
        (buffer.length < Header.size ∧ other.length < Header.size) ∨
          ∃ event, Event.decode buffer = .ok event ∧ Event.decode other = .ok event) ∧
      (∀ buffer : Bytes, buffer.length < Header.size → Event.textOfBuffer buffer = "ErrorLength") ∧
      ∀ event : Event, event.text ≠ "ErrorLength" := by
  refine ⟨fun a b => Event.text_eq_iff, fun buffer other => Event.textOfBuffer_eq_iff,
    fun buffer hshort => ?_, Event.text_ne_errorLength⟩
  rw [Event.textOfBuffer_eq, if_pos hshort]

end FlowMeter
