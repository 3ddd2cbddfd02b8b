import Mathlib.Tactic.IntervalCases
import Mathlib.Tactic.MkIffOfInductiveProp
import FlowMeter.Proofs.Layout

/-!
# Canonical buffers

Many buffers are read as one event: reserved bytes are not looked at, codes without a meaning stand for
none, an address of the long form has many tags, and bytes behind the packet are left out. Writing the
event gives one of these buffers, the canonical one. So a buffer that is read and written again comes back
as it was exactly where it is canonical; every other one comes back canonical, no longer than it was, and
is read as the same event.
-/

namespace FlowMeter

/-- Bytes in front of others make up a window exactly where the window starts with them and the others are
the rest. -/
theorem append_eq_iff_take_drop {A : Type} {front rest window : List A} :
    front ++ rest = window ↔ front = window.take front.length ∧ rest = window.drop front.length := by
  constructor
  · rintro rfl
    exact ⟨List.take_left.symm, List.drop_left.symm⟩
  · rintro ⟨hfront, hrest⟩
    exact (congrArg₂ (· ++ ·) hfront hrest).trans (List.take_append_drop ..)

namespace Wire

/-- The bytes of a window from an offset on, as many as the width, are all zero. -/
def ZerosAt (offset width : Nat) (window : Bytes) : Prop :=
  ∀ b ∈ (window.drop offset).take width, b = 0

instance (offset width : Nat) (window : Bytes) : Decidable (ZerosAt offset width window) :=
  inferInstanceAs (Decidable (∀ b ∈ (window.drop offset).take width, b = 0))

variable {offset width : Nat} {window : Bytes}

/-- Inside a window a number has as many bytes as its width. -/
theorem length_drop_take (h : offset + width ≤ window.length) :
    ((window.drop offset).take width).length = width := by
  rw [List.length_take, List.length_drop]
  omega

/-- Reserved bytes are written as they are exactly where they are zero. -/
theorem replicate_eq_iff (h : offset + width ≤ window.length) :
    List.replicate width 0 = (window.drop offset).take width ↔ ZerosAt offset width window := by
  rw [eq_comm, List.eq_replicate_iff, ZerosAt]
  exact and_iff_right (length_drop_take h)

/-- The bytes of a number inside a window are the bytes of the window. -/
theorem bytes_numberAt (h : offset + width ≤ window.length) :
    bytes width (numberAt offset width window) = (window.drop offset).take width := by
  have hbytes := bytes_number ((window.drop offset).take width)
  rwa [length_drop_take h] at hbytes

/-- A number inside a window fits its width. -/
theorem numberAt_lt (h : offset + width ≤ window.length) :
    numberAt offset width window < 256 ^ width := by
  have hnumber := number_lt ((window.drop offset).take width)
  rwa [length_drop_take h] at hnumber

/-- A byte is the byte of a window at an offset. -/
theorem singleton_eq_iff {b : UInt8} (h : offset + 1 ≤ window.length) :
    [b] = (window.drop offset).take 1 ↔ b = window.getD offset 0 := by
  rw [List.drop_eq_getElem_cons h, List.take_succ_cons, List.take_zero, List.getD_eq_getElem?_getD,
    List.getElem?_eq_getElem h, Option.getD_some]
  exact ⟨fun hb => (List.cons.inj hb).1, congrArg ([·])⟩

/-- A number of four bytes fits a word of 32 bits. -/
theorem toNat_numberAt (h : offset + 4 ≤ window.length) :
    (numberAt offset 4 window).toUInt32.toNat = numberAt offset 4 window :=
  UInt32.toNat_ofNat_of_lt' (numberAt_lt h)

/-- The number in two bytes of a window is written as these bytes. -/
theorem bytes_toUInt16_numberAt (h : offset + 2 ≤ window.length) :
    bytes 2 (numberAt offset 2 window).toUInt16.toNat = (window.drop offset).take 2 := by
  rw [Nat.toUInt16_eq, UInt16.toNat_ofNat_of_lt' (numberAt_lt h), bytes_numberAt h]

/-- The number in four bytes of a window is written as these bytes. -/
theorem bytes_toUInt32_numberAt (h : offset + 4 ≤ window.length) :
    bytes 4 (numberAt offset 4 window).toUInt32.toNat = (window.drop offset).take 4 := by
  rw [toNat_numberAt h, bytes_numberAt h]

/-- The number in eight bytes of a window is written as these bytes. -/
theorem bytes_toUInt64_numberAt (h : offset + 8 ≤ window.length) :
    bytes 8 (numberAt offset 8 window).toUInt64.toNat = (window.drop offset).take 8 := by
  rw [Nat.toUInt64_eq, UInt64.toNat_ofNat_of_lt' (numberAt_lt h), bytes_numberAt h]

/-- A number is written as the bytes of a window exactly where it is the number of the window. -/
theorem bytes_eq_iff {n : Nat} (h : offset + width ≤ window.length) (hn : n < 256 ^ width) :
    bytes width n = (window.drop offset).take width ↔ n = numberAt offset width window := by
  rw [← bytes_numberAt h]
  constructor
  · intro hbytes
    have hnumber := congrArg number hbytes
    rwa [number_bytes, number_bytes, Nat.mod_eq_of_lt hn, Nat.mod_eq_of_lt (numberAt_lt h)] at hnumber
  · exact congrArg _

end Wire

/-! A code is written as it was read exactly where it means something. -/

/-- The codes of the kinds of events are the numbers up to four; others are not written. -/
theorem EventKind.code_ofCode_iff (code : Nat) :
    (ofCode code.toUInt32).code.toNat = code ↔ code ≤ 4 := by
  constructor
  · intro h
    rw [← h]
    cases ofCode code.toUInt32 <;> decide
  · intro h
    interval_cases code <;> rfl

/-- Codes of one byte up to a bound are written as they were read, and no others, where each of them is the
code of what it is read as. -/
theorem code_ofCode_iff_of_le {A : Type} {code : A → UInt8} {ofCode : UInt8 → A} {bound : UInt8}
    (hcode : ∀ a, code a ≤ bound)
    (hofCode : ∀ n ≤ bound.toNat, code (ofCode (UInt8.ofNat n)) = UInt8.ofNat n) (b : UInt8) :
    code (ofCode b) = b ↔ b ≤ bound := by
  constructor
  · intro h
    rw [← h]
    exact hcode _
  · intro h
    have hb := hofCode b.toNat (UInt8.le_iff_toNat_le.mp h)
    rwa [UInt8.ofNat_toNat] at hb

/-- The codes of the directions are the numbers up to two. -/
theorem Direction.code_ofCode_iff (code : UInt8) : (ofCode code).code = code ↔ code ≤ 2 :=
  code_ofCode_iff_of_le (fun direction => by cases direction <;> decide) (by decide) code

/-- The codes of asking and answering are the numbers up to two. -/
theorem MessageKind.code_ofCode_iff (code : UInt8) : (ofCode code).code = code ↔ code ≤ 2 :=
  code_ofCode_iff_of_le (fun message => by cases message <;> decide) (by decide) code

/-- The codes of the protocols are the numbers up to nine. -/
theorem Protocol.code_ofCode_iff (code : UInt8) : (ofCode code).code = code ↔ code ≤ 9 :=
  code_ofCode_iff_of_le (fun protocol => by cases protocol <;> decide) (by decide) code

namespace Address

/-- A window that starts with an address as it is written: the tag is that of a form, and bytes that the
short form does not need are zero. -/
@[mk_iff]
structure Canonical (window : Bytes) : Prop where
  tag : Wire.numberAt 0 4 window ≤ 1
  padding : Wire.numberAt 0 4 window = 0 → Wire.ZerosAt 8 12 window

instance (window : Bytes) : Decidable (Canonical window) :=
  decidable_of_iff' _ (canonical_iff window)

/-- The short address in a window has the four bytes behind the tag. -/
theorem octets_ofWindow_v4 {window : Bytes} (h : size ≤ window.length) :
    (Address.v4 (Vector.ofFn fun i => window.getD (4 + i) 0)).octets = (window.drop 4).take 4 := by
  rw [size] at h
  have hlength := Wire.length_drop_take (show 4 + 4 ≤ window.length by omega)
  refine List.ext_getElem (by rw [octets_length_v4, hlength]) fun i hi _ => ?_
  rw [octets_length_v4] at hi
  simp only [octets, Vector.toList_ofFn, List.getElem_ofFn, List.getElem_take, List.getElem_drop,
    List.getD_eq_getElem?_getD, List.getElem?_eq_getElem (show 4 + i < window.length by omega),
    Option.getD_some]

/-- The two bytes of the group of two bytes. -/
theorem groupBytes_groupOf (high low : UInt8) : groupBytes (groupOf high low) = [high, low] := by
  have hhigh := high.toNat_lt
  have hlow := low.toNat_lt
  have hgroup : (groupOf high low).toNat = high.toNat * 256 + low.toNat := by
    rw [groupOf, UInt16.toNat_or, UInt16.toNat_shiftLeft]
    change high.toNat <<< 8 % 2 ^ 16 ||| low.toNat = _
    rw [Nat.mod_eq_of_lt (by rw [Nat.shiftLeft_eq]; omega),
      ← Nat.shiftLeft_add_eq_or_of_lt hlow, Nat.shiftLeft_eq]
  simp only [groupBytes, List.cons.injEq, and_true, ← UInt8.toNat_inj, UInt16.toNat_toUInt8,
    UInt16.toNat_shiftRight, hgroup]
  change (high.toNat * 256 + low.toNat) >>> 8 % 256 = _ ∧ _
  rw [Nat.shiftRight_eq_div_pow]
  omega

/-- The long address in a window has the sixteen bytes behind the tag. -/
theorem octets_ofWindow_v6 {window : Bytes} (h : size ≤ window.length) :
    (Address.v6 (Vector.ofFn fun i =>
      groupOf (window.getD (4 + 2 * i) 0) (window.getD (4 + (2 * i + 1)) 0))).octets =
      (window.drop 4).take 16 := by
  rw [size] at h
  have hbyte (i : Nat) (hi : i < 16) : ((window.drop 4).take 16)[i]? = some (window.getD (4 + i) 0) := by
    rw [List.getElem?_take_of_lt hi, List.getElem?_drop,
      List.getElem?_eq_getElem (show 4 + i < window.length by omega), List.getD_eq_getElem?_getD,
      List.getElem?_eq_getElem (show 4 + i < window.length by omega), Option.getD_some]
  have hlength := Wire.length_drop_take (show 4 + 16 ≤ window.length by omega)
  refine List.ext_getElem? fun i => ?_
  by_cases hi : i < 16
  · rw [hbyte i hi]
    simp only [octets, Vector.toList_ofFn]
    -- Each group is two bytes, of which the place is even or odd.
    obtain ⟨j, rfl | rfl⟩ := i.even_or_odd'
    · rw [(flatMap_groupBytes_getElem? _ j (by rw [List.length_ofFn]; omega)).1, List.getElem_ofFn]
      exact congrArg some (List.cons.inj (groupBytes_groupOf _ _)).1
    · rw [(flatMap_groupBytes_getElem? _ j (by rw [List.length_ofFn]; omega)).2, List.getElem_ofFn]
      exact congrArg some (List.cons.inj (List.cons.inj (groupBytes_groupOf _ _)).2).1
  · rw [List.getElem?_eq_none (by rw [octets_length_v6]; omega),
      List.getElem?_eq_none (by rw [hlength]; omega)]

/-- The address in a window is written as the window starts exactly where this is canonical. -/
theorem bytes_ofWindow_eq_iff {window : Bytes} (h : size ≤ window.length) :
    (ofWindow window).bytes = window.take size ↔ Canonical window := by
  have hzero : (Wire.numberAt 0 4 window).toUInt32 = 0 ↔ Wire.numberAt 0 4 window = 0 := by
    rw [← UInt32.toNat_inj, Wire.toNat_numberAt (by rw [size] at h; omega)]
    rfl
  have htag (tag : Nat) (htag : tag < 256 ^ 4) :
      Wire.bytes 4 tag = window.take 4 ↔ tag = Wire.numberAt 0 4 window :=
    Wire.bytes_eq_iff (show 0 + 4 ≤ window.length by rw [size] at h; omega) htag
  have hwindow : window.take size = window.take 4 ++ (window.drop 4).take 16 :=
    (List.take_add : window.take (4 + 16) = _)
  rw [ofWindow, hwindow, canonical_iff]
  by_cases hshort : Wire.numberAt 0 4 window = 0
  · have hpadding := Wire.replicate_eq_iff (show 8 + 12 ≤ window.length from h)
    have hbehind : (window.drop 4).take 16 = (window.drop 4).take 4 ++ (window.drop 8).take 12 :=
      (List.take_add : (window.drop 4).take (4 + 12) = _).trans (by rw [List.drop_drop])
    rw [if_pos (hzero.mpr hshort), bytes, octets_length_v4, octets_ofWindow_v4 h, hbehind]
    change Wire.bytes 4 0 ++ _ ++ _ = _ ↔ _
    rw [(htag 0 (by decide)).mpr hshort.symm, List.append_assoc, List.append_right_inj,
      List.append_right_inj, hpadding]
    simp [hshort]
  · rw [if_neg (mt hzero.mp hshort), bytes, octets_length_v6, octets_ofWindow_v6 h, Nat.sub_self,
      List.replicate_zero, List.append_nil, List.append_left_inj]
    change Wire.bytes 4 1 = _ ↔ _
    rw [htag 1 (by decide)]
    omega

end Address

namespace Header

/-- A window that starts with a header as it is written. -/
@[mk_iff]
structure Canonical (window : Bytes) : Prop where
  kind : Wire.numberAt 0 4 window ≤ 4
  gap : Wire.ZerosAt 12 4 window
  source : Address.Canonical (window.drop 24)
  destination : Address.Canonical (window.drop 44)
  rest : Wire.ZerosAt 68 4 window

instance (window : Bytes) : Decidable (Canonical window) :=
  decidable_of_iff' _ (canonical_iff window)

/-- The header in a window is written as the window starts exactly where this is canonical. -/
theorem bytes_ofWindow_append_eq_iff {window rest : Bytes} (h : size ≤ window.length) :
    (ofWindow window).bytes ++ rest = window ↔ Canonical window ∧ rest = window.drop size := by
  rw [size] at h
  -- A code is written as it was read where it is known, a gap where it is zero, a number always.
  have hkind : Wire.bytes 4 (ofWindow window).kind.code.toNat = (window.drop 0).take 4 ↔
      Wire.numberAt 0 4 window ≤ 4 := by
    rw [Wire.bytes_eq_iff (by omega) (ofWindow window).kind.code.toNat_lt]
    exact EventKind.code_ofCode_iff _
  have hpid : Wire.bytes 4 (ofWindow window).pid.toNat = (window.drop 4).take 4 :=
    Wire.bytes_toUInt32_numberAt (by omega)
  have hsocket : Wire.bytes 4 (ofWindow window).socketHash.toNat = (window.drop 8).take 4 :=
    Wire.bytes_toUInt32_numberAt (by omega)
  have hgap := Wire.replicate_eq_iff (show 12 + 4 ≤ window.length by omega)
  have htime : Wire.bytes 8 (ofWindow window).time.toNat = (window.drop 16).take 8 :=
    Wire.bytes_toUInt64_numberAt (by omega)
  have hsource : (ofWindow window).source.bytes = (window.drop 24).take 20 ↔
      Address.Canonical (window.drop 24) :=
    Address.bytes_ofWindow_eq_iff (by rw [List.length_drop, Address.size]; omega)
  have hdestination : (ofWindow window).destination.bytes = (window.drop 44).take 20 ↔
      Address.Canonical (window.drop 44) :=
    Address.bytes_ofWindow_eq_iff (by rw [List.length_drop, Address.size]; omega)
  have hsourcePort : Wire.bytes 2 (ofWindow window).sourcePort.toNat = (window.drop 64).take 2 :=
    Wire.bytes_toUInt16_numberAt (by omega)
  have hdestinationPort :
      Wire.bytes 2 (ofWindow window).destinationPort.toNat = (window.drop 66).take 2 :=
    Wire.bytes_toUInt16_numberAt (by omega)
  have hrest := Wire.replicate_eq_iff (show 68 + 4 ≤ window.length by omega)
  rw [List.drop_zero] at hkind
  simp only [bytes, List.append_assoc, append_eq_iff_take_drop, List.drop_drop, Wire.bytes_length,
    Address.bytes_length, List.length_replicate, Address.size, Nat.reduceAdd, size]
  simp only [hkind, hpid, hsocket, hgap, htime, hsource, hdestination, hsourcePort, hdestinationPort,
    hrest, true_and, canonical_iff, and_assoc]

end Header

namespace Packet

/-- A window that holds a packet as it is written, and nothing behind it. -/
@[mk_iff]
structure Canonical (window : Bytes) : Prop where
  direction : window.getD 0 0 ≤ 2
  protocol : window.getD 1 0 ≤ 9
  message : window.getD 2 0 ≤ 2
  gap : Wire.ZerosAt 3 1 window
  rest : Wire.ZerosAt 12 4 window
  length : Wire.numberAt 8 4 window = window.length - size

instance (window : Bytes) : Decidable (Canonical window) :=
  decidable_of_iff' _ (canonical_iff window)

/-- A payload is the rest of its window, and its length as declared, exactly where the declared length
is that of the rest. -/
theorem payload_ofWindow_eq_iff {window : Bytes} (h : size ≤ window.length) :
    Wire.bytes 4 (ofWindow window).payload.length.toUInt32.toNat = (window.drop 8).take 4 ∧
        (ofWindow window).payload = window.drop 16 ↔
      Wire.numberAt 8 4 window = window.length - size := by
  rw [size] at h
  have hdeclared : Wire.numberAt 8 4 window < 2 ^ 32 := Wire.numberAt_lt (by omega)
  have hpayload : (ofWindow window).payload = (window.drop 16).take (Wire.numberAt 8 4 window) := by
    rw [ofWindow, Wire.toNat_numberAt (by omega), size]
  have hlength : (ofWindow window).payload.length = min (Wire.numberAt 8 4 window) (window.length - 16) := by
    rw [hpayload, List.length_take, List.length_drop]
  have hsmall : (ofWindow window).payload.length < 2 ^ 32 := by omega
  rw [Nat.toUInt32_eq, UInt32.toNat_ofNat_of_lt' hsmall, Wire.bytes_eq_iff (by omega) hsmall, hlength,
    hpayload, List.take_eq_self_iff, List.length_drop, size]
  omega

/-- The packet in a window is written as the window exactly where this is canonical. -/
theorem bytes_ofWindow_eq_iff {window : Bytes} (h : size ≤ window.length) :
    (ofWindow window).sectionBytes ++ (ofWindow window).payload = window ↔ Canonical window := by
  have hpayload := payload_ofWindow_eq_iff h
  rw [size] at h
  have hdirection : [(ofWindow window).direction.code] = (window.drop 0).take 1 ↔ window.getD 0 0 ≤ 2 :=
    (Wire.singleton_eq_iff (by omega)).trans (Direction.code_ofCode_iff _)
  have hprotocol : [(ofWindow window).protocol.code] = (window.drop 1).take 1 ↔ window.getD 1 0 ≤ 9 :=
    (Wire.singleton_eq_iff (by omega)).trans (Protocol.code_ofCode_iff _)
  have hmessage : [(ofWindow window).message.code] = (window.drop 2).take 1 ↔ window.getD 2 0 ≤ 2 :=
    (Wire.singleton_eq_iff (by omega)).trans (MessageKind.code_ofCode_iff _)
  have hgap : [(0 : UInt8)] = (window.drop 3).take 1 ↔ Wire.ZerosAt 3 1 window :=
    Wire.replicate_eq_iff (show 3 + 1 ≤ window.length by omega)
  have hreal : Wire.bytes 4 (ofWindow window).realLength.toNat = (window.drop 4).take 4 :=
    Wire.bytes_toUInt32_numberAt (by omega)
  have hrest := Wire.replicate_eq_iff (show 12 + 4 ≤ window.length by omega)
  rw [List.drop_zero] at hdirection
  simp only [sectionBytes, List.append_assoc, append_eq_iff_take_drop, List.drop_drop, Wire.bytes_length,
    List.length_singleton, List.length_replicate, Nat.reduceAdd]
  simp only [hdirection, hprotocol, hmessage, hgap, hreal, hrest, true_and, canonical_iff, ← hpayload,
    and_left_comm]

end Packet

namespace Event

/-- A buffer that is an event as it is written: a header alone, or the header of a data event and a
packet that takes all the rest. -/
def Canonical (buffer : Bytes) : Prop :=
  Header.Canonical buffer ∧
    (buffer.length = Header.size ∨
      Wire.numberAt 0 4 buffer = 1 ∧ Header.size + Packet.size ≤ buffer.length ∧
        Packet.Canonical (buffer.drop Header.size))

instance (buffer : Bytes) : Decidable (Canonical buffer) :=
  inferInstanceAs (Decidable (_ ∧ _))

variable {buffer : Bytes}

/-- The code of a data event is one. -/
theorem kind_ofWindow_eq_data_iff (h : Header.size ≤ buffer.length) :
    (Header.ofWindow buffer).kind = .data ↔ Wire.numberAt 0 4 buffer = 1 := by
  have hcode : (Wire.numberAt 0 4 buffer).toUInt32 = 1 ↔ Wire.numberAt 0 4 buffer = 1 := by
    rw [← UInt32.toNat_inj, Wire.toNat_numberAt (by rw [Header.size] at h; omega)]
    rfl
  rw [← hcode, Header.ofWindow, EventKind.ofCode]
  split_ifs <;> simp_all

/-- An event has the header at the front of its buffer. -/
theorem header_ofBuffer (buffer : Bytes) : (ofBuffer buffer).header = Header.ofWindow buffer := by
  rw [ofBuffer]
  split_ifs <;> rfl

/-- The event in a buffer carries the packet of a complete section. -/
theorem carried_ofBuffer (buffer : Bytes) :
    (ofBuffer buffer).carried =
      if (Header.ofWindow buffer).kind = .data ∧ Header.size + Packet.size ≤ buffer.length then
        some (Packet.ofWindow (buffer.drop Header.size))
      else none := by
  rw [ofBuffer]
  split_ifs with hpacket
  · exact if_pos hpacket.1
  · exact ite_self _

/-- The event in a buffer has no packet that does not count. -/
theorem normal_ofBuffer (buffer : Bytes) : (ofBuffer buffer).normal = ofBuffer buffer := by
  rw [normal, carried_ofBuffer, ofBuffer]
  split_ifs <;> rfl

/-- The event in a buffer is written as the buffer exactly where this is canonical. -/
theorem bytes_ofBuffer_eq_iff (h : Header.size ≤ buffer.length) :
    (ofBuffer buffer).bytes = buffer ↔ Canonical buffer := by
  rw [Canonical, ← kind_ofWindow_eq_data_iff h, bytes, header_ofBuffer, carried_ofBuffer]
  split_ifs with hpacket
  · have hlong : buffer.length ≠ Header.size := by
      have := hpacket.2
      rw [Packet.size] at this
      omega
    rw [Header.bytes_ofWindow_append_eq_iff h,
      Packet.bytes_ofWindow_eq_iff (by rw [List.length_drop]; omega)]
    simp only [hlong, hpacket.1, hpacket.2, true_and, false_or]
  · have hrest : ([] : Bytes) = buffer.drop Header.size ↔ buffer.length = Header.size := by
      rw [eq_comm, List.drop_eq_nil_iff]
      omega
    rw [Header.bytes_ofWindow_append_eq_iff h, hrest]
    simp only [← and_assoc, hpacket, false_and, or_false]

/-- The payload of the event in a buffer has a length that its field can declare. -/
theorem length_payload_ofBuffer_lt (buffer : Bytes) : (ofBuffer buffer).payload.length < 2 ^ 32 := by
  rw [payload, carried_ofBuffer]
  split_ifs
  · exact (List.length_take_le ..).trans_lt (UInt32.toNat_lt _)
  · decide

/-- The event in a buffer is no longer than the buffer. -/
theorem size_ofBuffer_le (h : Header.size ≤ buffer.length) :
    (ofBuffer buffer).size ≤ buffer.length := by
  rw [size, carried_ofBuffer]
  split_ifs with hpacket
  · have hpayload : (Packet.ofWindow (buffer.drop Header.size)).payload.length ≤
        ((buffer.drop Header.size).drop Packet.size).length := List.length_take_le' ..
    rw [List.length_drop, List.length_drop] at hpayload
    dsimp only
    omega
  · exact h

/-- A buffer that holds a header is read and written without a fault. What is written is the buffer
exactly where this is canonical; it is never longer, and it is read as the same event. -/
theorem write_decode_eq_iff_canonical (h : Header.size ≤ buffer.length) :
    ∃ event raw, decode buffer = .ok event ∧ event.write [] = .ok raw ∧
      (raw = buffer ↔ Canonical buffer) ∧ raw.length ≤ buffer.length ∧ decode raw = .ok event := by
  refine ⟨ofBuffer buffer, (ofBuffer buffer).bytes, ?_, write_eq _ [], bytes_ofBuffer_eq_iff h, ?_, ?_⟩
  · rw [decode_eq, if_neg (Nat.not_lt.mpr h)]
  · rw [bytes_length]
    exact size_ofBuffer_le h
  · rw [decode_bytes, (ofBuffer_bytes_eq_normal_iff _).mpr (length_payload_ofBuffer_lt buffer),
      normal_ofBuffer]

/-- A header of zeros but for the tag of its source. -/
def tagged (tag : UInt8) : Bytes :=
  List.replicate 24 0 ++ [tag] ++ List.replicate 47 0

/-- The tag of the long form comes back; the next one is read as the long form too, and does not. -/
theorem write_decode_tagged :
    (∃ event, decode (tagged 1) = .ok event ∧ event.write [] = .ok (tagged 1)) ∧
      ∃ event raw, decode (tagged 2) = .ok event ∧ event.write [] = .ok raw ∧ raw ≠ tagged 2 ∧
        decode raw = .ok event := by
  obtain ⟨long, _, hlong, hwrite, hiff, -, -⟩ :=
    write_decode_eq_iff_canonical (show Header.size ≤ (tagged 1).length by decide)
  obtain ⟨odd, raw, hodd, hraw, hne, -, hsame⟩ :=
    write_decode_eq_iff_canonical (show Header.size ≤ (tagged 2).length by decide)
  obtain rfl := hiff.mpr (by decide +kernel)
  exact ⟨⟨long, hlong, hwrite⟩, odd, raw, hodd, hraw, mt hne.mp (by decide +kernel), hsame⟩

end Event

end FlowMeter
