import Mathlib.Data.List.TakeDrop
import FlowMeter.Event.Layout
import FlowMeter.Proofs.Window

/-!
# What the layout of a capture buffer holds

The bytes of an address, a header, a packet and an event stand in one order, and reading each of them
from a long enough window is a total function of the window. Writing is no fault and gives these bytes;
reading them gives back what was written, except for a payload whose length does not fit its field.
-/

namespace FlowMeter

namespace Address

/-- The address in the first bytes of a window. -/
def ofWindow (window : Bytes) : Address :=
  if (Wire.numberAt 0 4 window).toUInt32 = 0 then
    .v4 (Vector.ofFn fun i => window.getD (4 + i) 0)
  else
    .v6 (Vector.ofFn fun i => groupOf (window.getD (4 + 2 * i) 0) (window.getD (4 + (2 * i + 1)) 0))

/-- A byte of a part of a window is one of the window. -/
theorem getD_take_drop {window : Bytes} {count i : Nat} (h : i < count) :
    ((window.drop 4).take count).getD i 0 = window.getD (4 + i) 0 := by
  rw [List.getD_eq_getElem?_getD, List.getElem?_take_of_lt h, List.getElem?_drop,
    List.getD_eq_getElem?_getD]

/-- Reading an address from a long enough window is no fault. -/
theorem read_of_le {window : Bytes} (h : size ≤ window.length) :
    read window = .ok (ofWindow window) := by
  simp only [size] at h
  have htag : Wire.read32 window = .ok (Wire.numberAt 0 4 window).toUInt32 :=
    Wire.read32_drop 0 (by omega)
  rw [read, if_neg (by simp only [size]; omega), htag, Wire.slice_of_le (by decide) (by omega),
    Wire.slice_of_le (by decide) (by omega), ofWindow]
  simp only [bind, Except.bind, pure, Except.pure]
  split
  · congr 3
    funext i
    exact getD_take_drop i.isLt
  · congr 3
    funext i
    rw [getD_take_drop (by omega), getD_take_drop (by omega)]

/-- The two bytes of a group make up the group. -/
theorem groupOf_groupBytes (group : UInt16) :
    groupOf (group >>> 8).toUInt8 group.toUInt8 = group := by
  have hgroup := group.toNat_lt
  have hhigh : (group >>> 8).toUInt8.toUInt16.toNat = group.toNat / 256 := by
    simp [Nat.shiftRight_eq_div_pow]
    omega
  have hlow : group.toUInt8.toUInt16.toNat = group.toNat % 256 := by simp
  rw [← UInt16.toNat_inj, groupOf, UInt16.toNat_or, UInt16.toNat_shiftLeft, hhigh, hlow]
  change (group.toNat / 256) <<< 8 % 2 ^ 16 ||| group.toNat % 256 = group.toNat
  rw [Nat.mod_eq_of_lt (by rw [Nat.shiftLeft_eq]; omega),
    ← Nat.shiftLeft_add_eq_or_of_lt (by omega), Nat.shiftLeft_eq]
  omega

/-- The bytes of each group stand at twice its place. -/
theorem flatMap_groupBytes_getElem? (groups : List UInt16) (i : Nat) (hi : i < groups.length) :
    (groups.flatMap groupBytes)[2 * i]? = some (groups[i] >>> 8).toUInt8 ∧
      (groups.flatMap groupBytes)[2 * i + 1]? = some groups[i].toUInt8 := by
  induction groups generalizing i with
  | nil => simp at hi
  | cons group rest ih =>
    cases i with
    | zero => exact ⟨rfl, rfl⟩
    | succ i =>
      have hrest := ih i (by simpa using hi)
      simpa [groupBytes, Nat.mul_add] using hrest

/-- A short address has four octets. -/
theorem octets_length_v4 (octets : Vector UInt8 4) : (Address.v4 octets).octets.length = 4 :=
  octets.size_toArray

/-- A long address has sixteen octets. -/
theorem octets_length_v6 (groups : Vector UInt16 8) : (Address.v6 groups).octets.length = 16 := by
  have hgroup : (fun group => (groupBytes group).length) = fun _ => 2 := rfl
  rw [octets, List.length_flatMap, hgroup, List.map_const', List.sum_replicate_nat,
    Vector.length_toList]

/-- An address has at most sixteen octets. -/
theorem octets_length_le (address : Address) : address.octets.length ≤ 16 := by
  cases address with
  | v4 octets => rw [octets_length_v4]; decide
  | v6 groups => exact Nat.le_of_eq (octets_length_v6 groups)

/-- An address has its size in bytes. -/
theorem bytes_length (address : Address) : address.bytes.length = size := by
  have := address.octets_length_le
  simp only [bytes, List.length_append, Wire.bytes_length, List.length_replicate, size]
  omega

/-- Each octet of an address stands behind the tag. -/
theorem getD_bytes (address : Address) (rest : Bytes) (i : Nat) (hi : i < address.octets.length) :
    (address.bytes ++ rest).getD (4 + i) 0 = address.octets.getD i 0 := by
  have htag : (Wire.bytes 4 address.tag.toNat).length = 4 := Wire.bytes_length ..
  rw [List.getD_eq_getElem?_getD, bytes, List.append_assoc, List.append_assoc,
    List.getElem?_append_right (by omega), htag, Nat.add_sub_cancel_left,
    List.getElem?_append_left hi, List.getD_eq_getElem?_getD]

/-- The bytes of an address are read as the address. -/
theorem ofWindow_bytes (address : Address) (rest : Bytes) :
    ofWindow (address.bytes ++ rest) = address := by
  have htag : (Wire.numberAt 0 4 (address.bytes ++ rest)).toUInt32 = address.tag := by
    rw [bytes, List.append_assoc, List.append_assoc, Wire.numberAt_bytes, Wire.toUInt32_mod]
  rw [ofWindow, htag]
  cases address with
  | v4 octets =>
    rw [if_pos (by rfl)]
    congr 1
    ext i hi
    have hlength : i < (Address.v4 octets).octets.length := by rwa [octets_length_v4]
    simp only [Vector.getElem_ofFn]
    rw [getD_bytes _ _ _ hlength]
    simp [Address.octets, hi]
  | v6 groups =>
    rw [if_neg (show ¬(Address.v6 groups).tag = 0 from nofun)]
    congr 1
    ext i hi : 1
    have hlength : 2 * i + 1 < (Address.v6 groups).octets.length := by rw [octets_length_v6]; omega
    obtain ⟨hhigh, hlow⟩ := flatMap_groupBytes_getElem? groups.toList i (by simpa using hi)
    simp only [Vector.getElem_ofFn]
    rw [getD_bytes _ _ _ (by omega), getD_bytes _ _ _ hlength]
    rw [octets, List.getD_eq_getElem?_getD, List.getD_eq_getElem?_getD, hhigh, hlow,
      Option.getD_some, Option.getD_some, groupOf_groupBytes, Vector.getElem_toList]

/-- Writing an address over a front of its size leaves the rest. -/
theorem write_append (address : Address) {front : Bytes} (rest : Bytes) (h : front.length = size) :
    address.write (front ++ rest) = .ok (address.bytes ++ rest) := by
  have hsplit : List.replicate size (0 : UInt8) = List.replicate 4 0 ++ List.replicate 16 0 := rfl
  have hroom : List.replicate 16 (0 : UInt8) = List.replicate 4 0 ++ List.replicate 12 0 := rfl
  have htag := Wire.bytes_length 4 address.tag.toNat
  rw [write, if_neg (by simp [h]), List.drop_left' h, hsplit, List.append_assoc]
  simp only [Wire.write32, Wire.write_append _ _ List.length_replicate, bind, Except.bind]
  cases address with
  | v4 octets =>
    have hoctets := octets_length_v4 octets
    rw [hroom, List.append_assoc, Wire.replace_append htag List.length_replicate hoctets (by decide),
      bytes, hoctets, List.append_assoc, List.append_assoc]
  | v6 groups =>
    have hoctets := octets_length_v6 groups
    rw [Wire.replace_append htag List.length_replicate hoctets (by decide), bytes, hoctets, Nat.sub_self,
      List.replicate_zero, List.append_nil, List.append_assoc]

end Address

namespace Header

/-- The bytes of a header; reserved bytes are zero. -/
def bytes (header : Header) : Bytes :=
  Wire.bytes 4 header.kind.code.toNat ++ (Wire.bytes 4 header.pid.toNat ++
    (Wire.bytes 4 header.socketHash.toNat ++ (List.replicate 4 0 ++
      (Wire.bytes 8 header.time.toNat ++ (header.source.bytes ++ (header.destination.bytes ++
        (Wire.bytes 2 header.sourcePort.toNat ++ (Wire.bytes 2 header.destinationPort.toNat ++
          List.replicate 4 0))))))))

/-- The header in the first bytes of a window. -/
def ofWindow (window : Bytes) : Header where
  kind := EventKind.ofCode (Wire.numberAt 0 4 window).toUInt32
  pid := (Wire.numberAt 4 4 window).toUInt32
  socketHash := (Wire.numberAt 8 4 window).toUInt32
  time := (Wire.numberAt 16 8 window).toUInt64
  source := Address.ofWindow (window.drop 24)
  destination := Address.ofWindow (window.drop 44)
  sourcePort := (Wire.numberAt 64 2 window).toUInt16
  destinationPort := (Wire.numberAt 66 2 window).toUInt16

/-- A header has its size in bytes. -/
theorem bytes_length (header : Header) : header.bytes.length = size := by
  simp only [bytes, List.length_append, Wire.bytes_length, Address.bytes_length,
    List.length_replicate, Address.size, size]

/-- Reading a header from a long enough window is no fault. -/
theorem read_of_le {window : Bytes} (h : size ≤ window.length) :
    read window = .ok (ofWindow window) := by
  have htail (offset : Nat) (ho : offset ≤ size) :
      Wire.tail offset window = .ok (window.drop offset) :=
    Wire.tail_of_le (by omega)
  have haddress (offset : Nat) (ho : offset + 20 ≤ size) :
      Address.read (window.drop offset) = .ok (Address.ofWindow (window.drop offset)) :=
    Address.read_of_le (by rw [List.length_drop, Address.size]; omega)
  have hkind : Wire.read32 window = .ok (Wire.numberAt 0 4 window).toUInt32 :=
    Wire.read32_drop 0 (by simp only [size] at h; omega)
  simp only [size] at h htail haddress
  rw [read, if_neg (by simp only [size]; omega), hkind, htail 4 (by decide), htail 8 (by decide),
    htail 16 (by decide), htail 24 (by decide), htail 44 (by decide), htail 64 (by decide),
    htail 66 (by decide)]
  simp only [bind, Except.bind]
  rw [Wire.read32_drop _ (by omega), Wire.read32_drop _ (by omega), Wire.read64_drop _ (by omega),
    haddress 24 (by decide), haddress 44 (by decide), Wire.read16_drop _ (by omega),
    Wire.read16_drop _ (by omega)]
  rfl

/-- The bytes of a header are read as the header. -/
theorem ofWindow_bytes (header : Header) (rest : Bytes) :
    ofWindow (header.bytes ++ rest) = header := by
  simp (disch := simp only [Wire.bytes_length, Address.bytes_length, List.length_replicate,
    Address.size, Nat.reduceLeDiff]) only [ofWindow, bytes, List.append_assoc,
    Wire.numberAt_append_right, Wire.bytes_length, Address.bytes_length, List.length_replicate,
    Address.size, Nat.reduceSub, Wire.numberAt_bytes, Wire.toUInt16_mod, Wire.toUInt32_mod,
    Wire.toUInt64_mod,
    EventKind.ofCode_code, List.drop_append, List.drop_of_length_le, List.nil_append, List.drop_zero,
    Address.ofWindow_bytes]

/-- Writing a header over a front of its size leaves the rest. -/
theorem write_append (header : Header) {front : Bytes} (rest : Bytes) (h : front.length = size) :
    header.write (front ++ rest) = .ok (header.bytes ++ rest) := by
  have hsplit : List.replicate size (0 : UInt8) =
      List.replicate 4 0 ++ (List.replicate 4 0 ++ (List.replicate 4 0 ++ (List.replicate 4 0 ++
        (List.replicate 8 0 ++ (List.replicate 20 0 ++ (List.replicate 20 0 ++
          (List.replicate 2 0 ++ (List.replicate 2 0 ++ List.replicate 4 0)))))))) := rfl
  have haddress (address : Address) (rest : Bytes) :
      address.write (List.replicate 20 0 ++ rest) = .ok (address.bytes ++ rest) :=
    address.write_append rest List.length_replicate
  rw [write, if_neg (by simp [h]), List.drop_left' h, hsplit]
  simp (disch := simp only [Wire.bytes_length, Address.bytes_length, List.length_replicate,
    Address.size, Nat.reduceLeDiff]) only [List.append_assoc,
    Wire.patch_append, Wire.patch_zero, Wire.write32, Wire.write64, Wire.write16,
    Wire.write_append, haddress, bind, Except.bind, Except.map, Wire.bytes_length,
    Address.bytes_length, List.length_replicate, Address.size, Nat.reduceSub, bytes]

end Header

namespace Packet

/-- The bytes of the section in front of the payload; reserved bytes are zero. -/
def sectionBytes (packet : Packet) : Bytes :=
  [packet.direction.code] ++ ([packet.protocol.code] ++ ([packet.message.code] ++ ([0] ++
    (Wire.bytes 4 packet.realLength.toNat ++ (Wire.bytes 4 packet.payload.length.toUInt32.toNat ++
      List.replicate 4 0)))))

/-- The packet in a window, with as much of its payload as there is. -/
def ofWindow (window : Bytes) : Packet where
  direction := Direction.ofCode (window.getD 0 0)
  protocol := Protocol.ofCode (window.getD 1 0)
  message := MessageKind.ofCode (window.getD 2 0)
  realLength := (Wire.numberAt 4 4 window).toUInt32
  payload := (window.drop size).take (Wire.numberAt 8 4 window).toUInt32.toNat

/-- The section of a packet has its size in bytes. -/
theorem sectionBytes_length (packet : Packet) : packet.sectionBytes.length = size := by
  simp only [sectionBytes, List.length_append, List.length_singleton, Wire.bytes_length,
    List.length_replicate, size]

/-- Reading a packet from a long enough window is no fault. -/
theorem read_of_le {window : Bytes} (h : size ≤ window.length) :
    read window = .ok (ofWindow window) := by
  have htail (offset : Nat) (ho : offset ≤ size) :
      Wire.tail offset window = .ok (window.drop offset) :=
    Wire.tail_of_le (by omega)
  have hfirst : Wire.read8 window = .ok (window.getD 0 0) :=
    Wire.read8_drop 0 (by simp only [size] at h; omega)
  -- The clamped payload ends where the window does, at the latest.
  have hpayload (declared : Nat) :
      Wire.slice size (size + Nat.min declared (window.length - size)) window =
        .ok ((window.drop size).take declared) := by
    have hmin : Nat.min declared (window.length - size) ≤ window.length - size := Nat.min_le_right ..
    rw [Wire.slice_of_le (Nat.le_add_right ..) (by omega), Nat.add_sub_cancel_left,
      List.take_eq_take_min (i := declared), List.length_drop]
  rw [read, if_neg (by omega), declared, hfirst]
  simp only [size] at h htail
  rw [htail 1 (by decide), htail 2 (by decide), htail 4 (by decide), htail 8 (by decide)]
  simp only [bind, Except.bind]
  rw [Wire.read8_drop _ (by omega), Wire.read8_drop _ (by omega), Wire.read32_drop _ (by omega),
    Wire.read32_drop _ (by omega)]
  simp only [pure, Except.pure, hpayload]
  rfl

/-- Writing a section over a front of its size leaves the rest. -/
theorem writeSection_append (packet : Packet) {front : Bytes} (rest : Bytes)
    (h : front.length = size) :
    packet.writeSection (front ++ rest) = .ok (packet.sectionBytes ++ rest) := by
  have hsplit : List.replicate size (0 : UInt8) =
      [0] ++ ([0] ++ ([0] ++ ([0] ++ (List.replicate 4 0 ++
        (List.replicate 4 0 ++ List.replicate 4 0))))) := rfl
  have hbyte (code : UInt8) (rest : Bytes) : Wire.write8 code ([0] ++ rest) = .ok ([code] ++ rest) :=
    rfl
  rw [writeSection, if_neg (by simp [h]), List.drop_left' h, hsplit]
  simp (disch := simp only [Wire.bytes_length, List.length_replicate, List.length_singleton,
    Nat.reduceLeDiff]) only [List.append_assoc,
    Wire.patch_append, Wire.patch_zero, Wire.write32, Wire.write_append, hbyte, bind, Except.bind,
    Except.map, Wire.bytes_length, List.length_singleton, Nat.reduceSub, sectionBytes]

/-- A packet is read back from its bytes, its payload as far as its length fits its field. -/
theorem ofWindow_bytes (packet : Packet) :
    ofWindow (packet.sectionBytes ++ packet.payload) =
      { packet with payload := packet.payload.take (packet.payload.length % 2 ^ 32) } := by
  have hpayload : (packet.sectionBytes ++ packet.payload).drop size = packet.payload :=
    List.drop_left' packet.sectionBytes_length
  rw [ofWindow, hpayload]
  simp (disch := simp only [Wire.bytes_length, List.length_replicate, List.length_singleton,
    Nat.reduceLeDiff]) only [sectionBytes, List.append_assoc, Wire.numberAt_append_right,
    Wire.bytes_length, List.length_singleton, Nat.reduceSub, Wire.numberAt_bytes,
    Wire.toUInt32_mod]
  simp only [List.cons_append, List.nil_append, List.getD_cons_zero, List.getD_cons_succ,
    Direction.ofCode_code, Protocol.ofCode_code, MessageKind.ofCode_code, Nat.toUInt32_eq,
    UInt32.toNat_ofNat']

/-- A payload whose length fits its field, and no other, is read back whole. -/
theorem withPayload_take_eq_self_iff (packet : Packet) :
    { packet with payload := packet.payload.take (packet.payload.length % 2 ^ 32) } = packet ↔
      packet.payload.length < 2 ^ 32 := by
  obtain ⟨direction, protocol, message, realLength, payload⟩ := packet
  simp only [Packet.mk.injEq, true_and, List.take_eq_self_iff]
  omega

end Packet

namespace Event

/-- The payload that an event carries. -/
def payload (event : Event) : Bytes :=
  match event.carried with
  | some packet => packet.payload
  | none => []

/-- Only a data event carries a packet. -/
theorem kind_of_carried {event : Event} {packet : Packet} (h : event.carried = some packet) :
    event.header.kind = .data := by
  unfold carried at h
  split at h
  · assumption
  · contradiction

/-- The bytes of an event. -/
def bytes (event : Event) : Bytes :=
  event.header.bytes ++
    match event.carried with
    | some packet => packet.sectionBytes ++ packet.payload
    | none => []

/-- The event in a buffer that holds a header. -/
def ofBuffer (buffer : Bytes) : Event :=
  if (Header.ofWindow buffer).kind = .data ∧ Header.size + Packet.size ≤ buffer.length then
    ⟨Header.ofWindow buffer, some (Packet.ofWindow (buffer.drop Header.size))⟩
  else ofHeader (Header.ofWindow buffer)

/-- The event in a buffer, where the buffer holds a header. -/
def ofBuffer? (buffer : Bytes) : Option Event :=
  if buffer.length < Header.size then none else some (ofBuffer buffer)

/-- An event has as many bytes as its size says. -/
theorem bytes_length (event : Event) : event.bytes.length = event.size := by
  unfold bytes size
  cases event.carried with
  | none => simp [Header.bytes_length]
  | some packet =>
    simp only [List.length_append, Header.bytes_length, Packet.sectionBytes_length]
    omega

/-- An event is no shorter than its header. -/
theorem header_le_size (event : Event) : Header.size ≤ event.size := by
  unfold size
  split <;> omega

/-- An event is no shorter than the payload that it carries. -/
theorem payload_le_size (event : Event) : event.payload.length ≤ event.size := by
  unfold payload size
  cases event.carried with
  | none => exact Nat.zero_le _
  | some packet => exact Nat.le_add_left ..

/-- Reading a buffer that holds a header is no fault. -/
theorem readWhole_of_le {buffer : Bytes} (h : Header.size ≤ buffer.length) :
    readWhole buffer = .ok (ofBuffer buffer) := by
  rw [readWhole, Header.read_of_le h, ofBuffer]
  simp only [bind, Except.bind]
  by_cases hpacket : (Header.ofWindow buffer).kind = .data ∧
      Header.size + Packet.size ≤ buffer.length
  · rw [if_pos hpacket, if_pos hpacket, Wire.tail_of_le h]
    simp only
    rw [Packet.read_of_le (by rw [List.length_drop]; omega)]
    rfl
  · rw [if_neg hpacket, if_neg hpacket]
    rfl

/-- Reading a buffer is never a fault: it succeeds exactly where a header is complete. -/
theorem decode_eq (buffer : Bytes) :
    decode buffer =
      if buffer.length < Header.size then .error (.tooShort buffer.length Header.size)
      else .ok (ofBuffer buffer) := by
  unfold decode
  split
  · rfl
  · rename_i hsize
    rw [readWhole_of_le (Nat.le_of_not_lt hsize)]

/-- All of a buffer is consumed, and no fault is met: there is an event exactly where a header is complete. -/
theorem consume_eq (buffer : Bytes) : consume buffer = .ok (ofBuffer? buffer, buffer.length) := by
  rw [consume, decode_eq, ofBuffer?]
  by_cases hshort : buffer.length < Header.size
  · rw [if_pos hshort, if_pos hshort]
  · rw [if_neg hshort, if_neg hshort]

/-- The bytes of an event hold a header, so that they are read. -/
theorem decode_bytes (event : Event) : decode event.bytes = .ok (ofBuffer event.bytes) := by
  rw [decode_eq, if_neg (by rw [bytes_length]; exact Nat.not_lt.mpr event.header_le_size)]

/-- A window of the size of an event takes its bytes, without a fault. -/
theorem writeInto_zeros (event : Event) :
    event.writeInto (List.replicate event.size 0) = .ok event.bytes := by
  unfold writeInto size bytes
  cases event.carried with
  | none =>
    have hheader := event.header.write_append [] (List.length_replicate (n := Header.size) (a := 0))
    rw [List.append_nil] at hheader
    rw [hheader]
    rfl
  | some packet =>
    simp only [← List.replicate_append_replicate, List.append_assoc]
    rw [event.header.write_append _ List.length_replicate]
    simp (disch := simp only [Header.bytes_length, Packet.sectionBytes_length, Nat.le_refl,
      Nat.le_add_right]) only [bind, Except.bind, Except.map, Wire.patch_append, Wire.patch_zero,
      Header.bytes_length, Packet.sectionBytes_length, Nat.sub_self, Nat.add_sub_cancel_left,
      packet.writeSection_append _ List.length_replicate]
    rw [Wire.fill, if_pos (List.length_replicate ..).symm]

/-- Writing an event adds its bytes to what the buffer holds. -/
theorem write_eq (event : Event) (buffer : Bytes) :
    event.write buffer = .ok (buffer ++ event.bytes) := by
  rw [write, Wire.patch_append _ (Nat.le_refl _), Nat.sub_self, Wire.patch_zero, writeInto_zeros]
  rfl

/-- The bytes of an event are read as the event without a packet that does not count, exactly where
the length of the payload fits its field. -/
theorem ofBuffer_bytes_eq_normal_iff (event : Event) :
    ofBuffer event.bytes = event.normal ↔ event.payload.length < 2 ^ 32 := by
  have hheader : Header.ofWindow event.bytes = event.header := Header.ofWindow_bytes _ _
  have hlength := event.bytes_length
  unfold ofBuffer normal payload
  unfold size at hlength
  rw [hheader, hlength]
  cases hcarried : event.carried with
  | none =>
    rw [if_neg (fun h => absurd h.2 (by decide))]
    simp [ofHeader]
  | some packet =>
    have hrest : event.bytes.drop Header.size = packet.sectionBytes ++ packet.payload := by
      rw [bytes, hcarried]
      exact List.drop_left' event.header.bytes_length
    rw [if_pos ⟨kind_of_carried hcarried, Nat.le_add_right _ _⟩, hrest, Packet.ofWindow_bytes]
    simp only [Event.mk.injEq, Option.some.injEq, true_and]
    exact packet.withPayload_take_eq_self_iff

end Event

end FlowMeter
