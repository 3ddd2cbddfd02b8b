import FlowMeter.Proofs.Canonical

/-!
# Buffers that are cut

A buffer may be cut anywhere behind its header. What is read of the cut buffer is what is read of the whole one:
the header in any case, and the packet as soon as its section is complete, with as much of the payload as is
left. So the payload of a cut buffer is a front of the payload, and the bytes behind a payload that is
there do not matter.
-/

namespace FlowMeter

/-- A number inside the front of a window is the number of the window. -/
theorem Wire.numberAt_take {offset width limit : Nat} {window : Bytes} (h : offset + width ≤ limit) :
    numberAt offset width (window.take limit) = numberAt offset width window := by
  rw [numberAt, List.drop_take, List.take_take, Nat.min_eq_left (by omega), numberAt]

/-- A byte inside the front of a window is the byte of the window. -/
theorem getD_take {offset limit : Nat} {window : Bytes} (h : offset < limit) :
    (window.take limit).getD offset 0 = window.getD offset 0 := by
  rw [List.getD_eq_getElem?_getD, List.getElem?_take_of_lt h, List.getD_eq_getElem?_getD]

variable {limit : Nat} {window buffer : Bytes}

/-- An address is read from the front of a window that holds it. -/
theorem Address.ofWindow_take (h : size ≤ limit) : ofWindow (window.take limit) = ofWindow window := by
  simp only [size] at h
  have htag : Wire.numberAt 0 4 (window.take limit) = Wire.numberAt 0 4 window :=
    Wire.numberAt_take (by omega)
  rw [ofWindow, htag, ofWindow]
  split_ifs
  · congr 2
    funext i
    exact getD_take (by omega)
  · congr 2
    funext i
    rw [getD_take (by omega), getD_take (by omega)]

/-- A header is read from the front of a window that holds it. -/
theorem Header.ofWindow_take (h : size ≤ limit) : ofWindow (window.take limit) = ofWindow window := by
  simp only [size] at h
  have haddress (offset : Nat) (hoffset : offset + 20 ≤ limit) :
      Address.ofWindow ((window.take limit).drop offset) = Address.ofWindow (window.drop offset) := by
    rw [List.drop_take]
    exact Address.ofWindow_take (by rw [Address.size]; omega)
  rw [ofWindow, haddress 24 (by omega), haddress 44 (by omega)]
  simp (disch := omega) only [Wire.numberAt_take]
  rfl

/-- The front of a window that holds a section holds as much of the payload as there is room for. -/
theorem Packet.ofWindow_take (h : size ≤ limit) :
    ofWindow (window.take limit) =
      { ofWindow window with
        payload := (window.drop size).take
          (min (Wire.numberAt 8 4 window).toUInt32.toNat (limit - size)) } := by
  have hpayload : (window.take limit).drop size = (window.drop size).take (limit - size) :=
    List.drop_take
  rw [ofWindow, hpayload, List.take_take, ofWindow]
  simp only [size] at h
  simp (disch := omega) only [Wire.numberAt_take, getD_take]

namespace Event

/-- The length of the payload that a buffer declares in its section. -/
def declared (buffer : Bytes) : Nat :=
  Wire.numberAt (Header.size + 8) 4 buffer

/-- A section that is not cut declares what it did. -/
theorem declared_take (h : Header.size + Packet.size ≤ limit) :
    declared (buffer.take limit) = declared buffer :=
  Wire.numberAt_take (by simp only [Header.size, Packet.size] at h ⊢; omega)

/-- The packet behind the header of a buffer declares what the buffer does. -/
theorem toNat_numberAt_drop (h : Header.size + Packet.size ≤ buffer.length) :
    (Wire.numberAt 8 4 (buffer.drop Header.size)).toUInt32.toNat = declared buffer := by
  rw [Wire.toNat_numberAt (by rw [List.length_drop]; simp only [Packet.size] at h; omega),
    Wire.numberAt, List.drop_drop]
  rfl

/-- The packet of a data event whose section is complete. -/
theorem packet_ofBuffer (hkind : (Header.ofWindow buffer).kind = .data)
    (h : Header.size + Packet.size ≤ buffer.length) :
    (ofBuffer buffer).packet = some (Packet.ofWindow (buffer.drop Header.size)) := by
  rw [ofBuffer, if_pos ⟨hkind, h⟩]

/-- The payload of a buffer starts behind its section and is as long as declared, where there is so much. -/
theorem payload_ofWindow (h : Header.size + Packet.size ≤ buffer.length) :
    (Packet.ofWindow (buffer.drop Header.size)).payload =
      (buffer.drop (Header.size + Packet.size)).take (declared buffer) := by
  rw [Packet.ofWindow, toNat_numberAt_drop h, List.drop_drop]

/-- The packet of a buffer that is cut behind its section: its payload is cut with the buffer. -/
theorem packet_ofBuffer_take (hkind : (Header.ofWindow buffer).kind = .data)
    (h : Header.size + Packet.size ≤ limit) (hlimit : limit ≤ buffer.length) :
    (ofBuffer (buffer.take limit)).packet =
      some { Packet.ofWindow (buffer.drop Header.size) with
        payload := (buffer.drop (Header.size + Packet.size)).take
          (min (declared buffer) (limit - (Header.size + Packet.size))) } := by
  have hheader : Header.ofWindow (buffer.take limit) = Header.ofWindow buffer :=
    Header.ofWindow_take (by omega)
  rw [packet_ofBuffer (by rw [hheader, hkind]) (by rw [List.length_take_of_le hlimit]; exact h),
    List.drop_take, Packet.ofWindow_take (by omega), toNat_numberAt_drop (by omega), List.drop_drop,
    Nat.sub_sub]

/-- A buffer whose section is not complete has no packet. -/
theorem packet_ofBuffer_of_not (h : ¬((Header.ofWindow buffer).kind = .data ∧
    Header.size + Packet.size ≤ buffer.length)) : (ofBuffer buffer).packet = none := by
  rw [ofBuffer, if_neg h]
  rfl

/-- What is cut behind the declared payload does not matter. -/
theorem ofBuffer_take (h : Header.size + Packet.size + declared buffer ≤ limit)
    (hlimit : limit ≤ buffer.length) : ofBuffer (buffer.take limit) = ofBuffer buffer := by
  have hheader : Header.ofWindow (buffer.take limit) = Header.ofWindow buffer :=
    Header.ofWindow_take (by omega)
  have hpacket : (ofBuffer (buffer.take limit)).packet = (ofBuffer buffer).packet := by
    by_cases hkind : (Header.ofWindow buffer).kind = .data
    · rw [packet_ofBuffer_take hkind (by omega) hlimit, packet_ofBuffer hkind (by omega),
        Nat.min_eq_left (by omega), ← payload_ofWindow (by omega)]
    · rw [packet_ofBuffer_of_not fun hdata => hkind hdata.1,
        packet_ofBuffer_of_not fun hdata => hkind (hheader ▸ hdata.1)]
  rw [Event.mk.injEq]
  exact ⟨by rw [header_ofBuffer, header_ofBuffer, hheader], hpacket⟩

/-- The bytes behind the declared payload may be any. -/
theorem ofBuffer_take_append (rest : Bytes)
    (h : Header.size + Packet.size + declared buffer ≤ buffer.length) :
    ofBuffer (buffer.take (Header.size + Packet.size + declared buffer) ++ rest) = ofBuffer buffer := by
  generalize hlimit : Header.size + Packet.size + declared buffer = limit at h ⊢
  have hfront : (buffer.take limit ++ rest).take limit = buffer.take limit :=
    List.take_left' (List.length_take_of_le h)
  have hkept : declared ((buffer.take limit ++ rest).take limit) = declared (buffer.take limit ++ rest) :=
    declared_take (by omega)
  have hdeclared : declared (buffer.take limit ++ rest) = declared buffer := by
    rw [← hkept, hfront, declared_take (by omega)]
  have hinside : limit ≤ (buffer.take limit ++ rest).length := by
    rw [List.length_append, List.length_take_of_le h]
    omega
  calc ofBuffer (buffer.take limit ++ rest)
      = ofBuffer ((buffer.take limit ++ rest).take limit) :=
        (ofBuffer_take (by rw [hdeclared]; omega) hinside).symm
    _ = ofBuffer (buffer.take limit) := by rw [hfront]
    _ = ofBuffer buffer := ofBuffer_take (by omega) h

end Event

/-- A buffer that is cut behind its header is read like the whole one. The header is the same. There is a
packet where the event is a data event and the section is not cut; it is that of the whole buffer, but for
the payload, which is as much of the declared one as is left and so a front of that of the whole buffer. The
bytes behind the declared payload may be any. -/
theorem decode_truncated (hheader : Header.size ≤ limit) (hlimit : limit ≤ buffer.length) :
    ∃ cut whole, Event.decode (buffer.take limit) = .ok cut ∧ Event.decode buffer = .ok whole ∧
      cut.header = whole.header ∧
      (if whole.header.kind = .data ∧ Header.size + Packet.size ≤ limit then
        ∃ packet payload, whole.packet = some packet ∧
          payload = (buffer.drop (Header.size + Packet.size)).take
            (min (Event.declared buffer) (limit - (Header.size + Packet.size))) ∧
          cut.packet = some { packet with payload } ∧ payload <+: packet.payload
      else cut.packet = none) ∧
      ∀ rest, Header.size + Packet.size + Event.declared buffer ≤ buffer.length →
        Event.decode (buffer.take (Header.size + Packet.size + Event.declared buffer) ++ rest) =
          .ok whole := by
  -- The header lies in front of the cut: only the section and the payload can differ.
  have hcut : (buffer.take limit).length = limit := List.length_take_of_le hlimit
  have hsame : Header.ofWindow (buffer.take limit) = Header.ofWindow buffer :=
    Header.ofWindow_take hheader
  refine ⟨Event.ofBuffer (buffer.take limit), Event.ofBuffer buffer, ?_, ?_, ?_, ?_,
    fun rest hrest => ?_⟩
  · rw [Event.decode_eq, if_neg (by omega)]
  · rw [Event.decode_eq, if_neg (by omega)]
  · rw [Event.header_ofBuffer, Event.header_ofBuffer, hsame]
  · rw [Event.header_ofBuffer]
    split_ifs with hpacket
    · obtain ⟨hkind, hsection⟩ := hpacket
      refine ⟨_, _, Event.packet_ofBuffer hkind (by omega), rfl,
        Event.packet_ofBuffer_take hkind hsection hlimit, ?_⟩
      rw [Event.payload_ofWindow (by omega)]
      exact List.take_prefix_take_left (Nat.min_le_left ..)
    · apply Event.packet_ofBuffer_of_not
      rwa [hsame, hcut]
  · have hlength : Header.size ≤
        (buffer.take (Header.size + Packet.size + Event.declared buffer) ++ rest).length := by
      rw [List.length_append, List.length_take_of_le hrest]
      omega
    rw [Event.decode_eq, if_neg (by omega), Event.ofBuffer_take_append rest hrest]

/-- A data event with three bytes of payload, and two bytes behind them. -/
def spareBytes : Bytes :=
  (Event.ofPacket { pid := 7 } ⟨.inbound, .none, .none, 40, [97, 98, 99]⟩).bytes ++ [1, 2]

/-- A cut in the payload leaves a front of it, and a byte may be cut off and another one put in behind it. -/
theorem decode_truncated_spareBytes :
    Event.decode (spareBytes.take 90) =
        .ok (.ofPacket { pid := 7 } ⟨.inbound, .none, .none, 40, [97, 98]⟩) ∧
      Event.decode (spareBytes.take 91 ++ [9]) =
        .ok (.ofPacket { pid := 7 } ⟨.inbound, .none, .none, 40, [97, 98, 99]⟩) := by
  have hinside : Header.size ≤ 90 ∧ 90 ≤ spareBytes.length := by decide
  obtain ⟨⟨cutHeader, cutPacket⟩, whole, hcut, hwhole, hheader, hpacket, hrest⟩ :=
    decode_truncated hinside.1 hinside.2
  have hread : Event.decode spareBytes =
      .ok (.ofPacket { pid := 7 } ⟨.inbound, .none, .none, 40, [97, 98, 99]⟩) := rfl
  obtain rfl := Except.ok.inj (hread.symm.trans hwhole)
  rw [if_pos (by decide)] at hpacket
  obtain ⟨packet, payload, hwholePacket, rfl, hcutPacket, _⟩ := hpacket
  obtain rfl := Option.some.inj hwholePacket
  refine ⟨?_, hrest [9] (by decide)⟩
  dsimp only at hheader hcutPacket
  rw [hcut, hheader, hcutPacket]
  rfl

end FlowMeter
