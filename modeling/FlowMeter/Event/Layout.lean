import FlowMeter.Event.Basic

/-!
# The layout of a capture buffer

A header of 72 bytes; for a data event a section of 16 bytes with the codes and lengths of the
packet; then the payload. Reserved bytes are written as zero and not looked at. A declared payload
that is longer than what is there is clamped, and a data event without a complete section is read as
its header.
-/

namespace FlowMeter

namespace Header

/-- The number of bytes of a header. -/
def size : Nat := 72

/-- Reads a header. -/
def read (window : Bytes) : Except Fault Header :=
  if window.length < size then .error .shortHeader
  else do
    return {
      kind := EventKind.ofCode (← Wire.read32 window)
      pid := ← Wire.read32 (← Wire.tail 4 window)
      socketHash := ← Wire.read32 (← Wire.tail 8 window)
      time := ← Wire.read64 (← Wire.tail 16 window)
      source := ← Address.read (← Wire.tail 24 window)
      destination := ← Address.read (← Wire.tail 44 window)
      sourcePort := ← Wire.read16 (← Wire.tail 64 window)
      destinationPort := ← Wire.read16 (← Wire.tail 66 window) }

/-- Writes a header. -/
def write (header : Header) (window : Bytes) : Except Fault Bytes :=
  if window.length < size then .error .shortHeader
  else
    let cleared := List.replicate size 0 ++ window.drop size
    Wire.patch 0 (Wire.write32 header.kind.code) cleared >>=
      Wire.patch 4 (Wire.write32 header.pid) >>=
      Wire.patch 8 (Wire.write32 header.socketHash) >>=
      Wire.patch 16 (Wire.write64 header.time) >>=
      Wire.patch 24 header.source.write >>=
      Wire.patch 44 header.destination.write >>=
      Wire.patch 64 (Wire.write16 header.sourcePort) >>=
      Wire.patch 66 (Wire.write16 header.destinationPort)

end Header

namespace Packet

/-- The number of bytes of the section in front of the payload. -/
def size : Nat := 16

/-- The payload length that a section declares. -/
def declared (window : Bytes) : Except Fault Nat := do
  return (← Wire.read32 (← Wire.tail 8 window)).toNat

/-- Reads a packet. The window runs to the end of the buffer. -/
def read (window : Bytes) : Except Fault Packet :=
  if window.length < size then .error .shortSection
  else do
    return {
      direction := Direction.ofCode (← Wire.read8 window)
      protocol := Protocol.ofCode (← Wire.read8 (← Wire.tail 1 window))
      message := MessageKind.ofCode (← Wire.read8 (← Wire.tail 2 window))
      realLength := ← Wire.read32 (← Wire.tail 4 window)
      payload := ← Wire.slice size (size + Nat.min (← declared window) (window.length - size)) window }

/-- Writes the section in front of the payload. -/
def writeSection (packet : Packet) (window : Bytes) : Except Fault Bytes :=
  if window.length < size then .error .shortSection
  else
    let cleared := List.replicate size 0 ++ window.drop size
    Wire.patch 0 (Wire.write8 packet.direction.code) cleared >>=
      Wire.patch 1 (Wire.write8 packet.protocol.code) >>=
      Wire.patch 2 (Wire.write8 packet.message.code) >>=
      Wire.patch 4 (Wire.write32 packet.realLength) >>=
      Wire.patch 8 (Wire.write32 packet.payload.length.toUInt32)

/-- What is noted while a packet is read: that its payload is clamped. -/
def notices (window : Bytes) : List Event.Notice :=
  match declared window with
  | .ok declared =>
    let available := window.length - size
    if available < declared then [.clamped declared available] else []
  | .error _ => []

end Packet

namespace Event

/-- The event that a complete header introduces. -/
def readWhole (buffer : Bytes) : Except Fault Event := do
  let header ← Header.read buffer
  if header.kind = .data ∧ Header.size + Packet.size ≤ buffer.length then
    return ⟨header, some (← Packet.read (← Wire.tail Header.size buffer))⟩
  else return ofHeader header

/-- Reads a buffer as an event; it needs a complete header. -/
def decode (buffer : Bytes) : Except Refusal Event :=
  if buffer.length < Header.size then .error (.tooShort buffer.length Header.size)
  else
    match readWhole buffer with
    | .ok event => .ok event
    | .error fault => .error (.fault fault)

/-- Reads a buffer as an event if it is one. The whole buffer is consumed either way; tells how many bytes
it has. -/
def consume (buffer : Bytes) : Except Fault (Option Event × Nat) :=
  match decode buffer with
  | .ok event => .ok (some event, buffer.length)
  | .error (.fault fault) => .error fault
  | .error _ => .ok (none, buffer.length)

/-- What is noted about the packet of a buffer that can be read. -/
def packetNotices (buffer : Bytes) : List Notice :=
  match Header.read buffer with
  | .error _ => []
  | .ok header =>
    if header.kind ≠ .data then []
    else if Header.size + Packet.size ≤ buffer.length then Packet.notices (buffer.drop Header.size)
    else if Header.size < buffer.length then [.headerOnly buffer.length]
    else []

/-- What is noted while a buffer is read, or dropped because it is refused. -/
def notices (buffer : Bytes) : List Notice :=
  match decode buffer with
  | .ok _ => packetNotices buffer
  | .error refusal => [.dropped refusal]

/-- The number of bytes of an event in a buffer. -/
def size (event : Event) : Nat :=
  match event.carried with
  | some packet => Header.size + Packet.size + packet.payload.length
  | none => Header.size

/-- Writes an event into a window of its size. -/
def writeInto (event : Event) (window : Bytes) : Except Fault Bytes := do
  let window ← event.header.write window
  match event.carried with
  | none => return window
  | some packet =>
    let window ← Wire.patch Header.size packet.writeSection window
    Wire.patch (Header.size + Packet.size) (Wire.fill packet.payload) window

/-- Adds an event to a buffer. -/
def write (event : Event) (buffer : Bytes) : Except Fault Bytes :=
  Wire.patch buffer.length event.writeInto (buffer ++ List.replicate event.size 0)

end Event

end FlowMeter
