import FlowMeter.Event.Layout
import FlowMeter.Address.Text

/-!
# The text of an event

A line for each field; for a packet also a dump of its payload in hexadecimal digits and as text. The
dump has lines of 32 bytes, each with its offsets, and groups of four. The text is told as a value, and printed
with each digit of the dump looked up in a table.
-/

namespace FlowMeter

namespace Dump

/-- The line around a dump. -/
def separator : List Char := List.replicate 31 '#'

/-- The digit of a number below sixteen. -/
def hexDigit (n : Nat) : Char :=
  Char.ofNat (if n < 10 then '0'.toNat + n else 'A'.toNat + n - 10)

/-- The two digits of a byte. -/
def hexByte (b : UInt8) : List Char :=
  [hexDigit (b.toNat / 16), hexDigit (b.toNat % 16)]

/-- The digits in the order of their values. -/
def digits : List Char := "0123456789ABCDEF".toList

/-- Looks up the digit of a number. -/
def lookUpDigit (n : Nat) : Except Fault Char :=
  match digits[n]? with
  | some digit => .ok digit
  | none => .error .outside

/-- Looks up the two digits of a byte. -/
def lookUpByte (b : UInt8) : Except Fault (List Char) := do
  return [← lookUpDigit (b.toNat / 16), ← lookUpDigit (b.toNat % 16)]

/-- The offsets in front of a line. -/
def lineHead (offset : Nat) : List Char :=
  Decimal.padded 6 offset ++ " - ".toList ++ Decimal.padded 6 (offset + 32) ++ " : ".toList

/-- The digits of the byte at an offset, with what stands around them. -/
def cellOf (offset : Nat) (digits : List Char) : List Char :=
  (if offset % 32 = 0 then lineHead offset else []) ++
    (if offset % 4 = 0 then ['0', 'x'] else []) ++ digits ++
    (if offset % 4 = 3 then [' '] else []) ++ (if offset % 32 = 31 then ['\n'] else [])

/-- The part of a dump that the byte at an offset adds. -/
def cell (offset : Nat) (b : UInt8) : List Char :=
  cellOf offset (hexByte b)

/-- The lines of the bytes from an offset on. -/
def cells : Nat → Bytes → List Char
  | _, [] => []
  | offset, b :: rest => cell offset b ++ cells (offset + 1) rest

/-- Prints the lines of the bytes from an offset on, each digit looked up. -/
def printCells : Nat → Bytes → Except Fault (List Char)
  | _, [] => .ok []
  | offset, b :: rest => do
    let digits ← lookUpByte b
    return cellOf offset digits ++ (← printCells (offset + 1) rest)

/-- The lines of a dump between their separators. -/
def enclose (lines : List Char) : List Char :=
  separator ++ ['\n'] ++ lines ++ ['\n'] ++ separator ++ ['\n']

/-- The dump of some bytes. -/
def hex (bs : Bytes) : List Char :=
  enclose (cells 0 bs)

/-- Prints the dump of some bytes. -/
def print (bs : Bytes) : Except Fault (List Char) :=
  (printCells 0 bs).map enclose

/-- The character that shows a byte. -/
def shown (b : UInt8) : Char :=
  if 0x20 ≤ b ∧ b ≤ 0x7e then Char.ofNat b.toNat else '.'

end Dump

/-- A line that tells the value of a field. -/
def fieldLine (name value : String) : String :=
  name ++ " : " ++ value ++ "\n"

/-- The text of a header. -/
def Header.text (header : Header) : String :=
  fieldLine "EventType" header.kind.label ++
    fieldLine "PID" (toString header.pid) ++
    fieldLine "SocketHash" (toString header.socketHash) ++
    fieldLine "Time" (toString header.time) ++
    fieldLine "SrcAddress" header.source.text ++
    fieldLine "SrcPort" (toString header.sourcePort) ++
    fieldLine "DstAddress" header.destination.text ++
    fieldLine "DstPort" (toString header.destinationPort)

/-- The text of a packet whose payload has a dump. -/
def Packet.textOf (packet : Packet) (dump : List Char) : String :=
  fieldLine "PacketType" packet.direction.label ++
    fieldLine "ProtocolType" packet.protocol.label ++
    fieldLine "MessageType" packet.message.label ++
    fieldLine "RealLen" (toString packet.realLength) ++
    fieldLine "BufferLen" (toString packet.payload.length) ++
    fieldLine "Data" (String.ofList dump) ++
    fieldLine "Data String" ("\n" ++ String.ofList (packet.payload.map Dump.shown))

/-- The text of a packet. -/
def Packet.text (packet : Packet) : String :=
  packet.textOf (Dump.hex packet.payload)

/-- Prints a packet. -/
def Packet.print (packet : Packet) : Except Fault String :=
  (Dump.print packet.payload).map packet.textOf

/-- The text of an event. -/
def Event.text (event : Event) : String :=
  match event.carried with
  | some packet => event.header.text ++ "\n" ++ packet.text
  | none => event.header.text

/-- The text of a buffer. -/
def Event.textOfBuffer (buffer : Bytes) : String :=
  match Event.decode buffer with
  | .ok event => event.text
  | .error _ => "ErrorLength"

/-- Prints an event. -/
def Event.print (event : Event) : Except Fault String :=
  match event.carried with
  | some packet => packet.print.map (event.header.text ++ "\n" ++ ·)
  | none => .ok event.header.text

/-- Prints the event of a buffer, or that there is none. -/
def Event.printBuffer (buffer : Bytes) : Except Fault String :=
  match Event.decode buffer with
  | .ok event => event.print
  | .error (.fault fault) => .error fault
  | .error _ => .ok "ErrorLength"

end FlowMeter
