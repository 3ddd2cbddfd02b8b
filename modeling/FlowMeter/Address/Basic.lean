import FlowMeter.Wire.Word

/-!
# Addresses

An address of the fourth or sixth version of the internet protocol, and its fixed form of twenty
bytes: a tag of four bytes, then sixteen bytes of address in network order. A short address takes the
first four of them.
-/

namespace FlowMeter

/-- An address: four octets, or eight groups of sixteen bits. -/
inductive Address where
  | v4 (octets : Vector UInt8 4)
  | v6 (groups : Vector UInt16 8)
deriving DecidableEq, Repr

namespace Address

/-- The unspecified address of the short form. -/
def zero4 : Address := .v4 (Vector.replicate 4 0)

/-- The unspecified address of the long form. -/
def zero6 : Address := .v6 (Vector.replicate 8 0)

instance : Inhabited Address := ⟨zero4⟩

/-- Whether an address has the short form. -/
def isV4 : Address → Bool
  | .v4 _ => true
  | .v6 _ => false

/-- The number of bytes of an address. -/
def size : Nat := 20

/-- The tag of an address. -/
def tag : Address → UInt32
  | .v4 _ => 0
  | .v6 _ => 1

/-- The two bytes of a group, high byte first. -/
def groupBytes (group : UInt16) : Bytes :=
  [(group >>> 8).toUInt8, group.toUInt8]

/-- The group of two bytes, high byte first. -/
def groupOf (high low : UInt8) : UInt16 :=
  (high.toUInt16 <<< 8) ||| low.toUInt16

/-- The bytes of an address in network order. -/
def octets : Address → Bytes
  | .v4 octets => octets.toList
  | .v6 groups => groups.toList.flatMap groupBytes

/-- Reads an address. Every tag other than zero stands for the long form. -/
def read (window : Bytes) : Except Fault Address :=
  if window.length < size then .error .shortAddress
  else do
    if (← Wire.read32 window) = 0 then
      let octets ← Wire.slice 4 8 window
      return .v4 (Vector.ofFn fun i => octets.getD i 0)
    else
      let octets ← Wire.slice 4 20 window
      return .v6 (Vector.ofFn fun i => groupOf (octets.getD (2 * i) 0) (octets.getD (2 * i + 1) 0))

/-- Writes an address. Bytes of the window that the address does not need become zero. -/
def write (address : Address) (window : Bytes) : Except Fault Bytes :=
  if window.length < size then .error .shortAddress
  else do
    let cleared := List.replicate size 0 ++ window.drop size
    let tagged ← Wire.write32 address.tag cleared
    match address with
    | .v4 _ => Wire.replace 4 8 address.octets tagged
    | .v6 _ => Wire.replace 4 20 address.octets tagged

/-- The bytes of an address. -/
def bytes (address : Address) : Bytes :=
  Wire.bytes 4 address.tag.toNat ++ address.octets ++
    List.replicate (16 - address.octets.length) 0

end Address

end FlowMeter
