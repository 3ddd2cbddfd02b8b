import FlowMeter.Fault

/-!
# Words in bytes

Numbers of two, four and eight bytes, least byte first, at the front of a window of bytes. A window
that is too short is a fault. Writing leaves the rest of the window as it is.
-/

namespace FlowMeter

/-- A row of bytes. -/
abbrev Bytes := List UInt8

namespace Wire

/-- The number that bytes stand for, least byte first. -/
def number : Bytes → Nat
  | [] => 0
  | b :: rest => b.toNat + 256 * number rest

/-- The bytes of a number, least byte first; higher bytes are cut off. -/
def bytes : (width : Nat) → Nat → Bytes
  | 0, _ => []
  | width + 1, n => n.toUInt8 :: bytes width (n / 256)

/-- A number has as many bytes as the width says. -/
theorem bytes_length (width n : Nat) : (bytes width n).length = width := by
  induction width generalizing n with
  | zero => rfl
  | succ width ih => simp [bytes, ih]

/-- The bytes of a number that bytes stand for are these bytes. -/
theorem bytes_number (bs : Bytes) : bytes bs.length (number bs) = bs := by
  induction bs with
  | nil => rfl
  | cons b rest ih =>
    have hb := b.toNat_lt
    have hlow : (b.toNat + 256 * number rest).toUInt8 = b := by
      rw [← UInt8.toNat_inj]
      simp only [Nat.toUInt8, UInt8.toNat_ofNat']
      omega
    have hhigh : (b.toNat + 256 * number rest) / 256 = number rest := by omega
    simp only [List.length_cons, bytes, number, hlow, hhigh, ih]

/-- The number in the first bytes of a window. -/
def read (width : Nat) (window : Bytes) : Except Fault Nat :=
  if width ≤ window.length then .ok (number (window.take width)) else .error (.shortWord width)

/-- Replaces the first bytes of a window by those of a number. -/
def write (width n : Nat) (window : Bytes) : Except Fault Bytes :=
  if width ≤ window.length then .ok (bytes width n ++ window.drop width)
  else .error (.shortWord width)

/-- Reads a number of two bytes. -/
def read16 (window : Bytes) : Except Fault UInt16 :=
  (read 2 window).map (·.toUInt16)

/-- Reads a number of four bytes. -/
def read32 (window : Bytes) : Except Fault UInt32 :=
  (read 4 window).map (·.toUInt32)

/-- Reads a number of eight bytes. -/
def read64 (window : Bytes) : Except Fault UInt64 :=
  (read 8 window).map (·.toUInt64)

/-- Writes a number of two bytes. -/
def write16 (n : UInt16) (window : Bytes) : Except Fault Bytes :=
  write 2 n.toNat window

/-- Writes a number of four bytes. -/
def write32 (n : UInt32) (window : Bytes) : Except Fault Bytes :=
  write 4 n.toNat window

/-- Writes a number of eight bytes. -/
def write64 (n : UInt64) (window : Bytes) : Except Fault Bytes :=
  write 8 n.toNat window

/-- The window from an offset on. -/
def tail (offset : Nat) (window : Bytes) : Except Fault Bytes :=
  if offset ≤ window.length then .ok (window.drop offset) else .error .outside

/-- Writes into the window from an offset on. -/
def patch (offset : Nat) (change : Bytes → Except Fault Bytes) (window : Bytes) :
    Except Fault Bytes := do
  let changed ← change (← tail offset window)
  return window.take offset ++ changed

/-- The bytes between two offsets of a window. -/
def slice (start stop : Nat) (window : Bytes) : Except Fault Bytes :=
  if start ≤ stop ∧ stop ≤ window.length then .ok ((window.drop start).take (stop - start))
  else .error .outside

/-- Replaces the bytes between two offsets of a window by as many others. -/
def replace (start stop : Nat) (bs window : Bytes) : Except Fault Bytes :=
  if start ≤ stop ∧ stop ≤ window.length ∧ bs.length = stop - start then
    .ok (window.take start ++ bs ++ window.drop stop)
  else .error .outside

/-- Fills a window with bytes, which have to be as many as it holds. -/
def fill (bs : Bytes) (window : Bytes) : Except Fault Bytes :=
  if bs.length = window.length then .ok bs else .error .outside

/-- Replaces the first byte of a window. -/
def write8 (b : UInt8) : Bytes → Except Fault Bytes
  | [] => .error .outside
  | _ :: rest => .ok (b :: rest)

/-- Reads the first byte of a window. -/
def read8 : Bytes → Except Fault UInt8
  | [] => .error .outside
  | b :: _ => .ok b

end Wire

end FlowMeter
