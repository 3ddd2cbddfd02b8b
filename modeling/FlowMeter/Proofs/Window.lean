import Mathlib.Algebra.Group.Nat.Defs
import FlowMeter.Wire.Word

/-!
# Words inside a window

How the word readers and writers act on a window of known parts. An access at an offset passes over
a front of the window and goes on in what follows; reading a number at an offset of a long enough
window is a total function of its bytes, and no access inside a long enough window is a fault.
-/

namespace FlowMeter.Wire

/-- Reading the bytes of a number gives it back, as far as they hold it. -/
theorem number_bytes (width n : Nat) : number (bytes width n) = n % 256 ^ width := by
  induction width generalizing n with
  | zero => simp [bytes, number, Nat.mod_one]
  | succ width ih =>
    have hlow : n.toUInt8.toNat = n % 256 := by simp [Nat.toUInt8, UInt8.toNat_ofNat']
    rw [bytes, number, ih, hlow, Nat.pow_succ, Nat.mul_comm (256 ^ width) 256, Nat.mod_mul]

/-- The number in the bytes of a window from an offset on. -/
def numberAt (offset width : Nat) (window : Bytes) : Nat :=
  number ((window.drop offset).take width)

/-- A number is smaller than its bytes allow. -/
theorem number_lt (bs : Bytes) : number bs < 256 ^ bs.length := by
  induction bs with
  | nil => decide
  | cons b rest ih =>
    have hb := b.toNat_lt
    rw [number, List.length_cons, Nat.pow_succ]
    omega

/-- The window from an offset inside it is what is left after dropping. -/
theorem tail_of_le {offset : Nat} {window : Bytes} (h : offset ≤ window.length) :
    tail offset window = .ok (window.drop offset) :=
  if_pos h

/-- Reading inside a window is no fault. -/
theorem read_of_le {width : Nat} {window : Bytes} (h : width ≤ window.length) :
    read width window = .ok (numberAt 0 width window) :=
  if_pos h

/-- A number of two bytes inside a window. -/
theorem read16_drop (offset : Nat) {window : Bytes} (h : offset + 2 ≤ window.length) :
    read16 (window.drop offset) = .ok (numberAt offset 2 window).toUInt16 := by
  rw [read16, read_of_le (by rw [List.length_drop]; omega)]
  rfl

/-- A number of four bytes inside a window. -/
theorem read32_drop (offset : Nat) {window : Bytes} (h : offset + 4 ≤ window.length) :
    read32 (window.drop offset) = .ok (numberAt offset 4 window).toUInt32 := by
  rw [read32, read_of_le (by rw [List.length_drop]; omega)]
  rfl

/-- A number of eight bytes inside a window. -/
theorem read64_drop (offset : Nat) {window : Bytes} (h : offset + 8 ≤ window.length) :
    read64 (window.drop offset) = .ok (numberAt offset 8 window).toUInt64 := by
  rw [read64, read_of_le (by rw [List.length_drop]; omega)]
  rfl

/-- A byte inside a window. -/
theorem read8_drop (offset : Nat) {window : Bytes} (h : offset < window.length) :
    read8 (window.drop offset) = .ok (window.getD offset 0) := by
  rw [List.drop_eq_getElem_cons h, read8, List.getD_eq_getElem?_getD, List.getElem?_eq_getElem h,
    Option.getD_some]

/-- The bytes between two offsets inside a window. -/
theorem slice_of_le {start stop : Nat} {window : Bytes} (h : start ≤ stop)
    (hstop : stop ≤ window.length) :
    slice start stop window = .ok ((window.drop start).take (stop - start)) :=
  if_pos ⟨h, hstop⟩

/-- Replacing a middle part of a window leaves what stands around it. -/
theorem replace_append {start stop : Nat} {front old rest bs : Bytes} (hfront : front.length = start)
    (hold : old.length = stop - start) (hbs : bs.length = stop - start) (h : start ≤ stop) :
    replace start stop bs (front ++ (old ++ rest)) = .ok (front ++ (bs ++ rest)) := by
  have hstop : (front ++ old).length = stop := by rw [List.length_append]; omega
  have hinside : stop ≤ (front ++ (old ++ rest)).length := by
    rw [← List.append_assoc, List.length_append]
    omega
  rw [replace, if_pos ⟨h, hinside, hbs⟩, List.take_left' hfront, ← List.append_assoc,
    List.drop_left' hstop, List.append_assoc]

/-- A number behind a front of the window is found by passing over the front. -/
theorem numberAt_append_right {offset width : Nat} {front rest : Bytes} (h : front.length ≤ offset) :
    numberAt offset width (front ++ rest) = numberAt (offset - front.length) width rest := by
  rw [numberAt, List.drop_append, List.drop_of_length_le h, List.nil_append, numberAt]

/-- The bytes of a number at the front of a window are read as the number. -/
theorem numberAt_bytes (width n : Nat) (rest : Bytes) :
    numberAt 0 width (bytes width n ++ rest) = n % 256 ^ width := by
  have htake : (bytes width n ++ rest).take width = bytes width n :=
    List.take_left' (bytes_length width n)
  rw [numberAt, List.drop_zero, htake, number_bytes]

/-- Two bytes hold a whole number of two bytes. -/
theorem toUInt16_mod (n : UInt16) : (n.toNat % 256 ^ 2).toUInt16 = n := by
  have hn := n.toNat_lt
  rw [Nat.mod_eq_of_lt (by omega), Nat.toUInt16_eq, UInt16.ofNat_toNat]

/-- Four bytes hold a whole number of four bytes. -/
theorem toUInt32_mod (n : UInt32) : (n.toNat % 256 ^ 4).toUInt32 = n := by
  have hn := n.toNat_lt
  rw [Nat.mod_eq_of_lt (by omega), Nat.toUInt32_eq, UInt32.ofNat_toNat]

/-- Eight bytes hold a whole number of eight bytes. -/
theorem toUInt64_mod (n : UInt64) : (n.toNat % 256 ^ 8).toUInt64 = n := by
  have hn := n.toNat_lt
  rw [Nat.mod_eq_of_lt (by omega), Nat.toUInt64_eq, UInt64.ofNat_toNat]

/-- Writing over a front of the width of the number leaves the rest. -/
theorem write_append {width : Nat} (n : Nat) {front : Bytes} (rest : Bytes)
    (h : front.length = width) :
    write width n (front ++ rest) = .ok (bytes width n ++ rest) := by
  rw [write, if_pos (by simp [h]), List.drop_left' h]

/-- A change at the very front of a window. -/
theorem patch_zero (change : Bytes → Except Fault Bytes) (window : Bytes) :
    patch 0 change window = change window := by
  simp only [patch, tail_of_le (Nat.zero_le _), List.drop_zero, List.take_zero, List.nil_append]
  change (change window >>= pure) = _
  rw [bind_pure]

/-- A change behind a front of the window leaves the front. -/
theorem patch_append {offset : Nat} {front rest : Bytes} (change : Bytes → Except Fault Bytes)
    (h : front.length ≤ offset) :
    patch offset change (front ++ rest) =
      (patch (offset - front.length) change rest).map (front ++ ·) := by
  have htail : tail offset (front ++ rest) = tail (offset - front.length) rest := by
    rw [tail, tail, List.drop_append, List.drop_of_length_le h, List.nil_append, List.length_append]
    by_cases hinside : offset ≤ front.length + rest.length
    · rw [if_pos hinside, if_pos (by omega)]
    · rw [if_neg hinside, if_neg (by omega)]
  have hfront : (front ++ rest).take offset = front ++ rest.take (offset - front.length) := by
    rw [List.take_append, List.take_of_length_le h]
  simp only [patch, htail, hfront]
  cases tail (offset - front.length) rest with
  | error fault => rfl
  | ok window =>
    simp only [bind, Except.bind]
    cases change window with
    | error fault => rfl
    | ok changed => simp only [List.append_assoc, pure, Except.pure, Except.map]

end FlowMeter.Wire
