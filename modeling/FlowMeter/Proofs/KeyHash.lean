import Mathlib.Data.Nat.Bitwise
import Mathlib.Data.Nat.ModEq
import Mathlib.Data.Nat.Prime.Basic
import FlowMeter.Flow.Key

/-!
# Hashes of keys

Every step of the mix of 64 bits can be undone: a xor with the own bits moved down, and a product with an
odd number. So the mix tells all numbers apart, and with it the hash of process and socket tells all
sockets apart. The hash of an endpoint follows from the process, the remote address and the remote port.
-/

namespace FlowMeter

namespace Hash

/-- Only zero stays what it is when its bits are moved down. -/
theorem eq_zero_of_shiftRight_eq {n amount : Nat} (hamount : 0 < amount) (h : n >>> amount = n) :
    n = 0 := by
  by_contra hn
  have hless : n / 2 ^ amount < n :=
    Nat.div_lt_self (Nat.pos_of_ne_zero hn) (Nat.one_lt_two_pow hamount.ne')
  rw [Nat.shiftRight_eq_div_pow] at h
  omega

/-- A number is told by the xor with its own bits moved down. -/
theorem xor_shiftRight_injective {amount : Nat} (hamount : 0 < amount) :
    Function.Injective fun n : Nat => n ^^^ (n >>> amount) := by
  intro a b h
  -- The bits in which the two differ stay where they are when they are moved down.
  have hdiffer : (a ^^^ b) >>> amount = a ^^^ b := by
    have hdown : a >>> amount = a ^^^ (b ^^^ (b >>> amount)) := by
      rw [← Nat.xor_xor_cancel_left a (a >>> amount)]
      exact congrArg (a ^^^ ·) h
    rw [Nat.shiftRight_xor_distrib, hdown, ← Nat.xor_assoc, Nat.xor_assoc, Nat.xor_self, Nat.xor_zero]
  exact Nat.xor_eq_zero_iff.mp (eq_zero_of_shiftRight_eq hamount hdiffer)

/-- A number of so many bits is told by the bits of its product with an odd number. -/
theorem eq_of_mul_odd_mod_eq {width factor a b : Nat} (hodd : factor % 2 = 1) (ha : a < 2 ^ width)
    (hb : b < 2 ^ width) (h : a * factor % 2 ^ width = b * factor % 2 ^ width) : a = b := by
  have hcoprime : Nat.Coprime (2 ^ width) factor :=
    (Nat.coprime_two_left.mpr (Nat.odd_iff.mpr hodd)).pow_left width
  exact (Nat.ModEq.cancel_right_of_coprime hcoprime h).eq_of_lt_of_lt ha hb

/-- The xor of a word with its own bits moved down. -/
def xorDown (amount n : UInt64) : UInt64 :=
  n ^^^ (n >>> amount)

/-- Mixing a word with itself shifted down can be undone. -/
theorem xorDown_injective {amount : UInt64} (hamount : 0 < amount.toNat % 64) :
    Function.Injective (xorDown amount) := by
  intro a b h
  have hnumber := congrArg UInt64.toNat h
  simp only [xorDown, UInt64.toNat_xor, UInt64.toNat_shiftRight] at hnumber
  exact UInt64.toNat_inj.mp (xor_shiftRight_injective hamount hnumber)

/-- The product of a word with a factor. -/
def scale (factor n : UInt64) : UInt64 :=
  n * factor

/-- Multiplying by an odd number can be undone. -/
theorem scale_injective {factor : UInt64} (hodd : factor.toNat % 2 = 1) :
    Function.Injective (scale factor) := by
  intro a b h
  have hnumber := congrArg UInt64.toNat h
  simp only [scale, UInt64.toNat_mul] at hnumber
  exact UInt64.toNat_inj.mp (eq_of_mul_odd_mod_eq hodd a.toNat_lt b.toNat_lt hnumber)

/-- The word of a single bit. -/
def bit (position : UInt64) : UInt64 :=
  1 <<< position

/-- To move bits up is to scale. -/
theorem shiftLeft_eq_mul (n amount : UInt64) : n <<< amount = n * bit amount := by
  rw [bit, ← UInt64.toNat_inj, UInt64.toNat_shiftLeft, UInt64.toNat_mul, UInt64.toNat_shiftLeft,
    Nat.shiftLeft_eq, Nat.shiftLeft_eq, UInt64.toNat_one, Nat.one_mul, Nat.mul_mod_mod]

/-- The mix of 64 bits, step by step. -/
theorem mix64_eq (n : UInt64) :
    mix64 n =
      scale (1 + bit 31) (xorDown 28 (scale (1 + bit 2 + bit 4) (xorDown 14
        (scale (1 + bit 3 + bit 8) (xorDown 24 (scale (bit 21 - 1) n - 1)))))) := by
  simp only [mix64, scale, xorDown, UInt64.mul_add, UInt64.mul_sub, UInt64.mul_one, ← shiftLeft_eq_mul]

/-- The mix of 64 bits tells all numbers apart. -/
theorem mix64_injective : Function.Injective mix64 := by
  intro a b h
  rw [mix64_eq, mix64_eq] at h
  -- The steps are undone from the last one back.
  have hthird := xorDown_injective (by decide) (scale_injective (by decide) h)
  have hsecond := xorDown_injective (by decide) (scale_injective (by decide) hthird)
  have hfirst := xorDown_injective (by decide) (scale_injective (by decide) hsecond)
  exact scale_injective (by decide) ((UInt64.sub_left_inj 1).mp hfirst)

end Hash

namespace FlowKey

/-- Process and socket as one word, the process in its upper half. -/
def socketWord (key : FlowKey) : UInt64 :=
  (key.pid.toUInt64 <<< 32) ||| key.socketHash.toUInt64

/-- The word of a key holds the process above the socket. -/
theorem toNat_socketWord (key : FlowKey) :
    key.socketWord.toNat = key.pid.toNat * 2 ^ 32 + key.socketHash.toNat := by
  have hpid := key.pid.toNat_lt
  have hfits : key.pid.toNat <<< 32 < 2 ^ 64 := by
    rw [Nat.shiftLeft_eq]
    omega
  have hupper : (key.pid.toUInt64 <<< 32).toNat = key.pid.toNat <<< 32 := by
    rw [UInt64.toNat_shiftLeft, UInt32.toNat_toUInt64]
    exact Nat.mod_eq_of_lt hfits
  rw [socketWord, UInt64.toNat_or, hupper, UInt32.toNat_toUInt64,
    ← Nat.shiftLeft_add_eq_or_of_lt key.socketHash.toNat_lt, Nat.shiftLeft_eq]

/-- The word of process and socket tells both. -/
theorem socketWord_eq_iff {a b : FlowKey} :
    a.socketWord = b.socketWord ↔ a.pid = b.pid ∧ a.socketHash = b.socketHash := by
  have ha := a.socketHash.toNat_lt
  have hb := b.socketHash.toNat_lt
  rw [← UInt64.toNat_inj, toNat_socketWord, toNat_socketWord, ← UInt32.toNat_inj, ← UInt32.toNat_inj]
  omega

/-- The hashes agree with the ways of aggregation. Keys belong to one socket exactly where their hashes
are the same: the word of process and socket tells both, and the mix tells all words apart. Keys of one
endpoint have one hash. -/
theorem hash_agrees :
    (∀ a b : FlowKey, a.same .perSocket b = true ↔ a.hash .perSocket = b.hash .perSocket) ∧
      Function.Injective Hash.mix64 ∧
      (∀ a b : FlowKey,
        a.socketWord = b.socketWord ↔ a.pid = b.pid ∧ a.socketHash = b.socketHash) ∧
      ∀ a b : FlowKey, a.same .mergedByEndpoint b = true →
        a.hash .mergedByEndpoint = b.hash .mergedByEndpoint := by
  refine ⟨fun a b => ?_, Hash.mix64_injective, fun a b => socketWord_eq_iff, fun a b h => ?_⟩
  · have hhash (key : FlowKey) : key.hash .perSocket = Hash.mix64 key.socketWord := rfl
    rw [hhash, hhash, Hash.mix64_injective.eq_iff, socketWord_eq_iff]
    simp [same]
  · simp only [same, Bool.and_eq_true, decide_eq_true_eq] at h
    obtain ⟨⟨⟨hpid, hport⟩, _⟩, hdestination⟩ := h
    simp only [hash, endpointKeyHash, hpid, hport, hdestination]

/-- Two keys of one process, remote side and role that have nothing else in common. -/
def twoLocalEnds : FlowKey × FlowKey :=
  ({ pid := 7, destinationPort := 80, role := .client },
    { pid := 7, socketHash := 1, source := .zero6, sourcePort := 5001, destinationPort := 80,
      role := .client, socketKind := .inet })

/-- Two local ends of one endpoint share the hash of the endpoint, and not that of a socket. -/
theorem hash_agrees_twoLocalEnds :
    twoLocalEnds.1.same .mergedByEndpoint twoLocalEnds.2 = true ∧
      twoLocalEnds.1.hash .mergedByEndpoint = twoLocalEnds.2.hash .mergedByEndpoint ∧
      twoLocalEnds.1.hash .perSocket ≠ twoLocalEnds.2.hash .perSocket := by
  obtain ⟨hsocket, _, _, hendpoint⟩ := hash_agrees
  have hsame : twoLocalEnds.1.same .mergedByEndpoint twoLocalEnds.2 = true := by decide
  have hother : ¬twoLocalEnds.1.same .perSocket twoLocalEnds.2 = true := by decide
  exact ⟨hsame, hendpoint _ _ hsame, fun h => hother ((hsocket _ _).mpr h)⟩

end FlowKey

end FlowMeter
