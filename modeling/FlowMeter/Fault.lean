/-!
# Faults

The ways in which an operation stops without an answer. Counters of 64 bits are added with a check,
and bytes are read and written only within the window that was given.
-/

namespace FlowMeter

/-- Why an operation stops without an answer. -/
inductive Fault where
  | overflow
  | shortWord (width : Nat)
  | shortAddress
  | shortHeader
  | shortSection
  | outside
deriving DecidableEq, Repr

/-- The message of a fault. -/
def Fault.message : Fault → String
  | .overflow => "attempt to add with overflow"
  | .shortWord width => "assertion failed: bs.len() >= " ++ toString width
  | .shortAddress => "assertion failed: bs.len() >= Self::LEN"
  | .shortHeader => "assertion failed: bs.len() >= HEADER_LEN"
  | .shortSection => "assertion failed: bs.len() >= DATA_LEN"
  | .outside => "range end index out of range"

/-- The sum of two counters, unless it does not fit. -/
def checkedAdd (a b : UInt64) : Except Fault UInt64 :=
  if a.toNat + b.toNat < UInt64.size then .ok (a + b) else .error .overflow

/-- A checked sum is the sum of the numbers. -/
theorem checkedAdd_eq_ok_iff {a b c : UInt64} :
    checkedAdd a b = .ok c ↔ a.toNat + b.toNat = c.toNat := by
  unfold checkedAdd
  split
  · rename_i h
    rw [Except.ok.injEq, ← UInt64.toNat_inj, UInt64.toNat_add, Nat.mod_eq_of_lt h]
  · rename_i h
    have := c.toNat_lt
    rw [UInt64.size] at h
    simp
    omega

/-- A mapped outcome is an answer only where the outcome is. -/
theorem exists_of_map_eq_ok {E A B : Type} {f : A → B} {outcome : Except E A} {b : B}
    (h : outcome.map f = .ok b) : ∃ a, outcome = .ok a ∧ f a = b := by
  cases outcome with
  | error e => contradiction
  | ok a => exact ⟨a, rfl, Except.ok.inj h⟩

/-- A step after an outcome gives an answer only where the outcome is one. -/
theorem exists_of_bind_eq_ok {E A B : Type} {outcome : Except E A} {next : A → Except E B} {b : B}
    (h : outcome >>= next = .ok b) : ∃ a, outcome = .ok a ∧ next a = .ok b := by
  cases outcome with
  | error e => contradiction
  | ok a => exact ⟨a, rfl, h⟩

end FlowMeter
