import Mathlib.Algebra.BigOperators.Group.List.Basic
import Mathlib.Algebra.GroupWithZero.Nat
import FlowMeter.Proofs.Overflow

/-!
# Amounts

Every change of the counters of a flow adds amounts to them, one for each counter, and tells a protocol
or none. Amounts are added without a limit; adding them to counters is an overflow exactly where one of
the sums does not fit. Amounts that are added one after the other are added as their sum, and merging
counters adds what they hold.
-/

namespace FlowMeter

/-- Outcomes that meet no other fault than an overflow are the same where they give the same answers. -/
theorem OnlyOverflow.ext {A : Type} {first second : Except Fault A} (hfirst : OnlyOverflow first)
    (hsecond : OnlyOverflow second) (h : ∀ a, first = .ok a ↔ second = .ok a) : first = second := by
  cases first with
  | ok a => exact ((h a).mp rfl).symm
  | error fault =>
    cases second with
    | ok a => exact nomatch (h a).mpr rfl
    | error other => rw [hfirst fault rfl, hsecond other rfl]

/-- The counters of a flow. -/
inductive FlowCounter where
  | sendBytes
  | recvBytes
  | sendPackets
  | recvPackets
  | protocolMatched
  | protocolUnmatched
  | sendLatency
  | recvLatency
  | sendRetransmissions
  | recvRetransmissions
  | sendZeroWindows
  | recvZeroWindows
deriving DecidableEq, Repr

namespace FlowCounter

/-- All counters. -/
def all : List FlowCounter :=
  [.sendBytes, .recvBytes, .sendPackets, .recvPackets, .protocolMatched, .protocolUnmatched,
    .sendLatency, .recvLatency, .sendRetransmissions, .recvRetransmissions, .sendZeroWindows,
    .recvZeroWindows]

/-- The list of counters leaves none out. -/
theorem mem_all (counter : FlowCounter) : counter ∈ all := by
  cases counter <;> decide

/-- A property of all counters is decided by looking at each. -/
instance (p : FlowCounter → Prop) [DecidablePred p] : Decidable (∀ counter, p counter) :=
  decidable_of_iff (∀ counter ∈ all, p counter)
    ⟨fun h counter => h counter (mem_all counter), fun h counter _ => h counter⟩

end FlowCounter

/-- What is added to the counters of a flow, and the last protocol that is told. -/
@[ext]
structure Amounts where
  count : FlowCounter → Nat
  protocol : Protocol

namespace FlowStats

/-- The value of a counter. -/
def counter (stats : FlowStats) : FlowCounter → UInt64
  | .sendBytes => stats.sendBytes
  | .recvBytes => stats.recvBytes
  | .sendPackets => stats.sendPackets
  | .recvPackets => stats.recvPackets
  | .protocolMatched => stats.protocolMatched
  | .protocolUnmatched => stats.protocolUnmatched
  | .sendLatency => stats.sendLatency
  | .recvLatency => stats.recvLatency
  | .sendRetransmissions => stats.sendRetransmissions
  | .recvRetransmissions => stats.recvRetransmissions
  | .sendZeroWindows => stats.sendZeroWindows
  | .recvZeroWindows => stats.recvZeroWindows

/-- What counters hold, as amounts. -/
def amounts (stats : FlowStats) : Amounts where
  count counter := (stats.counter counter).toNat
  protocol := stats.lastProtocol

/-- Counters that hold some amounts, as far as they fit. -/
def ofAmounts (amounts : Amounts) : FlowStats where
  sendBytes := (amounts.count .sendBytes).toUInt64
  recvBytes := (amounts.count .recvBytes).toUInt64
  sendPackets := (amounts.count .sendPackets).toUInt64
  recvPackets := (amounts.count .recvPackets).toUInt64
  protocolMatched := (amounts.count .protocolMatched).toUInt64
  protocolUnmatched := (amounts.count .protocolUnmatched).toUInt64
  lastProtocol := amounts.protocol
  sendLatency := (amounts.count .sendLatency).toUInt64
  recvLatency := (amounts.count .recvLatency).toUInt64
  sendRetransmissions := (amounts.count .sendRetransmissions).toUInt64
  recvRetransmissions := (amounts.count .recvRetransmissions).toUInt64
  sendZeroWindows := (amounts.count .sendZeroWindows).toUInt64
  recvZeroWindows := (amounts.count .recvZeroWindows).toUInt64

/-- Counters made from amounts hold the amounts, as far as 64 bits do. -/
theorem counter_ofAmounts (amounts : Amounts) (counter : FlowCounter) :
    (ofAmounts amounts).counter counter = (amounts.count counter).toUInt64 := by
  cases counter <;> rfl

/-- Counters are told apart by the amounts that they hold. -/
theorem amounts_injective {a b : FlowStats} (h : a.amounts = b.amounts) : a = b := by
  have hcounter : ∀ counter, a.counter counter = b.counter counter := by
    intro counter
    exact UInt64.toNat_inj.mp (congrFun (congrArg Amounts.count h) counter)
  have hprotocol : a.lastProtocol = b.lastProtocol := congrArg Amounts.protocol h
  cases a
  cases b
  simp only [FlowStats.mk.injEq]
  exact ⟨hcounter .sendBytes, hcounter .recvBytes, hcounter .sendPackets, hcounter .recvPackets,
    hcounter .protocolMatched, hcounter .protocolUnmatched, hprotocol, hcounter .sendLatency,
    hcounter .recvLatency, hcounter .sendRetransmissions, hcounter .recvRetransmissions,
    hcounter .sendZeroWindows, hcounter .recvZeroWindows⟩

/-- What a counter holds fits it. -/
theorem count_amounts_lt (stats : FlowStats) (counter : FlowCounter) :
    stats.amounts.count counter < UInt64.size :=
  (stats.counter counter).toNat_lt

/-- A counter is the number that it holds. -/
theorem toUInt64_count_amounts (stats : FlowStats) (counter : FlowCounter) :
    (stats.amounts.count counter).toUInt64 = stats.counter counter := by
  rw [amounts, Nat.toUInt64_eq, UInt64.ofNat_toNat]

/-- Counters hold the amounts that they are made of, where these fit. -/
theorem amounts_ofAmounts {amounts : Amounts} (h : ∀ counter, amounts.count counter < UInt64.size) :
    (ofAmounts amounts).amounts = amounts := by
  ext counter
  · simp only [FlowStats.amounts, counter_ofAmounts, Nat.toUInt64_eq]
    exact UInt64.toNat_ofNat_of_lt' (h counter)
  · rfl

end FlowStats

namespace Amounts

/-- The amounts of two changes, one after the other. -/
instance : Add Amounts where
  add a b := ⟨fun counter => a.count counter + b.count counter,
    FlowStats.laterProtocol a.protocol b.protocol⟩

instance : Zero Amounts where
  zero := ⟨fun _ => 0, .none⟩

/-- Amounts are added counter by counter. -/
@[simp]
theorem count_add (a b : Amounts) (counter : FlowCounter) :
    (a + b).count counter = a.count counter + b.count counter := rfl

/-- Of two amounts the later protocol counts. -/
@[simp]
theorem protocol_add (a b : Amounts) :
    (a + b).protocol = FlowStats.laterProtocol a.protocol b.protocol := rfl

/-- Zero holds nothing of any counter. -/
@[simp]
theorem count_zero (counter : FlowCounter) : (0 : Amounts).count counter = 0 := rfl

/-- The later of protocols does not depend on how they are grouped. -/
theorem laterProtocol_assoc (a b c : Protocol) :
    FlowStats.laterProtocol (FlowStats.laterProtocol a b) c =
      FlowStats.laterProtocol a (FlowStats.laterProtocol b c) := by
  cases c <;> simp [FlowStats.laterProtocol]

/-- No news leaves the protocol. -/
theorem laterProtocol_none (a : Protocol) : FlowStats.laterProtocol a .none = a := rfl

/-- A protocol is news where none was known. -/
theorem none_laterProtocol (a : Protocol) : FlowStats.laterProtocol .none a = a := by
  cases a <;> rfl

instance : AddMonoid Amounts where
  add_assoc a b c := by
    ext counter
    · exact Nat.add_assoc ..
    · exact laterProtocol_assoc ..
  zero_add a := by
    ext counter
    · exact Nat.zero_add _
    · exact none_laterProtocol _
  add_zero a := by
    ext counter
    · exact Nat.add_zero _
    · exact laterProtocol_none _
  nsmul := nsmulRec

/-- A counter of a sum of amounts is the sum of the counter over the amounts. -/
theorem count_sum (list : List Amounts) (counter : FlowCounter) :
    list.sum.count counter = (list.map (·.count counter)).sum := by
  induction list with
  | nil => rfl
  | cons amounts rest ih => rw [List.sum_cons, count_add, ih, List.map_cons, List.sum_cons]

end Amounts

namespace FlowStats

/-- Counters at the start hold no amounts. -/
theorem amounts_zero : amounts zero = 0 := by
  ext counter
  · cases counter <;> rfl
  · rfl

/-- Adds amounts to counters, unless one of the sums does not fit. -/
def plus (stats : FlowStats) (amounts : Amounts) : Except Fault FlowStats :=
  if ∀ counter, (stats.amounts + amounts).count counter < UInt64.size then
    .ok (ofAmounts (stats.amounts + amounts))
  else .error .overflow

/-- Counters are merged, or one of them overflows. -/
theorem merge_onlyOverflow (stats other : FlowStats) : OnlyOverflow (stats.merge other) := by
  unfold merge
  repeat' first | exact checkedAdd_onlyOverflow _ _ | exact .ok _ | refine OnlyOverflow.bind ?_ fun _ => ?_

/-- Amounts are added where every sum is what the counters hold then. -/
theorem plus_eq_ok_iff {stats result : FlowStats} {amounts : Amounts} :
    stats.plus amounts = .ok result ↔ result.amounts = stats.amounts + amounts := by
  unfold plus
  split
  · rename_i hfits
    rw [Except.ok.injEq]
    constructor
    · rintro rfl
      exact amounts_ofAmounts hfits
    · intro h
      exact amounts_injective ((amounts_ofAmounts hfits).trans h.symm)
  · rename_i hfits
    refine ⟨fun h => (nomatch h), fun h => absurd ?_ hfits⟩
    rw [← h]
    exact result.count_amounts_lt

/-- Amounts are added exactly where every sum fits. -/
theorem exists_plus_iff {stats : FlowStats} {amounts : Amounts} :
    (∃ result, stats.plus amounts = .ok result) ↔
      ∀ counter, stats.amounts.count counter + amounts.count counter < UInt64.size := by
  unfold plus
  split
  · rename_i hfits
    exact ⟨fun _ => hfits, fun _ => ⟨_, rfl⟩⟩
  · rename_i hfits
    exact ⟨fun ⟨_, h⟩ => (nomatch h), fun h => absurd h hfits⟩

/-- Amounts are added to counters, or one of them overflows. -/
theorem plus_onlyOverflow (stats : FlowStats) (amounts : Amounts) :
    OnlyOverflow (stats.plus amounts) := by
  unfold plus
  split
  · exact .ok _
  · intro fault h
    exact (Except.error.inj h).symm

/-- Adding nothing changes nothing. -/
theorem plus_zero (stats : FlowStats) : stats.plus 0 = .ok stats :=
  plus_eq_ok_iff.mpr (add_zero _).symm

/-- Amounts are added one after the other exactly as their sum is. -/
theorem plus_add (stats : FlowStats) (a b : Amounts) :
    stats.plus (a + b) = stats.plus a >>= (·.plus b) := by
  refine (stats.plus_onlyOverflow _).ext
    ((stats.plus_onlyOverflow a).bind fun between => between.plus_onlyOverflow b) fun result => ?_
  rw [plus_eq_ok_iff]
  constructor
  · intro h
    -- The sums on the way fit, because the sums at the end do.
    have hfits : ∀ counter, stats.amounts.count counter + a.count counter < UInt64.size := by
      intro counter
      have hresult := result.count_amounts_lt counter
      rw [h, ← add_assoc, Amounts.count_add, Amounts.count_add] at hresult
      exact Nat.lt_of_le_of_lt (Nat.le_add_right ..) hresult
    obtain ⟨between, hbetween⟩ := exists_plus_iff.mpr hfits
    rw [hbetween]
    refine plus_eq_ok_iff.mpr ?_
    rw [h, plus_eq_ok_iff.mp hbetween, add_assoc]
  · intro h
    obtain ⟨between, hbetween, hresult⟩ := exists_of_bind_eq_ok h
    rw [plus_eq_ok_iff.mp hresult, plus_eq_ok_iff.mp hbetween, add_assoc]

/-- Amounts in a list are added one after the other exactly as their sum is. -/
theorem foldlM_plus (stats : FlowStats) (list : List Amounts) :
    list.foldlM plus stats = stats.plus list.sum := by
  induction list generalizing stats with
  | nil => exact stats.plus_zero.symm
  | cons amounts rest ih =>
    rw [List.foldlM_cons, List.sum_cons, plus_add]
    congr 1
    funext between
    exact ih between

/-- A checked sum that is used is the sum of the numbers. -/
theorem checkedAdd_bind_eq_ok_iff {A : Type} {a b : UInt64} {next : UInt64 → Except Fault A}
    {result : A} :
    checkedAdd a b >>= next = .ok result ↔
      ∃ sum : UInt64, sum.toNat = a.toNat + b.toNat ∧ next sum = .ok result := by
  constructor
  · intro h
    obtain ⟨sum, hsum, hnext⟩ := exists_of_bind_eq_ok h
    exact ⟨sum, (checkedAdd_eq_ok_iff.mp hsum).symm, hnext⟩
  · rintro ⟨sum, hsum, hnext⟩
    rw [checkedAdd_eq_ok_iff.mpr hsum.symm]
    exact hnext

/-- Merging counters adds what they hold. -/
theorem merge_eq_plus (stats other : FlowStats) : stats.merge other = stats.plus other.amounts := by
  refine (stats.merge_onlyOverflow other).ext (stats.plus_onlyOverflow _) fun result => ?_
  rw [plus_eq_ok_iff]
  simp only [merge, checkedAdd_bind_eq_ok_iff, pure, Except.pure, Except.ok.injEq]
  constructor
  · rintro ⟨_, h₁, _, h₂, _, h₃, _, h₄, _, h₅, _, h₆, _, h₇, _, h₈, _, h₉, _, h₁₀, _, h₁₁, _, h₁₂, rfl⟩
    ext counter
    · cases counter <;> assumption
    · rfl
  · intro h
    have hcount : ∀ counter, (result.counter counter).toNat =
        (stats.counter counter).toNat + (other.counter counter).toNat :=
      fun counter => congrFun (congrArg Amounts.count h) counter
    have hprotocol : laterProtocol stats.lastProtocol other.lastProtocol = result.lastProtocol :=
      (congrArg Amounts.protocol h).symm
    refine ⟨_, hcount .sendBytes, _, hcount .recvBytes, _, hcount .sendPackets, _,
      hcount .recvPackets, _, hcount .protocolMatched, _, hcount .protocolUnmatched, _,
      hcount .sendLatency, _, hcount .recvLatency, _, hcount .sendRetransmissions, _,
      hcount .recvRetransmissions, _, hcount .sendZeroWindows, _, hcount .recvZeroWindows, ?_⟩
    rw [hprotocol]
    rfl

/-- Adding zero always fits. -/
theorem checkedAdd_zero (a : UInt64) : checkedAdd a 0 = .ok a :=
  checkedAdd_eq_ok_iff.mpr (Nat.add_zero _)

/-- Counters that hold nothing change nothing where they are merged. -/
theorem merge_zero (stats : FlowStats) : stats.merge .zero = .ok stats := by
  rw [merge_eq_plus, amounts_zero, plus_zero]

/-! The changes of counters are merges. Only the counters that a change is about are added to; the
others are added zero, which never fails. -/

/-- Counting a packet that was sent merges its bytes and one packet. -/
theorem onSend_eq_merge (stats : FlowStats) (bytes : UInt64) :
    stats.onSend bytes = stats.merge { sendBytes := bytes, sendPackets := 1 } := by
  simp [onSend, merge, checkedAdd_zero, bind, Except.bind, pure, Except.pure, laterProtocol]

/-- Counting a packet that was received merges its bytes and one packet. -/
theorem onReceive_eq_merge (stats : FlowStats) (bytes : UInt64) :
    stats.onReceive bytes = stats.merge { recvBytes := bytes, recvPackets := 1 } := by
  simp [onReceive, merge, checkedAdd_zero, bind, Except.bind, pure, Except.pure, laterProtocol]

/-- A latency of a packet that was sent is merged as such. -/
theorem addLatency_outbound_eq_merge (stats : FlowStats) (nanos : UInt64) :
    stats.addLatency .outbound nanos = stats.merge { sendLatency := nanos } := by
  simp [addLatency, merge, checkedAdd_zero, bind, Except.bind, pure, Except.pure, Except.map,
    laterProtocol]

/-- A latency of a packet that was received is merged as such. -/
theorem addLatency_inbound_eq_merge (stats : FlowStats) (nanos : UInt64) :
    stats.addLatency .inbound nanos = stats.merge { recvLatency := nanos } := by
  simp [addLatency, merge, checkedAdd_zero, bind, Except.bind, pure, Except.pure, Except.map,
    laterProtocol]

/-- Without a protocol one more packet is unmatched. -/
theorem onProtocol_none_eq_merge (stats : FlowStats) :
    stats.onProtocol .none = stats.merge { protocolUnmatched := 1 } := by
  simp [onProtocol, merge, checkedAdd_zero, bind, Except.bind, pure, Except.pure, Except.map,
    laterProtocol]

/-- With a protocol one more packet is matched, and the protocol is the last one. -/
theorem onProtocol_eq_merge (stats : FlowStats) {protocol : Protocol} (h : protocol ≠ .none) :
    stats.onProtocol protocol = stats.merge { protocolMatched := 1, lastProtocol := protocol } := by
  simp [onProtocol, h, merge, checkedAdd_zero, bind, Except.bind, pure, Except.pure, Except.map,
    laterProtocol]

end FlowStats

/-- What may happen to the counters of a flow: a packet, a latency, a protocol, or the counters of
another part of the flow. -/
inductive FlowUpdate where
  | send (bytes : UInt64)
  | receive (bytes : UInt64)
  | packet (direction : Direction) (bytes : UInt64)
  | latency (direction : Direction) (nanos : UInt64)
  | recognised (protocol : Protocol)
  | merge (other : FlowStats)
deriving DecidableEq, Repr

namespace FlowUpdate

/-- Updates counters. -/
def apply (stats : FlowStats) : FlowUpdate → Except Fault FlowStats
  | .send bytes => stats.onSend bytes
  | .receive bytes => stats.onReceive bytes
  | .packet direction bytes => stats.onPacket direction bytes
  | .latency direction nanos => stats.addLatency direction nanos
  | .recognised protocol => stats.onProtocol protocol
  | .merge other => stats.merge other

/-- Updates counters with one update after the other. -/
def applyAll (updates : List FlowUpdate) (stats : FlowStats) : Except Fault FlowStats :=
  updates.foldlM apply stats

/-- What an update adds: a packet its bytes and itself, a protocol itself as matched or not. What has
no direction adds nothing. -/
def added : FlowUpdate → FlowStats
  | .send bytes => { sendBytes := bytes, sendPackets := 1 }
  | .receive bytes => { recvBytes := bytes, recvPackets := 1 }
  | .packet .outbound bytes => { sendBytes := bytes, sendPackets := 1 }
  | .packet .inbound bytes => { recvBytes := bytes, recvPackets := 1 }
  | .packet .none _ => .zero
  | .latency .outbound nanos => { sendLatency := nanos }
  | .latency .inbound nanos => { recvLatency := nanos }
  | .latency .none _ => .zero
  | .recognised protocol =>
    if protocol = .none then { protocolUnmatched := 1 }
    else { protocolMatched := 1, lastProtocol := protocol }
  | .merge other => other

/-- An update merges what it adds. -/
theorem apply_eq_merge (stats : FlowStats) (update : FlowUpdate) :
    apply stats update = stats.merge update.added := by
  cases update with
  | send bytes => exact stats.onSend_eq_merge bytes
  | receive bytes => exact stats.onReceive_eq_merge bytes
  | packet direction bytes =>
    cases direction with
    | none => exact stats.merge_zero.symm
    | inbound => exact stats.onReceive_eq_merge bytes
    | outbound => exact stats.onSend_eq_merge bytes
  | latency direction nanos =>
    cases direction with
    | none => exact stats.merge_zero.symm
    | inbound => exact stats.addLatency_inbound_eq_merge nanos
    | outbound => exact stats.addLatency_outbound_eq_merge nanos
  | recognised protocol =>
    by_cases hnone : protocol = .none
    · rw [added, if_pos hnone, hnone]
      exact stats.onProtocol_none_eq_merge
    · rw [added, if_neg hnone]
      exact stats.onProtocol_eq_merge hnone
  | merge other => rfl

/-- An update adds its amounts. -/
theorem apply_eq_plus (stats : FlowStats) (update : FlowUpdate) :
    apply stats update = stats.plus update.added.amounts := by
  rw [apply_eq_merge, FlowStats.merge_eq_plus]

/-- The amounts of some updates. -/
def amounts (updates : List FlowUpdate) : Amounts :=
  (updates.map (·.added.amounts)).sum

/-- Updates one after the other add the sum of their amounts. -/
theorem applyAll_eq_plus (updates : List FlowUpdate) (stats : FlowStats) :
    applyAll updates stats = stats.plus (amounts updates) := by
  rw [amounts, ← FlowStats.foldlM_plus, List.foldlM_map, applyAll]
  congr 1
  funext stats update
  exact apply_eq_plus stats update

/-- All updates together add the sum of their amounts. -/
theorem applyAll_eq (updates : List FlowUpdate) :
    applyAll updates = fun stats => stats.plus (amounts updates) :=
  funext fun stats => applyAll_eq_plus updates stats

end FlowUpdate

end FlowMeter
