import Mathlib.Data.Finset.Card
import Mathlib.Data.List.Basic
import FlowMeter.Flow.Table

/-!
# Tables and logs

A log lists the changes of flows in the order in which they are made, each with the key that it is
made under. Keys of one identity are one flow. A table that starts empty and takes every change of a
log holds one entry for each identity in the log: under the first key of the identity, with the changes
of the identity made one after the other from zero.
-/

namespace FlowMeter

/-- What tells flows apart: process and socket, or process, remote endpoint and role. -/
inductive FlowIdentity where
  | socket (pid socketHash : UInt32)
  | endpoint (pid : UInt32) (destination : Address) (destinationPort : UInt16) (role : Role)
deriving DecidableEq, Repr

/-- The identity of a key under a way of aggregation. -/
def FlowKey.identity (aggregation : Aggregation) (key : FlowKey) : FlowIdentity :=
  match aggregation with
  | .perSocket => .socket key.pid key.socketHash
  | .mergedByEndpoint => .endpoint key.pid key.destination key.destinationPort key.role

/-- Keys belong to one flow exactly where they have one identity. -/
theorem FlowKey.same_iff {aggregation : Aggregation} {a b : FlowKey} :
    a.same aggregation b = true ↔ a.identity aggregation = b.identity aggregation := by
  cases aggregation with
  | perSocket => simp [same, identity]
  | mergedByEndpoint =>
    simp only [same, identity, Bool.and_eq_true, decide_eq_true_eq, FlowIdentity.endpoint.injEq]
    tauto

/-- A change of the counters of a flow, unless one of them does not fit. -/
abbrev FlowChange := FlowStats → Except Fault FlowStats

/-- Changes of flows in order, each with the key that it is made under. -/
abbrev FlowLog := List (FlowKey × FlowChange)

namespace FlowTable

variable {aggregation : Aggregation}

/-- What a change does to entries: it changes the counters of the one entry of its flow, or adds an
entry for a new flow at the end. -/
theorem alterEntries_cases {key : FlowKey} {change : FlowChange}
    {entries result : List (FlowKey × FlowStats)}
    (h : alterEntries aggregation key change entries = .ok result) :
    (∃ front first stats changed rest,
      entries = front ++ (first, stats) :: rest ∧
        first.identity aggregation = key.identity aggregation ∧
        change stats = .ok changed ∧ result = front ++ (first, changed) :: rest) ∨
    ((∀ entry ∈ entries, entry.1.identity aggregation ≠ key.identity aggregation) ∧
      ∃ changed, change .zero = .ok changed ∧ result = entries ++ [(key, changed)]) := by
  induction entries generalizing result with
  | nil =>
    obtain ⟨changed, hchanged, rfl⟩ := exists_of_map_eq_ok h
    exact .inr ⟨by simp, changed, hchanged, rfl⟩
  | cons entry rest ih =>
    obtain ⟨first, stats⟩ := entry
    unfold alterEntries at h
    by_cases hsame : first.same aggregation key = true
    · rw [if_pos hsame] at h
      obtain ⟨changed, hchanged, rfl⟩ := exists_of_map_eq_ok h
      exact .inl ⟨[], first, stats, changed, rest, rfl, FlowKey.same_iff.mp hsame, hchanged, rfl⟩
    · rw [if_neg hsame] at h
      obtain ⟨later, hlater, rfl⟩ := exists_of_map_eq_ok h
      rcases ih hlater with ⟨front, other, old, changed, last, rfl, hidentity, hchanged, rfl⟩ |
          ⟨hnew, changed, hchanged, rfl⟩
      · exact .inl ⟨(first, stats) :: front, other, old, changed, last, rfl, hidentity, hchanged, rfl⟩
      · refine .inr ⟨List.forall_mem_cons.mpr ⟨fun hidentity => ?_, hnew⟩, changed, hchanged, rfl⟩
        exact hsame (FlowKey.same_iff.mpr hidentity)

/-- A flow that is found has an entry of its identity. -/
theorem exists_mem_of_find? {key : FlowKey} {stats : FlowStats}
    {entries : List (FlowKey × FlowStats)} (h : find? aggregation key entries = some stats) :
    ∃ first, (first, stats) ∈ entries ∧ first.identity aggregation = key.identity aggregation := by
  obtain ⟨⟨first, found⟩, hfound, rfl⟩ := Option.map_eq_some_iff.mp h
  have hsame := List.find?_some hfound
  exact ⟨first, List.mem_of_find?_eq_some hfound, FlowKey.same_iff.mp hsame⟩

/-- A flow that is not found has no entry of its identity. -/
theorem identity_ne_of_find?_eq_none {key : FlowKey} {entries : List (FlowKey × FlowStats)}
    (h : find? aggregation key entries = none) :
    ∀ entry ∈ entries, entry.1.identity aggregation ≠ key.identity aggregation := by
  intro entry hentry hidentity
  have hsame := List.find?_eq_none.mp (Option.map_eq_none_iff.mp h) entry hentry
  exact hsame (FlowKey.same_iff.mpr hidentity)

end FlowTable

namespace FlowLog

variable (aggregation : Aggregation)

/-- The identities of the entries of a log or a table, in order. -/
def identities {A : Type} (entries : List (FlowKey × A)) : List FlowIdentity :=
  entries.map (·.1.identity aggregation)

/-- The first key of an identity in a log. -/
def firstKey? (log : FlowLog) (identity : FlowIdentity) : Option FlowKey :=
  (log.map (·.1)).find? (·.identity aggregation = identity)

/-- The counters of an identity: its changes in a log, made one after the other from zero. -/
def tally (log : FlowLog) (identity : FlowIdentity) : Except Fault FlowStats :=
  (log.filter (·.1.identity aggregation = identity)).foldlM (fun stats entry => entry.2 stats) .zero

/-- The entries that a log determines. -/
structure Tells (log : FlowLog) (entries : List (FlowKey × FlowStats)) : Prop where
  distinct : (identities aggregation entries).Nodup
  covers : ∀ identity,
    identity ∈ identities aggregation entries ↔ identity ∈ identities aggregation log
  first : ∀ entry ∈ entries,
    firstKey? aggregation log (entry.1.identity aggregation) = some entry.1
  total : ∀ entry ∈ entries,
    tally aggregation log (entry.1.identity aggregation) = .ok entry.2

variable {aggregation} {log : FlowLog} {key : FlowKey} {change : FlowChange}
  {identity : FlowIdentity}

/-- An identity that a log knows keeps its first key when the log goes on. -/
theorem firstKey?_append_of_mem (later : FlowLog) (h : identity ∈ identities aggregation log) :
    firstKey? aggregation (log ++ later) identity = firstKey? aggregation log identity := by
  obtain ⟨entry, hentry, hidentity⟩ := List.mem_map.mp h
  unfold firstKey?
  rw [List.map_append, List.find?_append, Option.or_of_isSome]
  exact List.find?_isSome.mpr ⟨entry.1, List.mem_map_of_mem hentry, by simpa using hidentity⟩

/-- A change under a key of another identity leaves the first key of an identity. -/
theorem firstKey?_concat_of_ne (h : key.identity aggregation ≠ identity) :
    firstKey? aggregation (log ++ [(key, change)]) identity = firstKey? aggregation log identity := by
  simp [firstKey?, h]

/-- An identity that a log does not know has no first key. -/
theorem firstKey?_of_not_mem (h : identity ∉ identities aggregation log) :
    firstKey? aggregation log identity = none := by
  rw [firstKey?, List.find?_eq_none]
  intro other hother hidentity
  obtain ⟨entry, hentry, rfl⟩ := List.mem_map.mp hother
  exact h (List.mem_map.mpr ⟨entry, hentry, by simpa using hidentity⟩)

/-- The first change of an identity gives it its first key. -/
theorem firstKey?_concat_of_not_mem (h : key.identity aggregation ∉ identities aggregation log) :
    firstKey? aggregation (log ++ [(key, change)]) (key.identity aggregation) = some key := by
  have hnone := firstKey?_of_not_mem h
  unfold firstKey? at hnone ⊢
  rw [List.map_append, List.find?_append, hnone]
  simp

/-- A change under a key of another identity leaves the counters of an identity. -/
theorem tally_concat_of_ne (h : key.identity aggregation ≠ identity) :
    tally aggregation (log ++ [(key, change)]) identity = tally aggregation log identity := by
  simp [tally, List.filter_append, h]

/-- A change is made to the counters that its identity has so far. -/
theorem tally_concat_self :
    tally aggregation (log ++ [(key, change)]) (key.identity aggregation) =
      tally aggregation log (key.identity aggregation) >>= change := by
  simp [tally, List.filter_append]

/-- An identity that a log does not know has counters at zero. -/
theorem tally_of_not_mem (h : identity ∉ identities aggregation log) :
    tally aggregation log identity = .ok .zero := by
  have hnone : log.filter (·.1.identity aggregation = identity) = [] := by
    rw [List.filter_eq_nil_iff]
    intro entry hentry hidentity
    exact h (List.mem_map.mpr ⟨entry, hentry, by simpa using hidentity⟩)
  rw [tally, hnone]
  rfl

/-- The table without flows tells the log without changes. -/
theorem tells_nil : Tells aggregation [] [] where
  distinct := List.nodup_nil
  covers := fun _ => Iff.rfl
  first := by simp
  total := by simp

/-- A log that goes on by a change knows the identity of its key, and those it knew. -/
theorem mem_identities_concat :
    identity ∈ identities aggregation (log ++ [(key, change)]) ↔
      identity ∈ identities aggregation log ∨ identity = key.identity aggregation := by
  rw [identities, List.map_append, List.mem_append]
  exact or_congr_right List.mem_singleton

/-- Among entries of distinct identities, one in the middle shares its identity with no other. -/
theorem identity_ne_of_nodup {A : Type} {front rest : List (FlowKey × A)} {entry other : FlowKey × A}
    (h : (identities aggregation (front ++ entry :: rest)).Nodup) (hother : other ∈ front ++ rest) :
    entry.1.identity aggregation ≠ other.1.identity aggregation := by
  rw [identities, List.map_append, List.map_cons, List.nodup_middle, ← List.map_append] at h
  intro hidentity
  have hmem : other.1.identity aggregation ∈ identities aggregation (front ++ rest) :=
    List.mem_map_of_mem hother
  exact (List.nodup_cons.mp h).1 (hidentity ▸ hmem)

/-- A log knows the identity of every entry that it determines. -/
theorem Tells.mem_identities {entries : List (FlowKey × FlowStats)} {entry : FlowKey × FlowStats}
    (h : Tells aggregation log entries) (hentry : entry ∈ entries) :
    entry.1.identity aggregation ∈ identities aggregation log :=
  (h.covers _).mp (List.mem_map_of_mem hentry)

/-- What a table tells after a change of a flow that it has: one entry is changed, under its key. -/
theorem Tells.concat_known {front rest : List (FlowKey × FlowStats)} {first : FlowKey}
    {stats changed : FlowStats} (h : Tells aggregation log (front ++ (first, stats) :: rest))
    (hfirst : first.identity aggregation = key.identity aggregation)
    (hchanged : change stats = .ok changed) :
    Tells aggregation (log ++ [(key, change)]) (front ++ (first, changed) :: rest) := by
  have hidentities : identities aggregation (front ++ (first, changed) :: rest) =
      identities aggregation (front ++ (first, stats) :: rest) := by
    simp [identities]
  have hmem : (first, stats) ∈ front ++ (first, stats) :: rest := by simp
  have hold : ∀ entry ∈ front ++ rest, entry ∈ front ++ (first, stats) :: rest := by
    intro entry hentry
    rw [List.mem_append] at hentry ⊢
    exact hentry.imp_right (List.mem_cons_of_mem _)
  -- The changed entry differs from its old self in the counters only; the others are as they were.
  have hcases : ∀ entry ∈ front ++ (first, changed) :: rest,
      entry = (first, changed) ∨ entry ∈ front ++ rest := by
    intro entry hentry
    simpa only [List.mem_append, List.mem_cons, or_left_comm] using hentry
  constructor
  · rw [hidentities]
    exact h.distinct
  · intro identity
    rw [hidentities, h.covers, mem_identities_concat]
    constructor
    · exact Or.inl
    · rintro (hlog | rfl)
      · exact hlog
      · exact hfirst ▸ h.mem_identities hmem
  · intro entry hentry
    rcases hcases entry hentry with rfl | hrest
    · rw [firstKey?_append_of_mem _ (h.mem_identities hmem)]
      exact h.first _ hmem
    · rw [firstKey?_append_of_mem _ (h.mem_identities (hold _ hrest))]
      exact h.first _ (hold _ hrest)
  · intro entry hentry
    rcases hcases entry hentry with rfl | hrest
    · have htotal := h.total _ hmem
      simp only [hfirst] at htotal ⊢
      rw [tally_concat_self, htotal]
      exact hchanged
    · have hne : key.identity aggregation ≠ entry.1.identity aggregation :=
        hfirst ▸ identity_ne_of_nodup h.distinct hrest
      rw [tally_concat_of_ne hne]
      exact h.total _ (hold _ hrest)

/-- What a table tells after a change of a flow that it does not have: an entry comes last. -/
theorem Tells.concat_new {entries : List (FlowKey × FlowStats)} {changed : FlowStats}
    (h : Tells aggregation log entries)
    (hnew : ∀ entry ∈ entries, entry.1.identity aggregation ≠ key.identity aggregation)
    (hchanged : change .zero = .ok changed) :
    Tells aggregation (log ++ [(key, change)]) (entries ++ [(key, changed)]) := by
  -- The identity is new to the table, hence to the log: it has no first key and no changes there.
  have hentries : key.identity aggregation ∉ identities aggregation entries := by
    intro hmem
    obtain ⟨entry, hentry, hidentity⟩ := List.mem_map.mp hmem
    exact hnew entry hentry hidentity
  have hlog : key.identity aggregation ∉ identities aggregation log :=
    fun hmem => hentries ((h.covers _).mpr hmem)
  have happend : identities aggregation (entries ++ [(key, changed)]) =
      identities aggregation entries ++ [key.identity aggregation] := List.map_append
  have hcases : ∀ entry ∈ entries ++ [(key, changed)], entry ∈ entries ∨ entry = (key, changed) :=
    fun entry hentry => (List.mem_append.mp hentry).imp_right List.mem_singleton.mp
  constructor
  · rw [happend, ← List.concat_eq_append]
    exact h.distinct.concat hentries
  · intro identity
    rw [happend, List.mem_append, List.mem_singleton, h.covers, mem_identities_concat]
  · intro entry hentry
    rcases hcases entry hentry with hold | rfl
    · rw [firstKey?_concat_of_ne (hnew entry hold).symm]
      exact h.first entry hold
    · exact firstKey?_concat_of_not_mem hlog
  · intro entry hentry
    rcases hcases entry hentry with hold | rfl
    · rw [tally_concat_of_ne (hnew entry hold).symm]
      exact h.total entry hold
    · rw [tally_concat_self, tally_of_not_mem hlog]
      exact hchanged

/-- A table that takes the changes of a log one after the other tells the log. -/
theorem Tells.concat {entries result : List (FlowKey × FlowStats)}
    (h : Tells aggregation log entries)
    (hstep : FlowTable.alterEntries aggregation key change entries = .ok result) :
    Tells aggregation (log ++ [(key, change)]) result := by
  rcases FlowTable.alterEntries_cases hstep with
    ⟨front, first, stats, changed, rest, rfl, hfirst, hchanged, rfl⟩ | ⟨hnew, changed, hchanged, rfl⟩
  · exact h.concat_known hfirst hchanged
  · exact h.concat_new hnew hchanged

/-- A table has as many entries as there are identities in its log. -/
theorem Tells.length_eq {entries : List (FlowKey × FlowStats)} (h : Tells aggregation log entries) :
    entries.length = (identities aggregation log).toFinset.card := by
  have hsame : (identities aggregation entries).toFinset = (identities aggregation log).toFinset := by
    ext identity
    rw [List.mem_toFinset, List.mem_toFinset, h.covers]
  rw [← hsame, List.toFinset_card_of_nodup h.distinct, identities, List.length_map]

/-- A key finds the counters of its identity in the log, or nothing where the log does not know its
identity. -/
theorem Tells.find? {entries : List (FlowKey × FlowStats)} (h : Tells aggregation log entries)
    (key : FlowKey) :
    match FlowTable.find? aggregation key entries with
    | some stats => key.identity aggregation ∈ identities aggregation log ∧
        tally aggregation log (key.identity aggregation) = .ok stats
    | none => key.identity aggregation ∉ identities aggregation log := by
  cases hfind : FlowTable.find? aggregation key entries with
  | some stats =>
    obtain ⟨first, hmem, hidentity⟩ := FlowTable.exists_mem_of_find? hfind
    rw [← hidentity]
    exact ⟨h.mem_identities hmem, h.total _ hmem⟩
  | none =>
    intro hlog
    obtain ⟨entry, hentry, hidentity⟩ := List.mem_map.mp ((h.covers _).mpr hlog)
    exact FlowTable.identity_ne_of_find?_eq_none hfind entry hentry hidentity

end FlowLog

end FlowMeter
