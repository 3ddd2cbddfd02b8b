import FlowMeter.Flow.Key
import FlowMeter.Flow.Stats

/-!
# Flow tables

A table holds the counters of flows, one entry for each flow under a way of aggregation. The first
key of a flow stands for it. Entries are kept in the order in which their flows came.
-/

namespace FlowMeter

/-- The counters of flows, under a way of aggregation. -/
structure FlowTable (aggregation : Aggregation) where
  entries : List (FlowKey × FlowStats)
deriving DecidableEq, Repr

namespace FlowTable

variable {aggregation : Aggregation}

/-- The table without flows. -/
def empty : FlowTable aggregation := ⟨[]⟩

/-- The number of flows. -/
def size (table : FlowTable aggregation) : Nat :=
  table.entries.length

/-- Whether there are no flows. -/
def isEmpty (table : FlowTable aggregation) : Bool :=
  table.entries.isEmpty

/-- The counters of the flow of a key among some entries. -/
def find? (aggregation : Aggregation) (key : FlowKey) (entries : List (FlowKey × FlowStats)) :
    Option FlowStats :=
  (entries.find? fun entry => entry.1.same aggregation key).map (·.2)

/-- A flow is found at the first entry, or among the others. -/
theorem find?_cons (aggregation : Aggregation) (key first : FlowKey) (stats : FlowStats)
    (rest : List (FlowKey × FlowStats)) :
    find? aggregation key ((first, stats) :: rest) =
      if first.same aggregation key then some stats else find? aggregation key rest := by
  cases h : first.same aggregation key <;> simp [find?, h]

/-- The counters of the flow of a key. -/
def get? (table : FlowTable aggregation) (key : FlowKey) : Option FlowStats :=
  find? aggregation key table.entries

/-- Changes the counters of the flow of a key among some entries; a new flow starts from zero. -/
def alterEntries (aggregation : Aggregation) (key : FlowKey)
    (change : FlowStats → Except Fault FlowStats) :
    List (FlowKey × FlowStats) → Except Fault (List (FlowKey × FlowStats))
  | [] => (change .zero).map fun stats => [(key, stats)]
  | (first, stats) :: rest =>
    if first.same aggregation key then
      (change stats).map fun stats => (first, stats) :: rest
    else (alterEntries aggregation key change rest).map ((first, stats) :: ·)

/-- A change applies to the counters of its flow, which start from zero. -/
theorem find?_alterEntries_of_same {key other : FlowKey}
    {change : FlowStats → Except Fault FlowStats} {entries result : List (FlowKey × FlowStats)}
    (hsame : key.same aggregation other = true)
    (h : alterEntries aggregation key change entries = .ok result) :
    ∃ stats, change ((find? aggregation key entries).getD .zero) = .ok stats ∧
      find? aggregation other result = some stats := by
  induction entries generalizing result with
  | nil =>
    obtain ⟨stats, hstats, rfl⟩ := exists_of_map_eq_ok h
    exact ⟨stats, hstats, by simp [find?, hsame]⟩
  | cons entry rest ih =>
    obtain ⟨first, old⟩ := entry
    unfold alterEntries at h
    by_cases hfirst : first.same aggregation key = true
    · rw [if_pos hfirst] at h
      obtain ⟨stats, hstats, rfl⟩ := exists_of_map_eq_ok h
      refine ⟨stats, by simpa [find?_cons, hfirst] using hstats, ?_⟩
      rw [find?_cons, if_pos (FlowKey.same_trans hfirst hsame)]
    · rw [if_neg hfirst] at h
      obtain ⟨later, hlater, rfl⟩ := exists_of_map_eq_ok h
      have hother : ¬first.same aggregation other = true := fun h' =>
        hfirst (FlowKey.same_trans h' (FlowKey.same_symm hsame))
      obtain ⟨stats, hstats, hfound⟩ := ih hlater
      refine ⟨stats, by simpa [find?_cons, hfirst] using hstats, ?_⟩
      rwa [find?_cons, if_neg hother]

/-- A change leaves the counters of every other flow as they are. -/
theorem find?_alterEntries_of_not_same {key other : FlowKey}
    {change : FlowStats → Except Fault FlowStats} {entries result : List (FlowKey × FlowStats)}
    (hsame : key.same aggregation other = false)
    (h : alterEntries aggregation key change entries = .ok result) :
    find? aggregation other result = find? aggregation other entries := by
  induction entries generalizing result with
  | nil =>
    obtain ⟨stats, _, rfl⟩ := exists_of_map_eq_ok h
    simp [find?, hsame]
  | cons entry rest ih =>
    obtain ⟨first, old⟩ := entry
    unfold alterEntries at h
    by_cases hfirst : first.same aggregation key = true
    · rw [if_pos hfirst] at h
      obtain ⟨stats, _, rfl⟩ := exists_of_map_eq_ok h
      have hother : ¬first.same aggregation other = true := fun h' => by
        simp [FlowKey.same_trans (FlowKey.same_symm hfirst) h'] at hsame
      rw [find?_cons, find?_cons, if_neg hother, if_neg hother]
    · rw [if_neg hfirst] at h
      obtain ⟨later, hlater, rfl⟩ := exists_of_map_eq_ok h
      rw [find?_cons, find?_cons, ih hlater]

/-- Changes the counters of the flow of a key; a new flow starts from zero. -/
def alter (table : FlowTable aggregation) (key : FlowKey)
    (change : FlowStats → Except Fault FlowStats) : Except Fault (FlowTable aggregation) :=
  (alterEntries aggregation key change table.entries).map (⟨·⟩)

/-- Takes all entries out of a table. -/
def drain (table : FlowTable aggregation) :
    List (FlowKey × FlowStats) × FlowTable aggregation :=
  (table.entries, empty)

/-- Moves the flows of another table into this one and empties it. -/
def mergeFrom (table other : FlowTable aggregation) :
    Except Fault (FlowTable aggregation × FlowTable aggregation) := do
  let (moved, other) := other.drain
  let table ← moved.foldlM (fun table entry => table.alter entry.1 (·.merge entry.2)) table
  return (table, other)

end FlowTable

end FlowMeter
