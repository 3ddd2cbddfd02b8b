import FlowMeter.Proofs.Amounts
import FlowMeter.Proofs.Log

/-!
# Postings

Amounts are posted to a table one after the other, each under the key of its flow. What a table holds
then of a flow is what it held before and the sum of the amounts that are posted to the flow; all can be
posted exactly where no counter of a flow overflows by this sum. So it makes no difference to the
overflow in which order amounts are posted, and a table that is posted to another one moves the sums
of its log.
-/

namespace FlowMeter

/-- Amounts in order, each under the key of the flow that they are added to. -/
abbrev Postings := List (FlowKey × Amounts)

namespace Postings

/-- The sum of the amounts that are posted to an identity. -/
def total (aggregation : Aggregation) (postings : Postings) (identity : FlowIdentity) : Amounts :=
  ((postings.filter (·.1.identity aggregation = identity)).map (·.2)).sum

variable {aggregation : Aggregation}

/-- Nothing is posted to any identity at the start. -/
theorem total_nil (identity : FlowIdentity) : total aggregation [] identity = 0 := rfl

/-- What is posted to an identity adds up in order. -/
theorem total_append (front rest : Postings) (identity : FlowIdentity) :
    total aggregation (front ++ rest) identity =
      total aggregation front identity + total aggregation rest identity := by
  simp [total, List.filter_append]

/-- A posting counts for the identity of its key. -/
theorem total_cons_self (key : FlowKey) (amounts : Amounts) (rest : Postings) :
    total aggregation ((key, amounts) :: rest) (key.identity aggregation) =
      amounts + total aggregation rest (key.identity aggregation) := by
  simp [total]

/-- A posting does not count for any other identity. -/
theorem total_cons_of_ne {key : FlowKey} {identity : FlowIdentity} (amounts : Amounts)
    (rest : Postings) (h : key.identity aggregation ≠ identity) :
    total aggregation ((key, amounts) :: rest) identity = total aggregation rest identity := by
  simp [total, h]

/-- Nothing is posted to an identity that no posting has. -/
theorem total_of_not_mem {postings : Postings} {identity : FlowIdentity}
    (h : identity ∉ FlowLog.identities aggregation postings) :
    total aggregation postings identity = 0 := by
  have hnone : postings.filter (·.1.identity aggregation = identity) = [] := by
    rw [List.filter_eq_nil_iff]
    intro posting hposting hidentity
    exact h (List.mem_map.mpr ⟨posting, hposting, by simpa using hidentity⟩)
  rw [total, hnone]
  rfl

/-- The order of postings makes no difference to the counters of their sum. -/
theorem count_total_perm {postings others : Postings} (h : postings.Perm others)
    (identity : FlowIdentity) (counter : FlowCounter) :
    (total aggregation postings identity).count counter =
      (total aggregation others identity).count counter := by
  rw [total, total, Amounts.count_sum, Amounts.count_sum]
  exact (((h.filter _).map _).map _).sum_eq

end Postings

namespace FlowTable

variable {aggregation : Aggregation}

/-- The counters of a flow among entries, at zero where there is no such flow. -/
def held (aggregation : Aggregation) (entries : List (FlowKey × FlowStats)) (key : FlowKey) : FlowStats :=
  (find? aggregation key entries).getD .zero

/-- Posts amounts to entries one after the other. -/
def post (aggregation : Aggregation) (postings : Postings) (entries : List (FlowKey × FlowStats)) :
    Except Fault (List (FlowKey × FlowStats)) :=
  postings.foldlM (fun entries posting =>
    alterEntries aggregation posting.1 (·.plus posting.2) entries) entries

/-- What comes later is posted to the entries that what came first leaves. -/
theorem post_append (front rest : Postings) (entries : List (FlowKey × FlowStats)) :
    post aggregation (front ++ rest) entries =
      post aggregation front entries >>= post aggregation rest :=
  List.foldlM_append

/-- A change is made exactly where it can be made to the counters that are held. -/
theorem exists_alterEntries_iff {key : FlowKey} {change : FlowChange}
    {entries : List (FlowKey × FlowStats)} :
    (∃ result, alterEntries aggregation key change entries = .ok result) ↔
      ∃ changed, change (held aggregation entries key) = .ok changed := by
  constructor
  · rintro ⟨result, hresult⟩
    obtain ⟨changed, hchanged, _⟩ := find?_alterEntries_of_same (key.same_refl aggregation) hresult
    exact ⟨changed, hchanged⟩
  · rintro ⟨changed, hchanged⟩
    induction entries with
    | nil =>
      have hchanged : change .zero = .ok changed := hchanged
      exact ⟨[(key, changed)], by rw [alterEntries, hchanged]; rfl⟩
    | cons entry rest ih =>
      obtain ⟨first, stats⟩ := entry
      rw [held, find?_cons] at hchanged
      rw [alterEntries]
      split at hchanged
      · rename_i hsame
        have hchanged : change stats = .ok changed := hchanged
        exact ⟨(first, changed) :: rest, by rw [if_pos hsame, hchanged]; rfl⟩
      · rename_i hsame
        obtain ⟨later, hlater⟩ := ih hchanged
        exact ⟨(first, stats) :: later, by rw [if_neg hsame, hlater]; rfl⟩

/-- Keys of one identity find the same counters. -/
theorem held_congr {key other : FlowKey} (entries : List (FlowKey × FlowStats))
    (h : key.identity aggregation = other.identity aggregation) :
    held aggregation entries key = held aggregation entries other := by
  have hsame : ∀ first : FlowKey, first.same aggregation key = first.same aggregation other := by
    intro first
    rw [Bool.eq_iff_iff, FlowKey.same_iff, FlowKey.same_iff, h]
  simp only [held, find?, hsame]

/-- What is held of the flow of a posting grows by its amounts; other flows hold what they held. -/
theorem amounts_held_alterEntries {key : FlowKey} {amounts : Amounts}
    {entries result : List (FlowKey × FlowStats)}
    (h : alterEntries aggregation key (·.plus amounts) entries = .ok result) (other : FlowKey) :
    (held aggregation result other).amounts =
      (held aggregation entries other).amounts +
        Postings.total aggregation [(key, amounts)] (other.identity aggregation) := by
  by_cases hidentity : key.identity aggregation = other.identity aggregation
  · obtain ⟨stats, hstats, hfound⟩ :=
      find?_alterEntries_of_same (FlowKey.same_iff.mpr hidentity) h
    have hplus : (held aggregation entries key).plus amounts = .ok stats := hstats
    rw [held, hfound, Option.getD_some, FlowStats.plus_eq_ok_iff.mp hplus,
      held_congr entries hidentity, ← hidentity, Postings.total_cons_self, Postings.total_nil,
      add_zero]
  · have hsame : key.same aggregation other = false := by
      rw [← Bool.not_eq_true, FlowKey.same_iff]
      exact hidentity
    rw [held, find?_alterEntries_of_not_same hsame h, ← held,
      Postings.total_cons_of_ne _ _ hidentity, Postings.total_nil, add_zero]

/-- What is held of a flow grows by the sum of the amounts that are posted to it. -/
theorem amounts_held_post {postings : Postings} {entries result : List (FlowKey × FlowStats)}
    (h : post aggregation postings entries = .ok result) (key : FlowKey) :
    (held aggregation result key).amounts =
      (held aggregation entries key).amounts +
        Postings.total aggregation postings (key.identity aggregation) := by
  induction postings generalizing entries with
  | nil =>
    obtain rfl := Except.ok.inj h
    rw [Postings.total_nil, add_zero]
  | cons posting rest ih =>
    obtain ⟨between, hbetween, hrest⟩ := exists_of_bind_eq_ok h
    rw [ih hrest, amounts_held_alterEntries hbetween key, add_assoc, ← Postings.total_append]
    rfl

/-- All can be posted exactly where no counter of a flow overflows by the sum that is posted to it. -/
theorem exists_post_iff {postings : Postings} {entries : List (FlowKey × FlowStats)} :
    (∃ result, post aggregation postings entries = .ok result) ↔
      ∀ key counter, (held aggregation entries key).amounts.count counter +
        (Postings.total aggregation postings (key.identity aggregation)).count counter <
          UInt64.size := by
  constructor
  · rintro ⟨result, hresult⟩ key counter
    rw [← Amounts.count_add, ← amounts_held_post hresult key]
    exact FlowStats.count_amounts_lt _ counter
  · intro hfits
    induction postings generalizing entries with
    | nil => exact ⟨entries, rfl⟩
    | cons posting rest ih =>
      obtain ⟨key, amounts⟩ := posting
      -- The first posting fits, because it is a part of the sum that is posted to its flow.
      have hfirst : ∃ changed, (held aggregation entries key).plus amounts = .ok changed := by
        refine FlowStats.exists_plus_iff.mpr fun counter => ?_
        have hsum := hfits key counter
        rw [Postings.total_cons_self, Amounts.count_add] at hsum
        omega
      have hstep : ∃ between, alterEntries aggregation key (·.plus amounts) entries = .ok between :=
        exists_alterEntries_iff.mpr hfirst
      obtain ⟨between, hbetween⟩ := hstep
      have hrest : ∀ other counter, (held aggregation between other).amounts.count counter +
          (Postings.total aggregation rest (other.identity aggregation)).count counter <
            UInt64.size := by
        intro other counter
        have hsum := hfits other counter
        rwa [← List.singleton_append, Postings.total_append, Amounts.count_add, ← Nat.add_assoc,
          ← Amounts.count_add, ← amounts_held_alterEntries hbetween other] at hsum
      obtain ⟨result, hresult⟩ := ih hrest
      refine ⟨result, ?_⟩
      rw [post, List.foldlM_cons, hbetween]
      exact hresult

/-- Posting fails only where a counter does not fit. -/
theorem post_onlyOverflow (postings : Postings) (entries : List (FlowKey × FlowStats)) :
    OnlyOverflow (post aggregation postings entries) := by
  refine OnlyOverflow.foldlM (fun entries posting => ?_) postings entries
  exact alterEntries_onlyOverflow (fun stats => stats.plus_onlyOverflow posting.2) entries

/-- A flow is found exactly where an entry has its identity. -/
theorem isSome_find?_iff {key : FlowKey} {entries : List (FlowKey × FlowStats)} :
    (find? aggregation key entries).isSome ↔
      key.identity aggregation ∈ FlowLog.identities aggregation entries := by
  cases hfind : find? aggregation key entries with
  | some stats =>
    obtain ⟨first, hmem, hidentity⟩ := exists_mem_of_find? hfind
    exact ⟨fun _ => List.mem_map.mpr ⟨_, hmem, hidentity⟩, fun _ => rfl⟩
  | none =>
    refine ⟨fun h => (nomatch h), fun h => ?_⟩
    obtain ⟨entry, hentry, hidentity⟩ := List.mem_map.mp h
    exact absurd hidentity (identity_ne_of_find?_eq_none hfind entry hentry)

/-- After a change a table has the flows that it had, and that of the change. -/
theorem mem_identities_alterEntries {key : FlowKey} {change : FlowChange}
    {entries result : List (FlowKey × FlowStats)}
    (h : alterEntries aggregation key change entries = .ok result) (identity : FlowIdentity) :
    identity ∈ FlowLog.identities aggregation result ↔
      identity ∈ FlowLog.identities aggregation entries ∨ identity = key.identity aggregation := by
  rcases alterEntries_cases h with
    ⟨front, first, stats, changed, rest, rfl, hfirst, _, rfl⟩ | ⟨_, changed, _, rfl⟩
  · simp only [FlowLog.identities, List.map_append, List.map_cons, List.mem_append, List.mem_cons,
      ← hfirst]
    tauto
  · simp [FlowLog.identities]

/-- After some postings a table has the flows that it had, and those that were posted to. -/
theorem mem_identities_post {postings : Postings} {entries result : List (FlowKey × FlowStats)}
    (h : post aggregation postings entries = .ok result) (identity : FlowIdentity) :
    identity ∈ FlowLog.identities aggregation result ↔
      identity ∈ FlowLog.identities aggregation entries ∨
        identity ∈ FlowLog.identities aggregation postings := by
  induction postings generalizing entries with
  | nil =>
    obtain rfl := Except.ok.inj h
    simp [FlowLog.identities]
  | cons posting rest ih =>
    obtain ⟨between, hbetween, hrest⟩ := exists_of_bind_eq_ok h
    rw [ih hrest, mem_identities_alterEntries hbetween, or_assoc]
    exact or_congr_right List.mem_cons.symm

end FlowTable

namespace FlowLog

variable {aggregation : Aggregation}

/-- The log of postings. -/
def ofPostings (postings : Postings) : FlowLog :=
  postings.map fun posting => (posting.1, fun stats => stats.plus posting.2)

/-- The changes of postings come in the order of these. -/
theorem ofPostings_append (front rest : Postings) :
    ofPostings (front ++ rest) = ofPostings front ++ ofPostings rest :=
  List.map_append

/-- The changes of postings have the identities of these. -/
theorem identities_ofPostings (postings : Postings) :
    identities aggregation (ofPostings postings) = identities aggregation postings := by
  simp [identities, ofPostings]

/-- The counters of an identity in a log of postings are the sum of what is posted to it. -/
theorem tally_ofPostings (postings : Postings) (identity : FlowIdentity) :
    tally aggregation (ofPostings postings) identity =
      FlowStats.zero.plus (Postings.total aggregation postings identity) := by
  rw [tally, ofPostings, List.filter_map, List.foldlM_map, Postings.total, ← FlowStats.foldlM_plus,
    List.foldlM_map]
  rfl

/-- Entries tell a log of postings where they hold the sums of its amounts. -/
theorem Tells.amounts_eq {postings : Postings} {entries : List (FlowKey × FlowStats)}
    {entry : FlowKey × FlowStats} (h : Tells aggregation (ofPostings postings) entries)
    (hentry : entry ∈ entries) :
    entry.2.amounts = Postings.total aggregation postings (entry.1.identity aggregation) := by
  have htotal := h.total entry hentry
  rw [tally_ofPostings, FlowStats.plus_eq_ok_iff, FlowStats.amounts_zero, zero_add] at htotal
  exact htotal

/-- A table that tells a log of postings holds of every flow the sum that is posted to it. -/
theorem Tells.amounts_held {postings : Postings} {entries : List (FlowKey × FlowStats)}
    (h : Tells aggregation (ofPostings postings) entries) (key : FlowKey) :
    (FlowTable.held aggregation entries key).amounts =
      Postings.total aggregation postings (key.identity aggregation) := by
  cases hfind : FlowTable.find? aggregation key entries with
  | some stats =>
    obtain ⟨first, hmem, hidentity⟩ := FlowTable.exists_mem_of_find? hfind
    rw [FlowTable.held, hfind, Option.getD_some, ← hidentity]
    exact h.amounts_eq hmem
  | none =>
    have hlog : key.identity aggregation ∉ identities aggregation (ofPostings postings) := by
      intro hmem
      rw [← h.covers, ← FlowTable.isSome_find?_iff, hfind] at hmem
      contradiction
    rw [identities_ofPostings] at hlog
    rw [FlowTable.held, hfind, Option.getD_none, FlowStats.amounts_zero,
      Postings.total_of_not_mem hlog]

/-- A table that is posted to tells the log that goes on by the postings. -/
theorem Tells.post {log : FlowLog} {postings : Postings} {entries result : List (FlowKey × FlowStats)}
    (h : Tells aggregation log entries)
    (hpost : FlowTable.post aggregation postings entries = .ok result) :
    Tells aggregation (log ++ ofPostings postings) result := by
  induction postings generalizing log entries with
  | nil =>
    obtain rfl := Except.ok.inj hpost
    rwa [ofPostings, List.map_nil, List.append_nil]
  | cons posting rest ih =>
    obtain ⟨between, hbetween, hrest⟩ := exists_of_bind_eq_ok hpost
    have hnext := ih (h.concat hbetween) hrest
    rwa [List.append_assoc] at hnext

/-- Logs that one table tells have the same first keys. -/
theorem Tells.firstKey?_eq {log other : FlowLog} {entries : List (FlowKey × FlowStats)}
    (h : Tells aggregation log entries) (hother : Tells aggregation other entries)
    (identity : FlowIdentity) :
    firstKey? aggregation log identity = firstKey? aggregation other identity := by
  by_cases hmem : identity ∈ identities aggregation entries
  · obtain ⟨entry, hentry, rfl⟩ := List.mem_map.mp hmem
    rw [h.first entry hentry, hother.first entry hentry]
  · rw [firstKey?_of_not_mem fun hlog => hmem ((h.covers _).mpr hlog),
      firstKey?_of_not_mem fun hlog => hmem ((hother.covers _).mpr hlog)]

/-- Logs of postings that one table tells have the same sums. -/
theorem Tells.total_eq {postings others : Postings} {entries : List (FlowKey × FlowStats)}
    (h : Tells aggregation (ofPostings postings) entries)
    (hother : Tells aggregation (ofPostings others) entries) (identity : FlowIdentity) :
    Postings.total aggregation postings identity = Postings.total aggregation others identity := by
  by_cases hmem : identity ∈ identities aggregation entries
  · obtain ⟨entry, hentry, rfl⟩ := List.mem_map.mp hmem
    rw [← h.amounts_eq hentry, ← hother.amounts_eq hentry]
  · have hmem_iff := h.covers identity
    have hother_iff := hother.covers identity
    rw [identities_ofPostings] at hmem_iff hother_iff
    rw [Postings.total_of_not_mem fun hlog => hmem (hmem_iff.mpr hlog),
      Postings.total_of_not_mem fun hlog => hmem (hother_iff.mpr hlog)]

/-- The first key of an identity in a log that goes on is that of the front, if it has one. -/
theorem firstKey?_append (front rest : FlowLog) (identity : FlowIdentity) :
    firstKey? aggregation (front ++ rest) identity =
      (firstKey? aggregation front identity).or (firstKey? aggregation rest identity) := by
  rw [firstKey?, List.map_append, List.find?_append]
  rfl

/-- In a log of postings, a part may stand for another part where one table tells both. -/
theorem Tells.replace {front postings others : Postings} {entries result : List (FlowKey × FlowStats)}
    (h : Tells aggregation (ofPostings (front ++ postings)) result)
    (hpostings : Tells aggregation (ofPostings postings) entries)
    (hothers : Tells aggregation (ofPostings others) entries) :
    Tells aggregation (ofPostings (front ++ others)) result where
  distinct := h.distinct
  covers := by
    intro identity
    rw [h.covers, ofPostings_append, ofPostings_append, identities, identities, List.map_append,
      List.map_append, List.mem_append, List.mem_append]
    exact or_congr_right ((hpostings.covers identity).symm.trans (hothers.covers identity))
  first := by
    intro entry hentry
    rw [ofPostings_append, firstKey?_append, ← hpostings.firstKey?_eq hothers, ← firstKey?_append,
      ← ofPostings_append]
    exact h.first entry hentry
  total := by
    intro entry hentry
    rw [tally_ofPostings, Postings.total_append, ← hpostings.total_eq hothers, ← Postings.total_append,
      ← tally_ofPostings]
    exact h.total entry hentry

end FlowLog

namespace Postings

/-- What entries hold, as postings. -/
def ofEntries (entries : List (FlowKey × FlowStats)) : Postings :=
  entries.map fun entry => (entry.1, entry.2.amounts)

end Postings

namespace FlowTable

variable {aggregation : Aggregation}

/-- A change of a flow that a table does not have adds an entry at the end. -/
theorem alterEntries_of_new {key : FlowKey} {change : FlowChange} {entries : List (FlowKey × FlowStats)}
    (h : key.identity aggregation ∉ FlowLog.identities aggregation entries) :
    alterEntries aggregation key change entries =
      (change .zero).map fun stats => entries ++ [(key, stats)] := by
  induction entries with
  | nil => rfl
  | cons entry rest ih =>
    obtain ⟨first, stats⟩ := entry
    obtain ⟨hfirst, hrest⟩ := not_or.mp (fun hmem => h (List.mem_cons.mpr hmem))
    have hsame : ¬first.same aggregation key = true := fun hsame =>
      hfirst (FlowKey.same_iff.mp hsame).symm
    rw [alterEntries, if_neg hsame, ih hrest]
    cases change .zero <;> rfl

/-- Entries that are posted behind others, all of distinct identities, follow them. -/
theorem post_ofEntries {front rest : List (FlowKey × FlowStats)}
    (h : (FlowLog.identities aggregation (front ++ rest)).Nodup) :
    post aggregation (Postings.ofEntries rest) front = .ok (front ++ rest) := by
  induction rest generalizing front with
  | nil => rw [List.append_nil]; rfl
  | cons entry rest ih =>
    have hnew : entry.1.identity aggregation ∉ FlowLog.identities aggregation front := by
      intro hmem
      obtain ⟨other, hother, hidentity⟩ := List.mem_map.mp hmem
      exact FlowLog.identity_ne_of_nodup h (List.mem_append_left rest hother) hidentity.symm
    have hstats : FlowStats.zero.plus entry.2.amounts = .ok entry.2 := by
      rw [FlowStats.plus_eq_ok_iff, FlowStats.amounts_zero, zero_add]
    have hstep : alterEntries aggregation entry.1 (·.plus entry.2.amounts) front =
        .ok (front ++ [entry]) := by
      rw [alterEntries_of_new hnew, hstats]
      rfl
    have hdistinct : (FlowLog.identities aggregation (front ++ [entry] ++ rest)).Nodup := by
      rwa [List.append_assoc]
    have hrest := ih hdistinct
    rw [List.append_assoc] at hrest
    rw [Postings.ofEntries, List.map_cons, post, List.foldlM_cons, hstep]
    exact hrest

/-- The entries of a table, as postings, are a log that it tells. -/
theorem tells_ofEntries {entries : List (FlowKey × FlowStats)}
    (h : (FlowLog.identities aggregation entries).Nodup) :
    FlowLog.Tells aggregation (FlowLog.ofPostings (.ofEntries entries)) entries :=
  FlowLog.tells_nil.post (post_ofEntries h)

/-- Merging entries into a table one after the other posts what they hold. -/
theorem foldlM_alter_merge (table : FlowTable aggregation) (moved : List (FlowKey × FlowStats)) :
    moved.foldlM (fun table entry => table.alter entry.1 (·.merge entry.2)) table =
      (post aggregation (.ofEntries moved) table.entries).map fun entries =>
        (⟨entries⟩ : FlowTable aggregation) := by
  induction moved generalizing table with
  | nil => rfl
  | cons entry rest ih =>
    have hmerge : (fun stats : FlowStats => stats.merge entry.2) =
        fun stats => stats.plus entry.2.amounts :=
      funext fun stats => stats.merge_eq_plus entry.2
    rw [List.foldlM_cons, Postings.ofEntries, List.map_cons, post, List.foldlM_cons, alter, hmerge]
    cases alterEntries aggregation entry.1 (fun stats => stats.plus entry.2.amounts) table.entries with
    | error fault => rfl
    | ok between => exact ih ⟨between⟩

/-- Moving the flows of another table posts what they hold, and leaves no flow behind. -/
theorem mergeFrom_eq (table other : FlowTable aggregation) :
    table.mergeFrom other =
      (post aggregation (.ofEntries other.entries) table.entries).map fun entries =>
        (⟨entries⟩, .empty) := by
  rw [mergeFrom, drain]
  simp only [foldlM_alter_merge]
  cases post aggregation (.ofEntries other.entries) table.entries <;> rfl

end FlowTable
end FlowMeter
