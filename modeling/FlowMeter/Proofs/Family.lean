import Mathlib.Logic.Function.Basic
import FlowMeter.Proofs.Posting

/-!
# Families of tables

Several workers may keep a table each and move their flows into one another's tables. Each table of
such a family tells a log of its own: an update goes on its log, a table that is emptied starts a new
log, and a table that takes the flows of another one takes its log behind its own. Moving is an overflow
exactly where the updates of one flow in both logs overflow a counter.
-/

namespace FlowMeter

/-- Updates of flows in order, some or none at a time, with the key of the flow. -/
abbrev UpdateLog := List (FlowKey × List FlowUpdate)

namespace UpdateLog

/-- The changes that updates make, each key with all its updates at a time. -/
def changes (log : UpdateLog) : FlowLog :=
  log.map fun entry => (entry.1, FlowUpdate.applyAll entry.2)

/-- The updates of an identity in order. -/
def updatesOf (aggregation : Aggregation) (log : UpdateLog) (identity : FlowIdentity) : List FlowUpdate :=
  (log.filter (·.1.identity aggregation = identity)).flatMap (·.2)

/-- What the updates of an identity add to a counter, whether it fits or not. -/
def sum (aggregation : Aggregation) (log : UpdateLog) (identity : FlowIdentity)
    (counter : FlowCounter) : Nat :=
  ((log.updatesOf aggregation identity).map fun update => (update.added.counter counter).toNat).sum

/-- What the updates of a log post. -/
def postings (log : UpdateLog) : Postings :=
  log.map fun entry => (entry.1, FlowUpdate.amounts entry.2)

/-- A log that goes on posts what its parts do. -/
theorem postings_append (front rest : UpdateLog) :
    postings (front ++ rest) = postings front ++ postings rest :=
  List.map_append

/-- The changes of updates are postings. -/
theorem changes_eq (log : UpdateLog) : log.changes = FlowLog.ofPostings log.postings := by
  rw [changes, FlowLog.ofPostings, postings, List.map_map]
  refine List.map_congr_left fun entry _ => ?_
  rw [FlowUpdate.applyAll_eq]
  rfl

/-- What the updates of an identity add to a counter is the counter of what they post. -/
theorem sum_eq (aggregation : Aggregation) (log : UpdateLog) (identity : FlowIdentity)
    (counter : FlowCounter) :
    log.sum aggregation identity counter =
      (Postings.total aggregation log.postings identity).count counter := by
  induction log with
  | nil => rfl
  | cons entry rest ih =>
    obtain ⟨key, updates⟩ := entry
    have hupdates : (FlowUpdate.amounts updates).count counter =
        (updates.map fun update => (update.added.counter counter).toNat).sum := by
      rw [FlowUpdate.amounts, Amounts.count_sum, List.map_map]
      rfl
    by_cases hidentity : key.identity aggregation = identity
    · have hsum : sum aggregation ((key, updates) :: rest) identity counter =
          (updates.map fun update => (update.added.counter counter).toNat).sum +
            sum aggregation rest identity counter := by
        simp [sum, updatesOf, hidentity]
      rw [hsum, ih, ← hupdates, ← Amounts.count_add, ← hidentity, ← Postings.total_cons_self]
      rfl
    · have hsum : sum aggregation ((key, updates) :: rest) identity counter =
          sum aggregation rest identity counter := by
        simp [sum, updatesOf, hidentity]
      rw [hsum, ih, ← Postings.total_cons_of_ne (FlowUpdate.amounts updates) _ hidentity]
      rfl

end UpdateLog

/-- What may be asked of the tables of a family: to update a flow, which is made if it is new, to empty
a table, or to move the flows of a table into another one. -/
inductive TableRequest (Index : Type) where
  | update (index : Index) (key : FlowKey) (updates : List FlowUpdate)
  | clear (index : Index)
  | drain (index : Index)
  | merge (index source : Index) (distinct : index ≠ source)

/-- Tables under one way of aggregation. -/
abbrev TableFamily (aggregation : Aggregation) (Index : Type) := Index → FlowTable aggregation

variable {aggregation : Aggregation} {Index : Type} [DecidableEq Index]

namespace TableFamily

/-- Does what is asked of a family. -/
def serve (tables : TableFamily aggregation Index) :
    TableRequest Index → Except Fault (TableFamily aggregation Index)
  | .update index key updates =>
    ((tables index).alter key (FlowUpdate.applyAll updates)).map (Function.update tables index)
  | .clear index => .ok (Function.update tables index .empty)
  | .drain index => .ok (Function.update tables index (tables index).drain.2)
  | .merge index source _ =>
    ((tables index).mergeFrom (tables source)).map fun merged =>
      Function.update (Function.update tables index merged.1) source merged.2

/-- The logs of a family after what is asked of it. -/
def log (logs : Index → UpdateLog) : TableRequest Index → Index → UpdateLog
  | .update index key updates => Function.update logs index (logs index ++ [(key, updates)])
  | .clear index => Function.update logs index []
  | .drain index => Function.update logs index []
  | .merge index source _ =>
    Function.update (Function.update logs index (logs index ++ logs source)) source []

/-- A family each table of which tells the log of the same index. -/
def Tells (logs : Index → UpdateLog) (tables : TableFamily aggregation Index) : Prop :=
  ∀ index, FlowLog.Tells aggregation (logs index).changes (tables index).entries

variable {logs : Index → UpdateLog} {tables next : TableFamily aggregation Index}

/-- A family tells its logs still where one table and its log are replaced. -/
theorem Tells.update (h : tables.Tells logs) {index : Index} {updateLog : UpdateLog}
    {table : FlowTable aggregation}
    (htable : FlowLog.Tells aggregation updateLog.changes table.entries) :
    Tells (Function.update logs index updateLog) (Function.update tables index table) := by
  intro other
  by_cases hindex : other = index
  · rw [hindex, Function.update_self, Function.update_self]
    exact htable
  · rw [Function.update_of_ne hindex, Function.update_of_ne hindex]
    exact h other

/-- What moving the flows of one table into another one posts is what the log of the one posts. -/
theorem Tells.mergeFrom {table other : FlowTable aggregation}
    {merged : FlowTable aggregation × FlowTable aggregation}
    {updateLog otherLog : UpdateLog}
    (h : FlowLog.Tells aggregation updateLog.changes table.entries)
    (hother : FlowLog.Tells aggregation otherLog.changes other.entries)
    (hmerged : table.mergeFrom other = .ok merged) :
    FlowLog.Tells aggregation (updateLog ++ otherLog).changes merged.1.entries ∧
      merged.2 = .empty := by
  rw [FlowTable.mergeFrom_eq] at hmerged
  obtain ⟨entries, hentries, rfl⟩ := exists_of_map_eq_ok hmerged
  rw [UpdateLog.changes_eq] at h hother ⊢
  -- The other table is posted entry by entry; its log may stand for its entries, as it tells both.
  have hposted := h.post hentries
  rw [← FlowLog.ofPostings_append] at hposted
  rw [UpdateLog.postings_append]
  exact ⟨hposted.replace (FlowTable.tells_ofEntries hother.distinct) hother, rfl⟩

/-- Moving the flows of one table into another one is an overflow exactly where the updates of one flow
in both logs overflow a counter. -/
theorem Tells.mergeFrom_error_iff {table other : FlowTable aggregation} {updateLog otherLog : UpdateLog}
    (h : FlowLog.Tells aggregation updateLog.changes table.entries)
    (hother : FlowLog.Tells aggregation otherLog.changes other.entries) :
    (∃ fault, table.mergeFrom other = .error fault) ↔
      ∃ identity counter,
        UInt64.size ≤ (updateLog ++ otherLog).sum aggregation identity counter := by
  rw [UpdateLog.changes_eq] at h hother
  have hsum : ∀ key counter,
      (FlowTable.held aggregation table.entries key).amounts.count counter +
          (Postings.total aggregation (.ofEntries other.entries) (key.identity aggregation)).count
            counter =
        (updateLog ++ otherLog).sum aggregation (key.identity aggregation) counter := by
    intro key counter
    rw [UpdateLog.sum_eq, UpdateLog.postings_append, Postings.total_append, Amounts.count_add,
      h.amounts_held, (FlowTable.tells_ofEntries hother.distinct).total_eq hother]
  have hmerged : (∃ fault, table.mergeFrom other = .error fault) ↔
      ¬∃ entries, FlowTable.post aggregation (.ofEntries other.entries) table.entries = .ok entries := by
    rw [FlowTable.mergeFrom_eq]
    cases FlowTable.post aggregation (.ofEntries other.entries) table.entries with
    | error fault => exact ⟨fun _ ⟨_, h⟩ => (nomatch h), fun _ => ⟨fault, rfl⟩⟩
    | ok entries => exact ⟨fun ⟨_, h⟩ => (nomatch h), fun h => absurd ⟨entries, rfl⟩ h⟩
  rw [hmerged, FlowTable.exists_post_iff]
  constructor
  · intro hover
    obtain ⟨key, hkey⟩ := not_forall.mp hover
    obtain ⟨counter, hcounter⟩ := not_forall.mp hkey
    exact ⟨key.identity aggregation, counter, Nat.not_lt.mp (hsum key counter ▸ hcounter)⟩
  · rintro ⟨identity, counter, hover⟩ hfits
    -- The sum is not zero, so some update has the identity.
    have hmem : identity ∈ FlowLog.identities aggregation (updateLog ++ otherLog).postings := by
      by_contra hmem
      rw [UpdateLog.sum_eq, Postings.total_of_not_mem hmem] at hover
      contradiction
    obtain ⟨posting, _, rfl⟩ := List.mem_map.mp hmem
    have hkey := hfits posting.1 counter
    rw [hsum] at hkey
    exact Nat.not_lt.mpr hover hkey

/-- What is asked of a family that tells its logs leaves one that tells the logs after it. -/
theorem Tells.serve {request : TableRequest Index} (h : tables.Tells logs)
    (hnext : tables.serve request = .ok next) : next.Tells (log logs request) := by
  cases request with
  | update index key updates =>
    obtain ⟨table, htable, rfl⟩ := exists_of_map_eq_ok hnext
    obtain ⟨entries, hentries, rfl⟩ := exists_of_map_eq_ok htable
    refine h.update ?_
    have hconcat := (h index).concat hentries
    rwa [UpdateLog.changes, List.map_append]
  | clear index =>
    obtain rfl := Except.ok.inj hnext
    exact h.update FlowLog.tells_nil
  | drain index =>
    obtain rfl := Except.ok.inj hnext
    exact h.update FlowLog.tells_nil
  | merge index source distinct =>
    obtain ⟨merged, hmerged, rfl⟩ := exists_of_map_eq_ok hnext
    obtain ⟨htable, hempty⟩ := Tells.mergeFrom (h index) (h source) hmerged
    rw [hempty]
    exact (h.update htable).update FlowLog.tells_nil

/-- A family tells the logs of all that is asked of it. -/
theorem Tells.foldlM_serve {requests : List (TableRequest Index)} (h : tables.Tells logs)
    (hnext : requests.foldlM TableFamily.serve tables = .ok next) :
    next.Tells (requests.foldl log logs) := by
  induction requests generalizing tables logs with
  | nil =>
    obtain rfl := Except.ok.inj hnext
    exact h
  | cons request rest ih =>
    obtain ⟨between, hbetween, hrest⟩ := exists_of_bind_eq_ok hnext
    exact ih (h.serve hbetween) hrest

end TableFamily

/-- Each table of a family tells its log: it holds one entry for each identity in the log, under the
first key of the identity, with the updates of the identity made one after the other from zero. It has
as many entries as there are identities in the log, and a key finds the entry of its identity or nothing
where there is none. The flows of one table can be moved into another one unless the updates of one
identity in both logs overflow a counter. -/
theorem serve_tells_logs {requests : List (TableRequest Index)}
    {tables : TableFamily aggregation Index}
    (h : requests.foldlM TableFamily.serve (fun _ => .empty) = .ok tables) :
    let logs := requests.foldl TableFamily.log fun _ => []
    (∀ index,
      FlowLog.Tells aggregation (logs index).changes (tables index).entries ∧
        (tables index).size =
          (FlowLog.identities aggregation (logs index).changes).toFinset.card ∧
        ∀ key : FlowKey, match (tables index).get? key with
          | some stats =>
            key.identity aggregation ∈ FlowLog.identities aggregation (logs index).changes ∧
              FlowLog.tally aggregation (logs index).changes (key.identity aggregation) = .ok stats
          | none =>
            key.identity aggregation ∉ FlowLog.identities aggregation (logs index).changes) ∧
      ∀ index source, index ≠ source →
        ((∃ fault, (tables index).mergeFrom (tables source) = .error fault) ↔
          ∃ identity counter,
            UInt64.size ≤ (logs index ++ logs source).sum aggregation identity counter) := by
  intro logs
  have hstart : TableFamily.Tells (fun _ : Index => []) (fun _ : Index => (.empty : FlowTable aggregation)) :=
    fun _ => FlowLog.tells_nil
  have htells : tables.Tells logs := hstart.foldlM_serve h
  refine ⟨fun index => ⟨htells index, (htells index).length_eq, (htells index).find?⟩, ?_⟩
  intro index source _
  exact TableFamily.Tells.mergeFrom_error_iff (htells index) (htells source)

/-- Three tables with one flow: a packet is moved behind an entry without updates, and the bytes of another
table leave no room for it. -/
def leftFull : List (TableRequest (Fin 3)) :=
  let key (socketHash : UInt32) : FlowKey := { pid := 7, socketHash }
  [.update 0 (key 1) [.send 10, .recognised .http], .update 1 (key 2) [], .merge 1 0 (by decide),
    .update 2 (key 3) [.send 18446744073709551606]]

/-- The flow that was moved stands under the key without updates, and the third table cannot be moved
behind it. -/
theorem serve_tells_logs_leftFull :
    ∃ tables : TableFamily .mergedByEndpoint (Fin 3),
      leftFull.foldlM TableFamily.serve (fun _ => .empty) = .ok tables ∧
        (tables 0).size = 0 ∧
        (tables 1).entries.map (·.1.socketHash) = [2] ∧
        (tables 1).size =
          (FlowLog.identities .mergedByEndpoint
            (UpdateLog.changes [({ pid := 7, socketHash := 2 }, []),
              ({ pid := 7, socketHash := 1 }, [.send 10, .recognised .http])])).toFinset.card ∧
        ∃ fault, (tables 1).mergeFrom (tables 2) = .error fault := by
  have hserve : leftFull.foldlM TableFamily.serve
      (fun _ => .empty : TableFamily .mergedByEndpoint (Fin 3)) = .ok _ := rfl
  obtain ⟨htables, hmerge⟩ := serve_tells_logs hserve
  refine ⟨_, hserve, rfl, rfl, (htables 1).2.1, (hmerge 1 2 (by decide)).mpr ?_⟩
  exact ⟨FlowKey.identity .mergedByEndpoint { pid := 7 }, .sendBytes, by decide⟩

end FlowMeter
