import Mathlib.Algebra.Order.BigOperators.Group.Finset
import Mathlib.Algebra.Order.Group.Multiset
import FlowMeter.Proofs.Family
import FlowMeter.Proofs.Order

/-!
# Shared logs

Workers may share the updates of a log among them, each with a table of its own, and the tables are moved
into one in the end. The logs of all tables together hold the updates that were made, wherever they are
moved. So in whichever way the updates are shared and the tables are moved, an overflow is met exactly
where a single table meets one on the whole log, and otherwise the flows and their counters are those of
the single table.
-/

namespace FlowMeter

variable {aggregation : Aggregation}

namespace UpdateLog

variable {log other : UpdateLog}

/-- The order of updates makes no difference to what they add to a counter. -/
theorem sum_perm (h : log.Perm other) (identity : FlowIdentity) (counter : FlowCounter) :
    log.sum aggregation identity counter = other.sum aggregation identity counter := by
  rw [sum_eq, sum_eq]
  exact Postings.count_total_perm (h.map _) identity counter

/-- What a log adds to a counter adds up over its parts. -/
theorem sum_append (front rest : UpdateLog) (identity : FlowIdentity) (counter : FlowCounter) :
    (front ++ rest).sum aggregation identity counter =
      front.sum aggregation identity counter + rest.sum aggregation identity counter := by
  rw [sum_eq, sum_eq, sum_eq, postings_append, Postings.total_append, Amounts.count_add]

/-- Whether no counter overflows by the updates of one flow. -/
def Fits (aggregation : Aggregation) (log : UpdateLog) : Prop :=
  ∀ identity counter, log.sum aggregation identity counter < UInt64.size

/-- Where the updates of a log fit, those of a part of it do. -/
theorem Fits.of_le {part whole : UpdateLog} (h : whole.Fits aggregation)
    (hpart : (part : Multiset (FlowKey × List FlowUpdate)) ≤ whole) : part.Fits aggregation := by
  obtain ⟨rest, hrest⟩ := Multiset.le_iff_exists_add.mp hpart
  obtain ⟨rest, rfl⟩ := Quot.exists_rep rest
  have hperm : whole.Perm (part ++ rest) := Multiset.coe_eq_coe.mp hrest
  intro identity counter
  have hwhole := h identity counter
  rw [sum_perm hperm, sum_append] at hwhole
  exact Nat.lt_of_le_of_lt (Nat.le_add_right ..) hwhole

/-- What a table tells fits its counters. -/
theorem fits_of_tells {entries : List (FlowKey × FlowStats)}
    (h : FlowLog.Tells aggregation log.changes entries) : log.Fits aggregation := by
  intro identity counter
  rw [changes_eq] at h
  rw [sum_eq]
  by_cases hmem : identity ∈ FlowLog.identities aggregation entries
  · obtain ⟨entry, hentry, rfl⟩ := List.mem_map.mp hmem
    rw [← h.amounts_eq hentry]
    exact entry.2.count_amounts_lt counter
  · rw [h.covers, FlowLog.identities_ofPostings] at hmem
    rw [Postings.total_of_not_mem hmem, Amounts.count_zero]
    decide

end UpdateLog

namespace FlowTable

/-- Makes updates of flows one after the other. -/
def updateAll (table : FlowTable aggregation) (log : UpdateLog) : Except Fault (FlowTable aggregation) :=
  log.foldlM (fun table entry => table.alter entry.1 (FlowUpdate.applyAll entry.2)) table

/-- Updates one after the other post what they add. -/
theorem updateAll_eq (table : FlowTable aggregation) (log : UpdateLog) :
    table.updateAll log = (post aggregation log.postings table.entries).map (⟨·⟩) := by
  induction log generalizing table with
  | nil => rfl
  | cons entry log ih =>
    rw [updateAll, List.foldlM_cons, alter, FlowUpdate.applyAll_eq, UpdateLog.postings, List.map_cons, post,
      List.foldlM_cons]
    cases alterEntries aggregation entry.1 (·.plus (FlowUpdate.amounts entry.2)) table.entries with
    | error fault => rfl
    | ok between => exact ih ⟨between⟩

/-- A log of updates fails only where a counter does not fit. -/
theorem updateAll_onlyOverflow (table : FlowTable aggregation) (log : UpdateLog) :
    OnlyOverflow (table.updateAll log) := by
  rw [updateAll_eq]
  exact (post_onlyOverflow _ _).map _

/-- A table that starts empty tells the updates that are made to it. -/
theorem tells_of_updateAll {log : UpdateLog} {table : FlowTable aggregation}
    (h : FlowTable.empty.updateAll log = .ok table) :
    FlowLog.Tells aggregation log.changes table.entries := by
  rw [updateAll_eq] at h
  obtain ⟨entries, hentries, rfl⟩ := exists_of_map_eq_ok h
  rw [UpdateLog.changes_eq]
  exact FlowLog.tells_nil.post hentries

/-- Updates are made to an empty table exactly where they fit. -/
theorem exists_updateAll_iff {log : UpdateLog} :
    (∃ table : FlowTable aggregation, FlowTable.empty.updateAll log = .ok table) ↔
      log.Fits aggregation := by
  constructor
  · rintro ⟨table, htable⟩
    exact UpdateLog.fits_of_tells (tells_of_updateAll htable)
  · intro hfits
    have hpost : ∃ entries, post aggregation log.postings [] = .ok entries := by
      refine exists_post_iff.mpr fun key counter => ?_
      have hsum := hfits (key.identity aggregation) counter
      rw [UpdateLog.sum_eq] at hsum
      rwa [held, find?, List.find?_nil, Option.map_none, Option.getD_none, FlowStats.amounts_zero,
        Amounts.count_zero, Nat.zero_add]
    obtain ⟨entries, hentries⟩ := hpost
    rw [updateAll_eq, empty, hentries]
    exact ⟨_, rfl⟩

end FlowTable

namespace FlowLog

variable {postings others : Postings} {first second : List (FlowKey × FlowStats)}

/-- Tables that tell the same postings in different orders have the same flows. -/
theorem Tells.mem_identities_of_perm (h : Tells aggregation (ofPostings postings) first)
    (hother : Tells aggregation (ofPostings others) second) (hperm : postings.Perm others)
    (identity : FlowIdentity) :
    identity ∈ identities aggregation first ↔ identity ∈ identities aggregation second := by
  have hidentities : (identities aggregation postings).Perm (identities aggregation others) :=
    hperm.map _
  rw [h.covers, hother.covers, identities_ofPostings, identities_ofPostings, hidentities.mem_iff]

/-- Tables that tell the same postings in different orders have the same counters. -/
theorem Tells.counter_of_perm (h : Tells aggregation (ofPostings postings) first)
    (hother : Tells aggregation (ofPostings others) second) (hperm : postings.Perm others)
    (key : FlowKey) (counter : FlowCounter) :
    (FlowTable.find? aggregation key first).map (·.counter counter) =
      (FlowTable.find? aggregation key second).map (·.counter counter) := by
  refine FlowTable.counter_find?_congr (h.mem_identities_of_perm hother hperm) ?_
  rw [h.amounts_held, hother.amounts_held, Postings.count_total_perm hperm]

/-- A table that tells no change has no entry. -/
theorem Tells.eq_nil {entries : List (FlowKey × FlowStats)} (h : Tells aggregation [] entries) :
    entries = [] := by
  cases entries with
  | nil => rfl
  | cons entry rest => exact absurd (h.mem_identities (List.mem_cons_self ..)) nofun

end FlowLog

variable {Index : Type}

namespace TableRequest

/-- The updates that a request makes. -/
def posted : TableRequest Index → UpdateLog
  | .update _ key updates => [(key, updates)]
  | _ => []

/-- Whether a request leaves the updates that were made. -/
def keeps : TableRequest Index → Bool
  | .update .. => true
  | .merge .. => true
  | _ => false

end TableRequest

namespace TableFamily

/-- The updates in all logs of a family, in no order. -/
def pooled [Fintype Index] (logs : Index → UpdateLog) : Multiset (FlowKey × List FlowUpdate) :=
  ∑ index, (logs index : Multiset (FlowKey × List FlowUpdate))

/-- Empty logs pool to nothing. -/
theorem pooled_nil [Fintype Index] : pooled (fun _ : Index => []) = 0 :=
  Finset.sum_const_zero

/-- Each log is a part of the pool. -/
theorem coe_le_pooled [Fintype Index] (logs : Index → UpdateLog) (index : Index) :
    (logs index : Multiset (FlowKey × List FlowUpdate)) ≤ pooled logs :=
  Finset.single_le_sum (f := fun index => (logs index : Multiset (FlowKey × List FlowUpdate)))
    (fun _ _ => Multiset.zero_le _) (Finset.mem_univ index)

/-- Empty tables tell empty logs. -/
theorem tells_nil :
    Tells (fun _ : Index => []) (fun _ : Index => (.empty : FlowTable aggregation)) :=
  fun _ => FlowLog.tells_nil

section Requests

variable [DecidableEq Index] [Fintype Index]

/-- Where one log is replaced, the pool loses the old one and gets the new one. -/
theorem pooled_update (logs : Index → UpdateLog) (index : Index) (log : UpdateLog) :
    pooled (Function.update logs index log) + logs index = pooled logs + log := by
  have hothers : ∑ other ∈ Finset.univ.erase index,
        (Function.update logs index log other : Multiset (FlowKey × List FlowUpdate)) =
      ∑ other ∈ Finset.univ.erase index, (logs other : Multiset (FlowKey × List FlowUpdate)) :=
    Finset.sum_congr rfl fun other hother => by rw [Function.update_of_ne (Finset.ne_of_mem_erase hother)]
  rw [pooled, pooled, ← Finset.add_sum_erase _ _ (Finset.mem_univ index), hothers,
    ← Finset.add_sum_erase _ (fun index => (logs index : Multiset (FlowKey × List FlowUpdate)))
      (Finset.mem_univ index), Function.update_self]
  ac_rfl

/-- A request that leaves the updates that were made adds those that it makes. -/
theorem pooled_log {request : TableRequest Index} (logs : Index → UpdateLog) (h : request.keeps) :
    pooled (log logs request) = pooled logs + request.posted := by
  cases request with
  | update index key updates =>
    have hpooled := pooled_update logs index (logs index ++ [(key, updates)])
    rw [← Multiset.coe_add, ← add_assoc, add_right_comm] at hpooled
    exact add_right_cancel hpooled
  | clear index => contradiction
  | drain index => contradiction
  | merge index source distinct =>
    have hinto := pooled_update logs index (logs index ++ logs source)
    have hsource := pooled_update (Function.update logs index (logs index ++ logs source)) source []
    rw [Function.update_of_ne distinct.symm, Multiset.coe_nil, add_zero] at hsource
    rw [← hsource, ← Multiset.coe_add, ← add_assoc, add_right_comm (pooled logs)] at hinto
    exact (add_right_cancel (add_right_cancel hinto)).trans (add_zero _).symm

/-- Requests that leave the updates that were made add those that they make. -/
theorem pooled_foldl_log {requests : List (TableRequest Index)} (logs : Index → UpdateLog)
    (h : ∀ request ∈ requests, request.keeps) :
    pooled (requests.foldl log logs) =
      pooled logs + (requests.flatMap TableRequest.posted : UpdateLog) := by
  induction requests generalizing logs with
  | nil => exact (add_zero _).symm
  | cons request requests ih =>
    obtain ⟨hrequest, hrequests⟩ := List.forall_mem_cons.mp h
    rw [List.foldl_cons, ih _ hrequests, pooled_log logs hrequest, List.flatMap_cons, ← Multiset.coe_add,
      add_assoc]

end Requests

variable [DecidableEq Index] {logs : Index → UpdateLog} {tables : TableFamily aggregation Index}

/-- A family meets no other fault than an overflow. -/
theorem serve_onlyOverflow (tables : TableFamily aggregation Index) (request : TableRequest Index) :
    OnlyOverflow (tables.serve request) := by
  cases request with
  | update index key updates =>
    refine ((FlowTable.alterEntries_onlyOverflow (fun stats => ?_) (tables index).entries).map _).map _
    rw [FlowUpdate.applyAll_eq_plus]
    exact stats.plus_onlyOverflow _
  | clear index => exact .ok _
  | drain index => exact .ok _
  | merge index source distinct =>
    rw [serve, FlowTable.mergeFrom_eq]
    exact ((FlowTable.post_onlyOverflow _ _).map _).map _

/-- Requests on tables fail only where a counter does not fit. -/
theorem foldlM_serve_onlyOverflow (requests : List (TableRequest Index))
    (tables : TableFamily aggregation Index) : OnlyOverflow (requests.foldlM TableFamily.serve tables) :=
  OnlyOverflow.foldlM serve_onlyOverflow requests tables

/-- What is asked of a family is done where the updates fit that each log has then. -/
theorem Tells.exists_serve {request : TableRequest Index} (h : tables.Tells logs)
    (hfits : ∀ index, (log logs request index).Fits aggregation) :
    ∃ next, tables.serve request = .ok next := by
  cases request with
  | update index key updates =>
    have hlog : (logs index ++ [(key, updates)]).Fits aggregation := by
      simpa only [log, Function.update_self] using hfits index
    have htells := h index
    rw [UpdateLog.changes_eq] at htells
    -- What is held of the flow is what the log adds up to, so with the updates it still fits.
    have hplus : ∃ changed,
        FlowUpdate.applyAll updates (FlowTable.held aggregation (tables index).entries key) =
          .ok changed := by
      rw [FlowUpdate.applyAll_eq_plus]
      refine FlowStats.exists_plus_iff.mpr fun counter => ?_
      have hsum := hlog (key.identity aggregation) counter
      rw [UpdateLog.sum_eq, UpdateLog.postings_append, Postings.total_append, Amounts.count_add,
        ← htells.amounts_held] at hsum
      have hadded : Postings.total aggregation (UpdateLog.postings [(key, updates)])
          (key.identity aggregation) = FlowUpdate.amounts updates := by
        rw [UpdateLog.postings, List.map_singleton, Postings.total_cons_self, Postings.total_nil, add_zero]
      rwa [hadded] at hsum
    obtain ⟨entries, hentries⟩ := FlowTable.exists_alterEntries_iff.mpr hplus
    rw [TableFamily.serve, FlowTable.alter, hentries]
    exact ⟨_, rfl⟩
  | clear index => exact ⟨_, rfl⟩
  | drain index => exact ⟨_, rfl⟩
  | merge index source distinct =>
    have hlog : (logs index ++ logs source).Fits aggregation := by
      simpa only [log, Function.update_of_ne distinct, Function.update_self] using hfits index
    cases hmerged : (tables index).mergeFrom (tables source) with
    | ok merged => exact ⟨_, by rw [TableFamily.serve, hmerged]; rfl⟩
    | error fault =>
      obtain ⟨identity, counter, hover⟩ :=
        (Tells.mergeFrom_error_iff (h index) (h source)).mp ⟨fault, hmerged⟩
      exact absurd (hlog identity counter) (Nat.not_lt.mpr hover)

/-- Requests that leave the updates that were made are done where all updates fit. -/
theorem Tells.exists_foldlM_serve [Fintype Index] {requests : List (TableRequest Index)}
    {whole : UpdateLog} (h : tables.Tells logs) (hkeeps : ∀ request ∈ requests, request.keeps)
    (hwhole : pooled logs + (requests.flatMap TableRequest.posted : UpdateLog) = whole)
    (hfits : whole.Fits aggregation) :
    ∃ next, requests.foldlM TableFamily.serve tables = .ok next := by
  induction requests generalizing tables logs with
  | nil => exact ⟨tables, rfl⟩
  | cons request requests ih =>
    obtain ⟨hrequest, hrequests⟩ := List.forall_mem_cons.mp hkeeps
    rw [List.flatMap_cons, ← Multiset.coe_add, ← add_assoc, ← pooled_log logs hrequest] at hwhole
    have hnow (index : Index) : (log logs request index).Fits aggregation := by
      refine hfits.of_le ((coe_le_pooled _ index).trans ?_)
      rw [← hwhole]
      exact Multiset.le_add_right _ _
    obtain ⟨between, hbetween⟩ := h.exists_serve hnow
    obtain ⟨next, hnext⟩ := ih (h.serve hbetween) hrequests hwhole
    refine ⟨next, ?_⟩
    rw [List.foldlM_cons, hbetween]
    exact hnext

end TableFamily

/-- That the flows of one table are moved into another one. -/
structure TableMove (Index : Type) where
  into : Index
  source : Index
  distinct : into ≠ source

namespace TableMove

/-- What is asked of a family that moves flows. -/
def request (move : TableMove Index) : TableRequest Index :=
  .merge move.into move.source move.distinct

/-- Where the flows of a table are after a move. -/
def place [DecidableEq Index] (index : Index) (move : TableMove Index) : Index :=
  if index = move.source then move.into else index

variable [DecidableEq Index]

/-- After some moves, a log is empty where no flows of a log that was not empty are. -/
theorem foldl_log_eq_nil {moves : List (TableMove Index)} {logs : Index → UpdateLog} {index : Index}
    (h : ∀ worker, logs worker ≠ [] → moves.foldl place worker ≠ index) :
    (moves.map request).foldl TableFamily.log logs index = [] := by
  induction moves generalizing logs with
  | nil =>
    by_contra hindex
    exact h index hindex rfl
  | cons move moves ih =>
    refine ih fun worker hworker => ?_
    have hmove (worker : Index) (hlog : logs worker ≠ []) : moves.foldl place (place worker move) ≠ index :=
      h worker hlog
    rw [request, TableFamily.log] at hworker
    by_cases hsource : worker = move.source
    · rw [hsource, Function.update_self] at hworker
      contradiction
    · rw [Function.update_of_ne hsource] at hworker
      by_cases hinto : worker = move.into
      · -- What is here now was here before the move, or was where the flows were moved from.
        rw [hinto, Function.update_self] at hworker
        rcases not_and_or.mp (mt List.append_eq_nil_iff.mpr hworker) with hlog | hlog
        · have hstays := hmove move.into hlog
          rwa [place, if_neg move.distinct, ← hinto] at hstays
        · have hcomes := hmove move.source hlog
          rwa [place, if_pos rfl, ← hinto] at hcomes
      · rw [Function.update_of_ne hinto] at hworker
        have hstays := hmove worker hworker
        rwa [place, if_neg hsource] at hstays

end TableMove

/-- What is asked of workers that share some updates, each of which goes to the table of one of them, and
that then move their flows. -/
def sharedRequests (shares : List (Index × FlowKey × List FlowUpdate)) (moves : List (TableMove Index)) :
    List (TableRequest Index) :=
  shares.map (fun share => .update share.1 share.2.1 share.2.2) ++ moves.map TableMove.request

section Shared

variable (shares : List (Index × FlowKey × List FlowUpdate)) (moves : List (TableMove Index))

/-- Workers leave the updates that were made. -/
theorem keeps_of_mem_sharedRequests : ∀ request ∈ sharedRequests shares moves, request.keeps := by
  intro request hrequest
  rcases List.mem_append.mp hrequest with hshare | hmove
  · obtain ⟨share, _, rfl⟩ := List.mem_map.mp hshare
    rfl
  · obtain ⟨move, _, rfl⟩ := List.mem_map.mp hmove
    rfl

/-- Workers make the updates that they share. -/
theorem posted_sharedRequests :
    (sharedRequests shares moves).flatMap TableRequest.posted = shares.map (·.2) := by
  have hmoves : (moves.map TableMove.request).flatMap TableRequest.posted = [] :=
    List.flatMap_eq_nil_iff.mpr fun request hrequest => by
      obtain ⟨move, _, rfl⟩ := List.mem_map.mp hrequest
      rfl
  rw [sharedRequests, List.flatMap_append, hmoves, List.append_nil, List.flatMap_map]
  exact List.map_eq_flatMap.symm

variable {shares moves} [DecidableEq Index] [Fintype Index] {root : Index}

/-- Where all flows are moved into one table, its log has all updates that were shared, and every other log
is empty. -/
theorem foldl_log_sharedRequests (shares : List (Index × FlowKey × List FlowUpdate))
    (hmoves : ∀ worker, moves.foldl TableMove.place worker = root) :
    let logs := (sharedRequests shares moves).foldl TableFamily.log fun _ => []
    (logs root).Perm (shares.map (·.2)) ∧ ∀ index, index ≠ root → logs index = [] := by
  intro logs
  have hempty : ∀ index, index ≠ root → logs index = [] := by
    intro index hindex
    rw [show logs = _ from List.foldl_append]
    exact TableMove.foldl_log_eq_nil fun worker _ => hmoves worker ▸ hindex.symm
  have hroot : TableFamily.pooled logs = logs root :=
    Finset.sum_eq_single root (fun index _ hindex => by rw [hempty index hindex]; rfl)
      fun hroot => absurd (Finset.mem_univ root) hroot
  have hpooled := TableFamily.pooled_foldl_log (fun _ : Index => [])
    (keeps_of_mem_sharedRequests shares moves)
  rw [TableFamily.pooled_nil, zero_add, posted_sharedRequests] at hpooled
  exact ⟨Multiset.coe_eq_coe.mp (hroot.symm.trans hpooled), hempty⟩

/-- The table into which all is moved tells the updates that were shared, in some order, and every other
table is empty. -/
theorem tells_of_serve_sharedRequests {log : UpdateLog} {tables : TableFamily aggregation Index}
    (hshares : (shares.map (·.2)).Perm log)
    (hmoves : ∀ worker, moves.foldl TableMove.place worker = root)
    (hserve : (sharedRequests shares moves).foldlM TableFamily.serve (fun _ => .empty) = .ok tables) :
    (∃ moved : UpdateLog, moved.Perm log ∧
      FlowLog.Tells aggregation moved.changes (tables root).entries) ∧
      ∀ index, index ≠ root → tables index = .empty := by
  obtain ⟨hroot, hempty⟩ := foldl_log_sharedRequests shares hmoves
  have htells := TableFamily.tells_nil.foldlM_serve hserve
  refine ⟨⟨_, hroot.trans hshares, htells root⟩, fun index hindex => ?_⟩
  have hnone := htells index
  rw [hempty index hindex] at hnone
  exact congrArg FlowTable.mk hnone.eq_nil

/-- Workers meet no overflow exactly where all updates fit. -/
theorem exists_serve_sharedRequests_iff {log : UpdateLog} (hshares : (shares.map (·.2)).Perm log)
    (hmoves : ∀ worker, moves.foldl TableMove.place worker = root) :
    (∃ tables : TableFamily aggregation Index,
      (sharedRequests shares moves).foldlM TableFamily.serve (fun _ => .empty) = .ok tables) ↔
      log.Fits aggregation := by
  constructor
  · rintro ⟨tables, hserve⟩
    obtain ⟨⟨moved, hmoved, htells⟩, _⟩ := tells_of_serve_sharedRequests hshares hmoves hserve
    exact (UpdateLog.fits_of_tells htells).of_le (Multiset.coe_eq_coe.mpr hmoved.symm).le
  · intro hfits
    have hwhole : TableFamily.pooled (fun _ : Index => ([] : UpdateLog)) +
        ((sharedRequests shares moves).flatMap TableRequest.posted : UpdateLog) = log := by
      rw [TableFamily.pooled_nil, zero_add, posted_sharedRequests]
      exact Multiset.coe_eq_coe.mpr hshares
    exact TableFamily.tells_nil.exists_foldlM_serve (keeps_of_mem_sharedRequests shares moves) hwhole hfits

/-- However updates are shared among workers, and in whichever order and grouping their tables are then moved
into one, an overflow is met exactly where one table meets it on all updates. Else the table into which all
is moved has the flows of that one table, with the same counters, and every other table is empty. -/
theorem serve_sharedRequests (aggregation : Aggregation) {log : UpdateLog}
    (hshares : (shares.map (·.2)).Perm log)
    (hmoves : ∀ worker, moves.foldl TableMove.place worker = root) :
    match (sharedRequests shares moves).foldlM TableFamily.serve
        (fun _ => .empty : TableFamily aggregation Index),
      (FlowTable.empty : FlowTable aggregation).updateAll log with
    | .ok tables, .ok table =>
      (∀ identity, identity ∈ FlowLog.identities aggregation (tables root).entries ↔
        identity ∈ FlowLog.identities aggregation table.entries) ∧
      (∀ key counter, ((tables root).get? key).map (·.counter counter) =
        (table.get? key).map (·.counter counter)) ∧
      ∀ index, index ≠ root → tables index = .empty
    | .error fault, .error other => fault = .overflow ∧ other = .overflow
    | _, _ => False := by
  have hexists : (∃ tables : TableFamily aggregation Index,
        (sharedRequests shares moves).foldlM TableFamily.serve (fun _ => .empty) = .ok tables) ↔
      ∃ table : FlowTable aggregation, FlowTable.empty.updateAll log = .ok table :=
    (exists_serve_sharedRequests_iff hshares hmoves).trans FlowTable.exists_updateAll_iff.symm
  cases hserve : (sharedRequests shares moves).foldlM TableFamily.serve
      (fun _ => .empty : TableFamily aggregation Index) with
  | ok tables =>
    obtain ⟨table, htable⟩ := hexists.mp ⟨tables, hserve⟩
    obtain ⟨⟨moved, hmoved, htells⟩, hempty⟩ := tells_of_serve_sharedRequests hshares hmoves hserve
    have hone := FlowTable.tells_of_updateAll htable
    rw [UpdateLog.changes_eq] at htells hone
    have hperm : moved.postings.Perm log.postings := hmoved.map _
    rw [htable]
    exact ⟨htells.mem_identities_of_perm hone hperm, htells.counter_of_perm hone hperm, hempty⟩
  | error fault =>
    cases hupdate : (FlowTable.empty : FlowTable aggregation).updateAll log with
    | error other =>
      exact ⟨TableFamily.foldlM_serve_onlyOverflow _ _ fault hserve,
        FlowTable.updateAll_onlyOverflow _ _ other hupdate⟩
    | ok table =>
      obtain ⟨tables, htables⟩ := hexists.mpr ⟨table, hupdate⟩
      rw [hserve] at htables
      contradiction

end Shared

/-- Three sockets of one endpoint and one of another, shared among four workers. -/
def fourWorkers : List (Fin 4 × FlowKey × List FlowUpdate) :=
  let key (pid socketHash : UInt32) : FlowKey := { pid, socketHash }
  [(3, key 7 1, [.send 10]), (0, key 7 2, [.send 3]), (3, key 8 3, []), (1, key 7 4, [.receive 5])]

/-- The tables are moved together two by two. -/
def pairwise : List (TableMove (Fin 4)) :=
  [⟨2, 3, by decide⟩, ⟨0, 1, by decide⟩, ⟨0, 2, by decide⟩]

/-- One table that takes the updates in another order has other keys for the flows, but the same counters. -/
theorem serve_sharedRequests_pairwise :
    (fourWorkers.map (·.2)).Perm (fourWorkers.map (·.2)).reverse ∧
      (∀ worker, pairwise.foldl TableMove.place worker = 0) ∧
      ∃ (tables : TableFamily .mergedByEndpoint (Fin 4)) (table : FlowTable .mergedByEndpoint),
        (sharedRequests fourWorkers pairwise).foldlM TableFamily.serve (fun _ => .empty) = .ok tables ∧
          FlowTable.empty.updateAll (fourWorkers.map (·.2)).reverse = .ok table ∧
          (tables 0).entries.map (·.1.socketHash) = [2, 3] ∧
          table.entries.map (·.1.socketHash) = [4, 3] ∧
          ((tables 0).get? { pid := 7 }).map (·.counter .sendBytes) =
            (table.get? { pid := 7 }).map (·.counter .sendBytes) ∧
          tables 3 = .empty := by
  have hperm := (fourWorkers.map (·.2)).reverse_perm.symm
  have hroot : ∀ worker, pairwise.foldl TableMove.place worker = 0 := by decide
  have hserve : (sharedRequests fourWorkers pairwise).foldlM TableFamily.serve
      (fun _ => .empty : TableFamily .mergedByEndpoint (Fin 4)) = .ok _ := rfl
  have hupdate : (FlowTable.empty : FlowTable .mergedByEndpoint).updateAll
      (fourWorkers.map (·.2)).reverse = .ok _ := rfl
  have hshared := serve_sharedRequests .mergedByEndpoint hperm hroot
  rw [hserve, hupdate] at hshared
  obtain ⟨-, hcounter, hempty⟩ := hshared
  exact ⟨hperm, hroot, _, _, hserve, hupdate, rfl, rfl, hcounter _ _, hempty 3 (by decide)⟩

end FlowMeter
