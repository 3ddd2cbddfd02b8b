import FlowMeter.Proofs.Balance

/-!
# Processes in a table

Keys of one flow are keys of one process, whatever the way of aggregation. So a table is as many tables as
it has processes: what is posted under the keys of a process is posted to its flows, and to no others. The
flows of a process hold together what was posted under its keys, and a meter accounts the same traffic of
every process however it gathers packets into flows.
-/

namespace FlowMeter

/-- The process of an identity. -/
def FlowIdentity.pid : FlowIdentity → UInt32
  | .socket pid _ => pid
  | .endpoint pid _ _ _ => pid

/-- The identity of a key tells its process, in either way of aggregation. -/
theorem FlowKey.pid_identity (aggregation : Aggregation) (key : FlowKey) :
    (key.identity aggregation).pid = key.pid := by
  cases aggregation <;> rfl

/-- The entries of a process, in order. -/
def ofProcess {A : Type} (pid : UInt32) (entries : List (FlowKey × A)) : List (FlowKey × A) :=
  entries.filter (·.1.pid = pid)

/-- An entry of a process is among those of the process. -/
theorem ofProcess_cons_of_eq {A : Type} {pid : UInt32} {entry : FlowKey × A} (h : entry.1.pid = pid)
    (rest : List (FlowKey × A)) : ofProcess pid (entry :: rest) = entry :: ofProcess pid rest :=
  List.filter_cons_of_pos (decide_eq_true h)

/-- An entry of another process is not among those of a process. -/
theorem ofProcess_cons_of_ne {A : Type} {pid : UInt32} {entry : FlowKey × A} (h : entry.1.pid ≠ pid)
    (rest : List (FlowKey × A)) : ofProcess pid (entry :: rest) = ofProcess pid rest :=
  List.filter_cons_of_neg (by simpa using h)

namespace FlowTable

variable {aggregation : Aggregation} {key : FlowKey} {change : FlowChange} {postings : Postings}
  {entries result : List (FlowKey × FlowStats)}

/-- A change of a flow is made among the entries of its process. -/
theorem alterEntries_ofProcess (key : FlowKey) (change : FlowChange)
    (entries : List (FlowKey × FlowStats)) :
    alterEntries aggregation key change (ofProcess key.pid entries) =
      (alterEntries aggregation key change entries).map (ofProcess key.pid) := by
  induction entries with
  | nil =>
    have hnil : ofProcess key.pid ([] : List (FlowKey × FlowStats)) = [] := rfl
    rw [hnil, alterEntries]
    cases change .zero with
    | error fault => rfl
    | ok changed => exact congrArg Except.ok (ofProcess_cons_of_eq rfl []).symm
  | cons entry rest ih =>
    obtain ⟨first, stats⟩ := entry
    by_cases hsame : first.same aggregation key = true
    · have hpid : first.pid = key.pid := by
        rw [← first.pid_identity aggregation, FlowKey.same_iff.mp hsame, key.pid_identity]
      rw [ofProcess_cons_of_eq hpid, alterEntries, if_pos hsame, alterEntries, if_pos hsame]
      cases change stats with
      | error fault => rfl
      | ok changed => exact congrArg Except.ok (ofProcess_cons_of_eq hpid rest).symm
    · rw [alterEntries, if_neg hsame]
      -- An entry of another flow stays, in front of the change, if it is of the process.
      by_cases hpid : first.pid = key.pid
      · rw [ofProcess_cons_of_eq hpid, alterEntries, if_neg hsame, ih]
        cases alterEntries aggregation key change rest with
        | error fault => rfl
        | ok later => exact congrArg Except.ok (ofProcess_cons_of_eq hpid later).symm
      · rw [ofProcess_cons_of_ne hpid, ih]
        cases alterEntries aggregation key change rest with
        | error fault => rfl
        | ok later => exact congrArg Except.ok (ofProcess_cons_of_ne hpid later).symm

/-- A change of a flow leaves the entries of every other process. -/
theorem ofProcess_alterEntries_of_ne {pid : UInt32} (hpid : key.pid ≠ pid)
    (h : alterEntries aggregation key change entries = .ok result) :
    ofProcess pid result = ofProcess pid entries := by
  rcases alterEntries_cases h with
    ⟨front, first, stats, changed, rest, rfl, hidentity, _, rfl⟩ | ⟨_, changed, _, rfl⟩
  · have hfirst : first.pid ≠ pid := by
      rwa [← first.pid_identity aggregation, hidentity, key.pid_identity]
    simp [ofProcess, hfirst]
  · simp [ofProcess, hpid]

/-- What is posted under the keys of a process is posted to its entries. -/
theorem post_ofProcess (h : post aggregation postings entries = .ok result) (pid : UInt32) :
    post aggregation (ofProcess pid postings) (ofProcess pid entries) = .ok (ofProcess pid result) := by
  induction postings generalizing entries with
  | nil =>
    obtain rfl := Except.ok.inj h
    rfl
  | cons posting rest ih =>
    obtain ⟨between, hbetween, hrest⟩ := exists_of_bind_eq_ok h
    have hbetween : alterEntries aggregation posting.1 (·.plus posting.2) entries = .ok between := hbetween
    have hlater := ih hrest
    by_cases hpid : posting.1.pid = pid
    · have hstep : alterEntries aggregation posting.1 (·.plus posting.2)
          (ofProcess posting.1.pid entries) = _ := alterEntries_ofProcess ..
      rw [hbetween, hpid] at hstep
      rw [ofProcess_cons_of_eq hpid, post, List.foldlM_cons, hstep]
      exact hlater
    · rw [ofProcess_cons_of_ne hpid, ← ofProcess_alterEntries_of_ne hpid hbetween]
      exact hlater

/-- The flows of a process hold together what is posted under its keys. -/
theorem sum_ofProcess_post (h : post aggregation postings [] = .ok result) (pid : UInt32)
    (counter : FlowCounter) :
    sum (ofProcess pid result) counter = Postings.sum (ofProcess pid postings) counter := by
  have hsum := sum_post (post_ofProcess h pid) counter
  exact hsum.trans (Nat.zero_add _)

/-- A table has flows of the processes that are posted to. -/
theorem mem_pids_post (h : post aggregation postings [] = .ok result) (pid : UInt32) :
    pid ∈ result.map (·.1.pid) ↔ pid ∈ postings.map (·.1.pid) := by
  have hpids {A : Type} (entries : List (FlowKey × A)) :
      entries.map (·.1.pid) = (FlowLog.identities aggregation entries).map FlowIdentity.pid := by
    rw [FlowLog.identities, List.map_map]
    exact List.map_congr_left fun entry _ => (entry.1.pid_identity aggregation).symm
  have hidentity (identity : FlowIdentity) : identity ∈ FlowLog.identities aggregation result ↔
      identity ∈ FlowLog.identities aggregation postings :=
    (mem_identities_post h identity).trans (or_iff_right List.not_mem_nil)
  simp only [hpids, List.mem_map, hidentity]

end FlowTable

/-- The counters of a meter after a request that is no flush. -/
def MeterCounters.after (counters : MeterCounters) : Request → MeterCounters
  | .poll => {}
  | request => { counters with
    decoded := counters.decoded + (request.counted .decoded).toUInt64
    dropped := counters.dropped + (request.counted .dropped).toUInt64
    ignored := counters.ignored + (request.counted .ignored).toUInt64 }

namespace Meter

variable {meter next : Meter}

/-- A request that is no flush moves the counters by what it hands over, or a poll sets them back. -/
theorem counters_answer {request : Request} {given : Answer} (hflush : request.isFlush = false)
    (h : meter.answer request = .ok (given, next)) : next.counters = meter.counters.after request := by
  cases request with
  | poll =>
    obtain ⟨rfl, rfl⟩ := Prod.mk.inj (Except.ok.inj h)
    rfl
  | flush resolver => contradiction
  | _ =>
    rcases answer_cases h with ⟨⟨entries, _, rfl⟩, _, _⟩ | ⟨hpoll, _, _⟩ | ⟨resolver, hresolver, _, _⟩
    · rfl
    · contradiction
    · contradiction

/-- What a session without a flush counts does not depend on the flows of the meter. -/
theorem counters_serve {requests : List Request} {answers : List Answer}
    (hflush : ∀ request ∈ requests, request.isFlush = false)
    (h : meter.serve requests = .ok (answers, next)) :
    next.counters = requests.foldl MeterCounters.after meter.counters := by
  induction requests generalizing meter answers with
  | nil =>
    obtain ⟨rfl, rfl⟩ := Prod.mk.inj (Except.ok.inj h)
    rfl
  | cons request rest ih =>
    obtain ⟨hfirst, hrest⟩ := List.forall_mem_cons.mp hflush
    obtain ⟨first, between, later, hbetween, hlast, rfl⟩ := exists_of_serve_cons h
    rw [List.foldl_cons, ← counters_answer hfirst hbetween]
    exact ih hrest hlast

end Meter

/-- Two meters that are given the same session without a flush account the same traffic, however each of
them gathers packets into flows: they count the same, have flows of the same processes, and the flows of a
process hold the same of every counter together. -/
theorem serve_accounts_processes {settings others : Settings} {requests : List Request}
    {answers replies : List Answer} {meter other : Meter}
    (hflush : ∀ request ∈ requests, request.isFlush = false)
    (h : (Meter.ofSettings settings).serve requests = .ok (answers, meter))
    (hother : (Meter.ofSettings others).serve requests = .ok (replies, other)) :
    meter.counters = other.counters ∧
      (∀ pid, pid ∈ meter.table.entries.map (·.1.pid) ↔ pid ∈ other.table.entries.map (·.1.pid)) ∧
      ∀ pid counter, FlowTable.sum (ofProcess pid meter.table.entries) counter =
        FlowTable.sum (ofProcess pid other.table.entries) counter := by
  have hpost := Meter.post_of_serve hflush h
  have hothers := Meter.post_of_serve hflush hother
  refine ⟨?_, fun pid => ?_, fun pid counter => ?_⟩
  · rw [Meter.counters_serve hflush h, Meter.counters_serve hflush hother]
    rfl
  · exact (FlowTable.mem_pids_post hpost pid).trans (FlowTable.mem_pids_post hothers pid).symm
  · rw [FlowTable.sum_ofProcess_post hpost, FlowTable.sum_ofProcess_post hothers]

/-- A buffer that is dropped, and packets of two sockets of one process: both ask one remote side, and the
first one is asked by it as well. -/
def twoRoles : List Request :=
  let header (socketHash : UInt32) : Header := { pid := 7, socketHash, destinationPort := 80 }
  [.buffer [1, 2, 3], .event (.ofPacket (header 1) ⟨.outbound, .http, .none, 40, []⟩),
    .event (.ofPacket (header 1) ⟨.inbound, .none, .request, 20, []⟩),
    .event (.ofPacket (header 2) ⟨.outbound, .none, .none, 10, []⟩)]

/-- Two flows per socket and two merged flows that part the packets of a process in different ways hold the
same together. -/
theorem serve_accounts_processes_twoRoles :
    (∀ request ∈ twoRoles, request.isFlush = false) ∧
      ∃ answers meter replies other,
        (Meter.ofSettings { aggregation := .perSocket }).serve twoRoles = .ok (answers, meter) ∧
        (Meter.ofSettings { aggregation := .mergedByEndpoint }).serve twoRoles = .ok (replies, other) ∧
        meter.table.entries.map (·.2.sendBytes) = [40, 10] ∧
        other.table.entries.map (·.2.sendBytes) = [50, 0] ∧
        meter.counters = other.counters ∧
        FlowTable.sum (ofProcess 7 meter.table.entries) .sendBytes =
          FlowTable.sum (ofProcess 7 other.table.entries) .sendBytes := by
  have hflush : ∀ request ∈ twoRoles, request.isFlush = false := by
    simp [twoRoles, Request.isFlush]
  have hserve : (Meter.ofSettings { aggregation := .perSocket }).serve twoRoles = .ok (_, _) := rfl
  have hother : (Meter.ofSettings { aggregation := .mergedByEndpoint }).serve twoRoles = .ok (_, _) := rfl
  obtain ⟨hcounters, _, hsum⟩ := serve_accounts_processes hflush hserve hother
  exact ⟨hflush, _, _, _, _, hserve, hother, rfl, rfl, hcounters, hsum 7 .sendBytes⟩

end FlowMeter
