import Mathlib.Data.Set.Card
import FlowMeter.Service.Directory

/-!
# The service directory is a flat map

The directory keeps the notes of each process apart, but to its owner it is one map from pairs of a process and
an address. What a pair resolves to is the last note on it, unless the process was forgotten or the directory
cleared since. No process and no address of a process is kept twice, so the number of notes is the number of
pairs that resolve.
-/

namespace FlowMeter

variable {K V : Type} [BEq K] [LawfulBEq K]

/-- A value that is put has its key among the keys, and leaves the other keys. -/
theorem mem_keys_putEntry {key other : K} {value : V} {entries : List (K × V)} :
    other ∈ (putEntry key value entries).map (·.1) ↔ other = key ∨ other ∈ entries.map (·.1) := by
  induction entries with
  | nil => simp [putEntry]
  | cons entry rest ih =>
    rw [putEntry]
    split
    · rename_i hkey
      rw [List.map_cons, List.map_cons, List.mem_cons, List.mem_cons, eq_of_beq hkey, or_self_left]
    · rw [List.map_cons, List.map_cons, List.mem_cons, List.mem_cons, ih, or_left_comm]

/-- Keys stay distinct where a value is put. -/
theorem nodup_keys_putEntry {key : K} {value : V} {entries : List (K × V)}
    (h : (entries.map (·.1)).Nodup) : ((putEntry key value entries).map (·.1)).Nodup := by
  induction entries with
  | nil => exact List.nodup_singleton key
  | cons entry rest ih =>
    obtain ⟨hfirst, hrest⟩ := List.nodup_cons.mp h
    rw [putEntry]
    split
    · rename_i hkey
      rw [List.map_cons, List.nodup_cons, ← eq_of_beq hkey]
      exact ⟨hfirst, hrest⟩
    · rename_i hkey
      rw [List.map_cons, List.nodup_cons, mem_keys_putEntry, not_or]
      exact ⟨⟨fun heq => hkey (beq_iff_eq.mpr heq), hfirst⟩, ih hrest⟩

omit [LawfulBEq K] in
/-- What is kept after a value was put is the value, or what was kept before. -/
theorem mem_putEntry {key : K} {value : V} {entries : List (K × V)} {entry : K × V}
    (h : entry ∈ putEntry key value entries) : entry = (key, value) ∨ entry ∈ entries := by
  induction entries with
  | nil => exact .inl (List.mem_singleton.mp h)
  | cons first rest ih =>
    rw [putEntry] at h
    split at h
    · exact (List.mem_cons.mp h).imp_right (List.mem_cons_of_mem first)
    · rcases List.mem_cons.mp h with rfl | hrest
      · exact .inr List.mem_cons_self
      · exact (ih hrest).imp_right (List.mem_cons_of_mem first)

/-- A value is found under a key exactly where the key is kept. -/
theorem lookup_ne_none_iff {key : K} {entries : List (K × V)} :
    entries.lookup key ≠ none ↔ key ∈ entries.map (·.1) := by
  induction entries with
  | nil => simp
  | cons entry rest ih =>
    obtain ⟨first, held⟩ := entry
    rw [List.lookup_cons, List.map_cons, List.mem_cons]
    cases hkey : key == first with
    | true => simp [eq_of_beq hkey]
    | false =>
      have hne : key ≠ first := fun heq => by simp [heq] at hkey
      simp [hne, ih]

/-- Where keys are distinct, a value is found under a key exactly where it is kept with it. -/
theorem lookup_eq_some_iff_mem {key : K} {value : V} {entries : List (K × V)}
    (h : (entries.map (·.1)).Nodup) : entries.lookup key = some value ↔ (key, value) ∈ entries := by
  induction entries with
  | nil => simp
  | cons entry rest ih =>
    obtain ⟨first, held⟩ := entry
    obtain ⟨hfirst, hrest⟩ := List.nodup_cons.mp h
    rw [List.lookup_cons, List.mem_cons, Prod.mk.injEq]
    cases hkey : key == first with
    | true =>
      obtain rfl := eq_of_beq hkey
      have hnone : (key, value) ∉ rest := fun hmem => hfirst (List.mem_map.mpr ⟨_, hmem, rfl⟩)
      simp [hnone, eq_comm]
    | false =>
      have hne : key ≠ first := fun heq => by simp [heq] at hkey
      simp [hne, ih hrest]

/-- What is asked of a service directory. -/
inductive DirectoryRequest where
  | insert (pid : UInt32) (address : String) (service : Service)
  | erase (pid : UInt32)
  | clear

namespace DirectoryRequest

/-- Whether a request replaces or forgets the note on an address for a process. -/
def Overrules (pid : UInt32) (address : String) : DirectoryRequest → Prop
  | .insert other text _ => other = pid ∧ text = address
  | .erase other => other = pid
  | .clear => True

/-- A note stands after some requests: one of them makes it, and no later one overrules it. -/
def Stands (requests : List DirectoryRequest) (pid : UInt32) (address : String) (service : Service) : Prop :=
  ∃ before after, requests = before ++ .insert pid address service :: after ∧
    ∀ request ∈ after, ¬request.Overrules pid address

variable {requests : List DirectoryRequest} {pid : UInt32} {address : String} {service : Service}

/-- No note stands before the first request. -/
theorem not_stands_nil : ¬Stands [] pid address service := by
  rintro ⟨before, after, hrequests, _⟩
  exact List.append_ne_nil_of_right_ne_nil _ (List.cons_ne_nil _ _) hrequests.symm

/-- A note stands after one more request that makes it, or that does not overrule it. -/
theorem stands_concat_iff {request : DirectoryRequest} :
    Stands (requests ++ [request]) pid address service ↔
      request = .insert pid address service ∨
        ¬request.Overrules pid address ∧ Stands requests pid address service := by
  constructor
  · rintro ⟨before, after, hrequests, hafter⟩
    rcases List.eq_nil_or_concat' after with rfl | ⟨later, last, rfl⟩
    · exact .inl (List.singleton_inj.mp (List.append_inj' hrequests rfl).2)
    · rw [← List.cons_append, ← List.append_assoc] at hrequests
      obtain ⟨rfl, hlast⟩ := List.append_inj' hrequests rfl
      rw [List.forall_mem_append, List.forall_mem_singleton] at hafter
      rw [List.singleton_inj.mp hlast]
      exact .inr ⟨hafter.2, before, later, rfl, hafter.1⟩
  · rintro (rfl | ⟨hrequest, before, after, rfl, hafter⟩)
    · exact ⟨requests, [], rfl, List.forall_mem_nil _⟩
    · refine ⟨before, after ++ [request], by simp, ?_⟩
      rw [List.forall_mem_append, List.forall_mem_singleton]
      exact ⟨hafter, hrequest⟩

end DirectoryRequest

namespace ServiceDirectory

/-- Does what is asked. -/
def serve (directory : ServiceDirectory) : DirectoryRequest → ServiceDirectory
  | .insert pid address service => directory.insert pid address service
  | .erase pid => directory.erase pid
  | .clear => empty

/-- The directory after some requests to a new one. -/
def ofRequests (requests : List DirectoryRequest) : ServiceDirectory :=
  requests.foldl serve empty

/-- The last request is served by the directory of those before it. -/
theorem ofRequests_concat (requests : List DirectoryRequest) (request : DirectoryRequest) :
    ofRequests (requests ++ [request]) = (ofRequests requests).serve request := by
  rw [ofRequests, List.foldl_append, List.foldl_cons, List.foldl_nil, ofRequests]

/-- What a pair resolves to after a request: the note that the request makes, or what it resolved to before
where the request does not overrule that. -/
theorem resolve_serve_eq_some_iff {directory : ServiceDirectory} {request : DirectoryRequest}
    {pid : UInt32} {address : String} {service : Service} :
    (directory.serve request).resolve pid address = some service ↔
      request = .insert pid address service ∨
        ¬request.Overrules pid address ∧ directory.resolve pid address = some service := by
  cases request with
  | insert other text note =>
    rw [serve, resolve_insert, DirectoryRequest.Overrules, DirectoryRequest.insert.injEq]
    by_cases h : pid = other ∧ address = text
    · obtain ⟨rfl, rfl⟩ := h
      simp
    · have h' : ¬(other = pid ∧ text = address) := fun heq => h ⟨heq.1.symm, heq.2.symm⟩
      rw [if_neg h, ← and_assoc]
      simp [h']
  | erase other =>
    rw [serve, resolve_erase, DirectoryRequest.Overrules]
    by_cases h : pid = other
    · simp [h]
    · simp [h, Ne.symm h]
  | clear => simp [serve, resolve, notes, empty, DirectoryRequest.Overrules]

/-- A pair resolves to the note that stands. -/
theorem resolve_ofRequests_eq_some_iff {requests : List DirectoryRequest} {pid : UInt32} {address : String}
    {service : Service} :
    (ofRequests requests).resolve pid address = some service ↔
      DirectoryRequest.Stands requests pid address service := by
  induction requests using List.reverseRecOn with
  | nil => exact iff_of_false nofun DirectoryRequest.not_stands_nil
  | append_singleton requests request ih =>
    rw [ofRequests_concat, resolve_serve_eq_some_iff, DirectoryRequest.stands_concat_iff, ih]

/-- No process is kept twice, and no address of a process. -/
structure Distinct (directory : ServiceDirectory) : Prop where
  processes : (directory.processes.map (·.1)).Nodup
  notes : ∀ process ∈ directory.processes, (process.2.map (·.1)).Nodup

/-- The empty directory notes no process twice. -/
theorem distinct_empty : empty.Distinct :=
  ⟨List.nodup_nil, List.forall_mem_nil _⟩

/-- The notes of a process have distinct addresses. -/
theorem Distinct.nodup_notes {directory : ServiceDirectory} (h : directory.Distinct) (pid : UInt32) :
    ((directory.notes pid).map (·.1)).Nodup := by
  rw [ServiceDirectory.notes]
  cases hlookup : directory.processes.lookup pid with
  | none => exact List.nodup_nil
  | some notes => exact h.notes (pid, notes) ((lookup_eq_some_iff_mem h.processes).mp hlookup)

/-- Processes and addresses stay distinct. -/
theorem Distinct.serve {directory : ServiceDirectory} (h : directory.Distinct) (request : DirectoryRequest) :
    (directory.serve request).Distinct := by
  cases request with
  | insert pid address service =>
    refine ⟨nodup_keys_putEntry h.processes, fun process hprocess => ?_⟩
    rcases mem_putEntry hprocess with rfl | hprocess
    · exact nodup_keys_putEntry (h.nodup_notes pid)
    · exact h.notes process hprocess
  | erase pid =>
    have hsublist := List.filter_sublist (p := fun process => process.1 != pid) (l := directory.processes)
    exact ⟨h.processes.sublist (hsublist.map _), fun process hprocess => h.notes process (hsublist.mem hprocess)⟩
  | clear => exact distinct_empty

/-- However it is fed, a directory notes every process and every address once. -/
theorem distinct_ofRequests (requests : List DirectoryRequest) : (ofRequests requests).Distinct := by
  induction requests using List.reverseRecOn with
  | nil => exact distinct_empty
  | append_singleton requests request ih =>
    rw [ofRequests_concat]
    exact ih.serve request

/-- The pairs of a process and an address of which a note is kept. -/
def pairs (directory : ServiceDirectory) : List (UInt32 × String) :=
  directory.processes.flatMap fun process => process.2.map fun note => (process.1, note.1)

/-- There are as many pairs as notes. -/
theorem length_pairs (directory : ServiceDirectory) : directory.pairs.length = directory.size := by
  simp only [pairs, size, List.length_flatMap, List.length_map]

/-- A note is kept of the pairs that resolve. -/
theorem Distinct.mem_pairs_iff {directory : ServiceDirectory} (h : directory.Distinct) {pid : UInt32}
    {address : String} : (pid, address) ∈ directory.pairs ↔ directory.resolve pid address ≠ none := by
  rw [resolve, lookup_ne_none_iff, ServiceDirectory.notes, pairs, List.mem_flatMap]
  constructor
  · rintro ⟨⟨other, notes⟩, hprocess, hnote⟩
    obtain ⟨note, hmem, heq⟩ := List.mem_map.mp hnote
    obtain ⟨rfl, rfl⟩ := Prod.mk.inj heq
    rw [(lookup_eq_some_iff_mem h.processes).mpr hprocess]
    exact List.mem_map_of_mem hmem
  · intro haddress
    cases hlookup : directory.processes.lookup pid with
    | none =>
      rw [hlookup] at haddress
      contradiction
    | some notes =>
      rw [hlookup] at haddress
      obtain ⟨note, hnote, rfl⟩ := List.mem_map.mp haddress
      have hprocess := (lookup_eq_some_iff_mem h.processes).mp hlookup
      exact ⟨(pid, notes), hprocess, List.mem_map.mpr ⟨note, hnote, rfl⟩⟩

/-- No pair is kept twice. -/
theorem Distinct.nodup_pairs {directory : ServiceDirectory} (h : directory.Distinct) :
    directory.pairs.Nodup := by
  rw [pairs, List.nodup_flatMap]
  constructor
  · intro process hprocess
    have hnotes := h.notes process hprocess
    rw [List.Nodup, List.pairwise_map] at hnotes ⊢
    exact hnotes.imp fun hne heq => hne (Prod.mk.inj heq).2
  · refine (List.pairwise_map.mp h.processes).imp fun hne => ?_
    intro pair hfirst hsecond
    obtain ⟨note, _, rfl⟩ := List.mem_map.mp hfirst
    obtain ⟨other, _, heq⟩ := List.mem_map.mp hsecond
    exact hne (Prod.mk.inj heq).1.symm

/-- A directory is one map from pairs of a process and an address, whatever was asked of it. A pair resolves to
the last note on it that was neither forgotten with its process nor cleared; there are as many notes as pairs
that resolve, and none exactly where no pair does. -/
theorem ofRequests_is_flat_map (requests : List DirectoryRequest) :
    (∀ pid address service, (ofRequests requests).resolve pid address = some service ↔
      DirectoryRequest.Stands requests pid address service) ∧
      {pair : UInt32 × String | (ofRequests requests).resolve pair.1 pair.2 ≠ none}.encard =
        (ofRequests requests).size ∧
      ((ofRequests requests).isEmpty ↔
        ∀ pid address, (ofRequests requests).resolve pid address = none) := by
  have hdistinct := distinct_ofRequests requests
  have hpairs : {pair : UInt32 × String | (ofRequests requests).resolve pair.1 pair.2 ≠ none} =
      (ofRequests requests).pairs.toFinset := by
    ext ⟨pid, address⟩
    rw [Finset.mem_coe, List.mem_toFinset, hdistinct.mem_pairs_iff]
    rfl
  have hcard : {pair : UInt32 × String | (ofRequests requests).resolve pair.1 pair.2 ≠ none}.encard =
      (ofRequests requests).size := by
    rw [hpairs, Set.encard_coe_eq_coe_finsetCard, List.toFinset_card_of_nodup hdistinct.nodup_pairs,
      length_pairs]
  refine ⟨fun _ _ _ => resolve_ofRequests_eq_some_iff, hcard, ?_⟩
  have hempty : (ofRequests requests).isEmpty ↔ (ofRequests requests).size = 0 := decide_eq_true_iff
  rw [hempty, ← Nat.cast_eq_zero (R := ℕ∞), ← hcard, Set.encard_eq_zero, Set.eq_empty_iff_forall_notMem]
  simp

end ServiceDirectory

end FlowMeter
