import FlowMeter.Json.Value

/-!
# Services and their directory

The logical service behind a remote address, and the directory in which observers of name resolution
note it: services by process and by the text of the remote address. A later note on the same address
replaces an earlier one, and a process that ends takes all its notes with it. A look-up that finds nothing
is no error.
-/

namespace FlowMeter

/-- The kind of a service. -/
inductive ServiceCategory where
  | unknown
  | server
  | database
  | messageQueue
  | cache
  | dns
deriving DecidableEq, Repr, Inhabited

namespace ServiceCategory

/-- The name of a kind of service. -/
def name : ServiceCategory → String
  | .unknown => "Unknown"
  | .server => "Server"
  | .database => "Database"
  | .messageQueue => "MessageQueue"
  | .cache => "Cache"
  | .dns => "Dns"

/-- The label of a kind of service. -/
def label : ServiceCategory → String
  | .unknown => "unknown"
  | .server => "server"
  | .database => "database"
  | .messageQueue => "mq"
  | .cache => "cache"
  | .dns => "dns"

/-- All kinds of services. -/
def all : List ServiceCategory := [.unknown, .server, .database, .messageQueue, .cache, .dns]

/-- The kind of service of a label. -/
def ofLabel? (label : String) : Option ServiceCategory :=
  all.find? (·.label == label)

end ServiceCategory

/-- What is known of a service; the host is empty where it is not known. -/
structure Service where
  category : ServiceCategory
  host : String
deriving DecidableEq, Repr

/-- A service as a JSON value. -/
def Service.json (service : Service) : Json.Value :=
  .object [("category", .string service.category.label), ("host", .string service.host)]

/-- Finds the service behind the text of a remote address, for a process. -/
abbrev Resolver := UInt32 → String → Option Service

/-- The resolver that knows nothing. -/
def Resolver.nothing : Resolver := fun _ _ => none

/-- Puts a value under a key, in the place of the value that is there. -/
def putEntry {K V : Type} [BEq K] (key : K) (value : V) : List (K × V) → List (K × V)
  | [] => [(key, value)]
  | entry :: rest =>
    if entry.1 == key then (key, value) :: rest else entry :: putEntry key value rest

/-- The value that was put is found, and every other key keeps its own. -/
theorem lookup_putEntry {K V : Type} [BEq K] [LawfulBEq K] (key other : K) (value : V)
    (entries : List (K × V)) :
    (putEntry key value entries).lookup other =
      if other == key then some value else entries.lookup other := by
  induction entries with
  | nil => cases h : other == key <;> simp [putEntry, List.lookup_cons, h]
  | cons entry rest ih =>
    obtain ⟨first, old⟩ := entry
    by_cases h : first = key
    · subst h
      cases h' : other == first <;> simp [putEntry, List.lookup_cons, h']
    · have hne : (first == key) = false := by simpa using h
      simp only [putEntry, hne, Bool.false_eq_true, if_false, List.lookup_cons]
      cases h' : other == first with
      | true =>
        have hfirst : other = first := by simpa using h'
        simp [hfirst, hne]
      | false => exact ih

/-- The notes of each process. -/
structure ServiceDirectory where
  processes : List (UInt32 × List (String × Service))
deriving DecidableEq, Repr

namespace ServiceDirectory

/-- The directory without notes. -/
def empty : ServiceDirectory := ⟨[]⟩

/-- The notes of a process. -/
def notes (directory : ServiceDirectory) (pid : UInt32) : List (String × Service) :=
  (directory.processes.lookup pid).getD []

/-- Notes the service behind an address for a process. -/
def insert (directory : ServiceDirectory) (pid : UInt32) (address : String) (service : Service) :
    ServiceDirectory :=
  ⟨putEntry pid (putEntry address service (directory.notes pid)) directory.processes⟩

/-- Forgets the notes of a process. -/
def erase (directory : ServiceDirectory) (pid : UInt32) : ServiceDirectory :=
  ⟨directory.processes.filter (·.1 != pid)⟩

/-- The number of notes. -/
def size (directory : ServiceDirectory) : Nat :=
  (directory.processes.flatMap fun process => process.2).length

/-- Whether there are no notes. -/
def isEmpty (directory : ServiceDirectory) : Bool :=
  directory.size = 0

/-- Finds the service behind an address for a process. -/
def resolve (directory : ServiceDirectory) : Resolver :=
  fun pid address => (directory.notes pid).lookup address

/-- A new note is found, and every other address of every process keeps its own. -/
theorem resolve_insert (directory : ServiceDirectory) (pid other : UInt32) (address text : String)
    (service : Service) :
    (directory.insert pid address service).resolve other text =
      if other = pid ∧ text = address then some service else directory.resolve other text := by
  simp only [resolve, notes, insert, lookup_putEntry]
  by_cases hp : other = pid
  · by_cases ht : text = address <;> simp [hp, ht, lookup_putEntry]
  · simp [hp]

/-- A process that is forgotten has no notes, and every other process keeps its own. -/
theorem resolve_erase (directory : ServiceDirectory) (pid other : UInt32) (text : String) :
    (directory.erase pid).resolve other text =
      if other = pid then none else directory.resolve other text := by
  have hlookup (processes : List (UInt32 × List (String × Service))) :
      (processes.filter (·.1 != pid)).lookup other =
        if other = pid then none else processes.lookup other := by
    induction processes with
    | nil => simp
    | cons process rest ih =>
      obtain ⟨first, notes⟩ := process
      by_cases h : first = pid
      · rw [List.filter_cons_of_neg (by simp [h]), ih, List.lookup_cons, h]
        by_cases h' : other = pid
        · simp [h']
        · simp [h', beq_false_of_ne h']
      · rw [List.filter_cons_of_pos (by simp [h]), List.lookup_cons, List.lookup_cons, ih]
        by_cases h' : other = first
        · simp [h', h]
        · simp [beq_false_of_ne h']
  simp only [resolve, notes, erase, hlookup]
  by_cases hp : other = pid <;> simp [hp]

end ServiceDirectory

end FlowMeter
