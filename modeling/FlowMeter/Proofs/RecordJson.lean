import FlowMeter.Proofs.JsonReader
import FlowMeter.Record

/-!
# Records survive JSON

A record is read back from its JSON text with the same fields in the same order, whatever its keys and
values are. The remote side of a flow is JSON within such a value: it is read back as an object that has
each of its members once, and the text of a host shows in no member but its own.
-/

namespace FlowMeter.Record

open Json (Datum Value)

/-- What the JSON text of a record stands for. -/
theorem datum_json (record : Record) :
    record.json.datum = .object [("contents", .array (record.fields.map fun (key, value) =>
      .object [("key", .string key), ("value", .string value)]))] := by
  simp only [json, Value.datum, Value.memberData, Value.itemData_eq, List.map_map]
  rfl

/-- Only a client tells the service: its kind, which is a server where none is found, and its host where
one is known. -/
theorem mem_memberData_serviceMembers (key : FlowKey) (resolver : Resolver) (name : String)
    (datum : Datum) :
    (name, datum) ∈ Value.memberData (serviceMembers key resolver) ↔
      (name = "remote_type" ∧ key.role = .client ∧
        datum = .string ((resolver key.pid key.destination.text).elim "server" (·.category.label))) ∨
      (name = "remote_host" ∧ key.role = .client ∧ ∃ service,
        resolver key.pid key.destination.text = some service ∧ service.host ≠ "" ∧
          datum = .string service.host) := by
  rw [serviceMembers]
  by_cases hclient : key.role = .client
  · cases hhit : resolver key.pid key.destination.text with
    | none => simp [hclient, Value.memberData, Value.datum, ServiceCategory.label]
    | some service =>
      by_cases hhost : service.host = ""
      · simp [hclient, hhost, Value.memberData, Value.datum]
      · simp [hclient, hhost, Value.memberData, Value.datum]
  · simp [hclient, Value.memberData]

/-- The names of the members that tell the service are some of two, each at most once. -/
theorem names_serviceMembers (key : FlowKey) (resolver : Resolver) :
    ((serviceMembers key resolver).map (·.1)).Sublist ["remote_type", "remote_host"] := by
  rw [serviceMembers]
  split
  · split
    · split
      · simp
      · simp
    · simp
  · exact List.nil_sublist _

/-- The members of the remote side. -/
def remoteMembers (key : FlowKey) (resolver : Resolver) : List (String × Datum) :=
  ("remote_ip", .string key.destination.text) ::
    ("remote_port", .string (if key.role = .server then "0" else toString key.destinationPort)) ::
      Value.memberData (serviceMembers key resolver)

/-- What a record tells of the remote side is an object of its members. -/
theorem datum_remoteInfo (key : FlowKey) (resolver : Resolver) :
    (remoteInfo key resolver).datum = .object (remoteMembers key resolver) :=
  rfl

/-- No member of the remote side is told twice. -/
theorem nodup_remoteMembers (key : FlowKey) (resolver : Resolver) :
    ((remoteMembers key resolver).map (·.1)).Nodup := by
  have hnames : (remoteMembers key resolver).map (·.1) =
      "remote_ip" :: "remote_port" :: (serviceMembers key resolver).map (·.1) := by
    rw [remoteMembers, Value.memberData_eq, List.map_cons, List.map_cons, List.map_map]
    rfl
  have hall : ["remote_ip", "remote_port", "remote_type", "remote_host"].Nodup := by decide
  rw [hnames]
  exact hall.sublist (((names_serviceMembers key resolver).cons_cons _).cons_cons _)

/-- The fields that are added for a key. -/
theorem fields_addKey (record : Record) (key : FlowKey) (withLocalPort : Bool) (resolver : Resolver) :
    (record.addKey key withLocalPort resolver).fields =
      record.fields ++ ("remote_info", (remoteInfo key resolver).text) ::
        ((if withLocalPort then [("local_port", toString key.sourcePort)] else []) ++
          [("socket_type", key.socketKind.label), ("role", key.role.label)]) := by
  cases withLocalPort <;> simp [addKey, add]

/-- A record is read back from its JSON text with the same fields in the same order. To a record with a flow
a field on the remote side is added, and it is the only one with its key that is added; its value is read as
an object that has its members once each: the address, the port, and for a client the kind of the service,
and its host where one is known. -/
theorem json_read_back (record : Record) :
    Json.read? record.json.text =
        some (.object [("contents", .array (record.fields.map fun (key, value) =>
          .object [("key", .string key), ("value", .string value)]))]) ∧
      ∀ (key : FlowKey) (withLocalPort : Bool) (resolver : Resolver), ∃ text later members,
        (record.addKey key withLocalPort resolver).fields =
            record.fields ++ ("remote_info", text) :: later ∧
          "remote_info" ∉ later.map (·.1) ∧
          Json.read? text = some (.object members) ∧
          (members.map (·.1)).Nodup ∧
          ∀ name datum, (name, datum) ∈ members ↔
            (name = "remote_ip" ∧ datum = .string key.destination.text) ∨
            (name = "remote_port" ∧
              datum = .string (if key.role = .server then "0" else toString key.destinationPort)) ∨
            (name = "remote_type" ∧ key.role = .client ∧
              datum = .string
                ((resolver key.pid key.destination.text).elim "server" (·.category.label))) ∨
            (name = "remote_host" ∧ key.role = .client ∧ ∃ service,
              resolver key.pid key.destination.text = some service ∧ service.host ≠ "" ∧
                datum = .string service.host) := by
  refine ⟨by rw [Json.read?_text, datum_json], fun key withLocalPort resolver => ?_⟩
  refine ⟨_, _, remoteMembers key resolver, fields_addKey record key withLocalPort resolver, ?_, ?_,
    nodup_remoteMembers key resolver, fun name datum => ?_⟩
  · cases withLocalPort <;> simp
  · rw [Json.read?_text, datum_remoteInfo]
  · rw [remoteMembers, List.mem_cons, List.mem_cons, mem_memberData_serviceMembers, Prod.mk.injEq,
      Prod.mk.injEq]

end FlowMeter.Record
