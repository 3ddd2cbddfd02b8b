import FlowMeter.Proofs.AddressText
import FlowMeter.Proofs.Layout
import FlowMeter.Record
import FlowMeter.Service.Directory

/-!
# Services are kept apart

What a record tells of the remote side of a flow depends on the service directory through one look-up only,
that of the process and the text of the remote address. Different addresses have different texts, the long
addresses that stand for short ones included, so a note on another address or for another process does
not show in the record.
-/

namespace FlowMeter

namespace Address

/-- A long address is told by the short one that it stands for. -/
theorem toList_of_mapped? {groups : Vector UInt16 8} {octets : Vector UInt8 4} {a b c d : UInt8}
    (hoctets : octets.toList = [a, b, c, d]) (h : mapped? groups = some octets) :
    groups.toList = [0, 0, 0, 0, 0, 0xffff, groupOf a b, groupOf c d] := by
  obtain ⟨⟨groups⟩, hsize⟩ := groups
  match groups, hsize with
  | [g₀, g₁, g₂, g₃, g₄, g₅, first, second], _ =>
    rw [mapped?] at h
    split at h
    · rename_i hfront
      have hfront : g₀ = 0 ∧ g₁ = 0 ∧ g₂ = 0 ∧ g₃ = 0 ∧ g₄ = 0 ∧ g₅ = 0xffff := by simpa using hfront
      obtain ⟨rfl, rfl, rfl, rfl, rfl, rfl⟩ := hfront
      obtain rfl := Option.some.inj h
      have hbytes : (first >>> 8).toUInt8 = a ∧ first.toUInt8 = b ∧ (second >>> 8).toUInt8 = c ∧
          second.toUInt8 = d := by
        rw [toList_octets] at hoctets
        simpa [groupBytes] using hoctets
      obtain ⟨rfl, rfl, rfl, rfl⟩ := hbytes
      rw [groupOf_groupBytes, groupOf_groupBytes]
      rfl
    · contradiction

/-- The text of a long address that stands for a short one ends in the text of that one. -/
theorem chars_of_mapped? {groups : Vector UInt16 8} {octets : Vector UInt8 4}
    (h : mapped? groups = some octets) : chars (.v6 groups) = "::ffff:".toList ++ text4 octets := by
  rw [chars, h]

/-- No short address has the text of a long one that stands for a short one. -/
theorem text_ne_of_isMapped {address : Address} (h : address.IsMapped) (octets : Vector UInt8 4) :
    address.text ≠ (v4 octets).text := by
  intro htext
  have hchars : address.chars = text4 octets := String.ofList_injective htext
  cases address with
  | v4 others => exact h
  | v6 groups =>
    obtain ⟨others, hothers⟩ := isSome_mapped? h
    have hread := read4?_text4 octets
    rw [← hchars, chars_of_mapped? hothers] at hread
    exact nomatch (read4?_colon _).symm.trans hread

/-- Long addresses that stand for short ones have different texts where they are different. -/
theorem eq_of_text_eq_of_isMapped {a b : Address} (ha : a.IsMapped) (hb : b.IsMapped)
    (h : a.text = b.text) : a = b := by
  have hchars : a.chars = b.chars := String.ofList_injective h
  cases a with
  | v4 octets => exact ha.elim
  | v6 groups =>
    cases b with
    | v4 octets => exact hb.elim
    | v6 others =>
      obtain ⟨first, hfirst⟩ := isSome_mapped? ha
      obtain ⟨second, hsecond⟩ := isSome_mapped? hb
      rw [chars_of_mapped? hfirst, chars_of_mapped? hsecond, List.append_cancel_left_eq] at hchars
      have hread := read4?_text4 first
      rw [hchars, read4?_text4, Option.some.injEq, v4.injEq] at hread
      rw [v6.injEq, ← Vector.toList_inj, toList_of_mapped? (toList_octets first) hfirst,
        toList_of_mapped? (toList_octets second) hsecond, hread]

/-- Different addresses have different texts. -/
theorem text_injective : Function.Injective text := by
  intro a b h
  have hread : (if a.IsMapped then zero4 else a) = if b.IsMapped then zero4 else b := by
    rw [← ofText_text_eq, ← ofText_text_eq, h]
  by_cases ha : a.IsMapped
  · by_cases hb : b.IsMapped
    · exact eq_of_text_eq_of_isMapped ha hb h
    · rw [if_pos ha, if_neg hb] at hread
      exact absurd (hread ▸ h) (text_ne_of_isMapped ha _)
  · by_cases hb : b.IsMapped
    · rw [if_neg ha, if_pos hb] at hread
      exact absurd (hread ▸ h.symm) (text_ne_of_isMapped hb _)
    · rwa [if_neg ha, if_neg hb] at hread

end Address

namespace ServiceDirectory

/-- A note on an address for a process is found for no other address and no other process. -/
theorem resolve_insert_text_of_ne (directory : ServiceDirectory) {pid other : UInt32}
    {address remote : Address} (h : (pid, address) ≠ (other, remote)) (service : Service) :
    (directory.insert pid address.text service).resolve other remote.text =
      directory.resolve other remote.text := by
  rw [resolve_insert, if_neg]
  rintro ⟨rfl, htext⟩
  rw [Address.text_injective htext] at h
  exact h rfl

end ServiceDirectory

namespace Record

/-- What a record tells of a key depends on a resolver through one look-up, and for clients only. -/
theorem addKey_congr {key : FlowKey} {resolver other : Resolver}
    (h : key.role = .client →
      resolver key.pid key.destination.text = other key.pid key.destination.text)
    (record : Record) (withLocalPort : Bool) :
    record.addKey key withLocalPort resolver = record.addKey key withLocalPort other := by
  have hmembers : serviceMembers key resolver = serviceMembers key other := by
    rw [serviceMembers, serviceMembers]
    split
    · rw [h ‹_›]
    · rfl
  simp only [addKey, remoteInfo, hmembers]

/-- What is noted for another process or on another address, and which processes are forgotten besides the
own one, does not show in the record of a flow; and nothing that is noted shows in the record of a flow that
is none of a client. A note is found by the text of its address, and different addresses have different
texts. -/
theorem addKey_isolated (directory : ServiceDirectory) (key : FlowKey) (record : Record)
    (withLocalPort : Bool) :
    (∀ pid address service, (pid, address) ≠ (key.pid, key.destination) →
      record.addKey key withLocalPort (directory.insert pid address.text service).resolve =
        record.addKey key withLocalPort directory.resolve) ∧
      (∀ pid, pid ≠ key.pid →
        record.addKey key withLocalPort (directory.erase pid).resolve =
          record.addKey key withLocalPort directory.resolve) ∧
      (key.role ≠ .client → ∀ other : ServiceDirectory,
        record.addKey key withLocalPort other.resolve =
          record.addKey key withLocalPort directory.resolve) ∧
      Function.Injective Address.text := by
  refine ⟨fun pid address service h => ?_, fun pid h => ?_, fun h other => ?_, Address.text_injective⟩
  · exact addKey_congr (fun _ => directory.resolve_insert_text_of_ne h service) record withLocalPort
  · refine addKey_congr (fun _ => ?_) record withLocalPort
    rw [directory.resolve_erase, if_neg h.symm]
  · exact addKey_congr (fun hclient => absurd hclient h) record withLocalPort

/-- A client of a short address, with a note on it. -/
def notedRemote : FlowKey × ServiceDirectory :=
  ({ pid := 7, destination := .v4 #v[1, 2, 3, 4], role := .client },
    ServiceDirectory.empty.insert 7 (Address.v4 #v[1, 2, 3, 4]).text ⟨.database, "db"⟩)

/-- A note on the long address that stands for the remote one does not show in the record of a client, and
neither does the end of another process; the record of a server shows not even the note on its own remote
address. -/
theorem addKey_isolated_notedRemote :
    let (key, directory) := notedRemote
    ((7, .v6 #v[0, 0, 0, 0, 0, 0xffff, 0x102, 0x304]) ≠ (key.pid, key.destination) ∧
      empty.addKey key true (directory.insert 7
          (Address.v6 #v[0, 0, 0, 0, 0, 0xffff, 0x102, 0x304]).text ⟨.cache, "other"⟩).resolve =
        empty.addKey key true directory.resolve) ∧
      ((8 : UInt32) ≠ key.pid ∧ empty.addKey key true (directory.erase 8).resolve =
        empty.addKey key true directory.resolve) ∧
      ({ key with role := .server } : FlowKey).role ≠ .client ∧
        empty.addKey { key with role := .server } true ServiceDirectory.empty.resolve =
          empty.addKey { key with role := .server } true directory.resolve := by
  have haddress : ((7, .v6 #v[0, 0, 0, 0, 0, 0xffff, 0x102, 0x304]) : UInt32 × Address) ≠
      (notedRemote.1.pid, notedRemote.1.destination) := by
    simp [notedRemote]
  have hpid : (8 : UInt32) ≠ notedRemote.1.pid := by decide
  have hrole : ({ notedRemote.1 with role := .server } : FlowKey).role ≠ .client := nofun
  obtain ⟨hinsert, herase, _, _⟩ := addKey_isolated notedRemote.2 notedRemote.1 empty true
  obtain ⟨_, _, hserver, _⟩ :=
    addKey_isolated notedRemote.2 { notedRemote.1 with role := .server } empty true
  exact ⟨⟨haddress, hinsert _ _ _ haddress⟩, ⟨hpid, herase 8 hpid⟩, hrole, hserver hrole .empty⟩

end Record

end FlowMeter
