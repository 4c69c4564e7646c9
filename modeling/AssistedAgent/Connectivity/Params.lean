/-
**The argument of the connectivity check.**

It is decoded twice: when the action is validated, which skips nil pointers, and when it runs.
`ProcessHost` reads the identifier of its host and, in `getAllMacAddresses`, every NIC, before anything
else; `Run` waits for the goroutines of all hosts.

* **`connectivityCheck_eq_none_iff`** — the run dereferences a nil pointer exactly when the document has a
  null among the hosts or among the NICs of one.
-/

import AssistedAgent.Actions.Validate
import AssistedAgent.Connectivity.ProcessHost
import AssistedAgent.Lib.JsonPointers
import AssistedAgent.Lib.OptionList

namespace AssistedAgent.Connectivity

open Actions GoJson OptionList

/-! ### The models, with their pointers -/

/-- `models.ConnectivityCheckNic`, as it is decoded. -/
structure NicParams where
  ipAddresses : DecodedSlice String
  mac : String
  name : String
deriving DecidableEq, Repr

/-- `models.ConnectivityCheckHost`, as it is decoded; `none` is a nil pointer. -/
structure HostParams where
  hostID : String
  nics : DecodedSlice (Option NicParams)
deriving DecidableEq, Repr

def NicParams.zero : NicParams := ⟨.nil, "", ""⟩

def HostParams.zero : HostParams := ⟨"", .nil⟩

def decodeNic : Json → NicParams → Option NicParams
  | .null, nic => some nic
  | .object members, nic => do
    let ipAddresses ← fieldAt "ip_addresses" (decodeSlice decodeString "") nic.ipAddresses members
    let mac ← fieldAt "mac" decodeString nic.mac members
    let name ← fieldAt "name" decodeString nic.name members
    some ⟨ipAddresses, mac, name⟩
  | _, _ => none

def decodeHost : Json → HostParams → Option HostParams
  | .null, host => some host
  | .object members, host => do
    let hostID ← fieldAt "host_id" decodeString host.hostID members
    let nics ← fieldAt "nics" (decodeSlice (decodePointer decodeNic .zero) none) host.nics members
    some ⟨hostID, nics⟩
  | _, _ => none

/-- `json.Unmarshal` to `models.ConnectivityCheckParams`. -/
def unmarshalParams (json : Json) : Option (List (Option HostParams)) :=
  (decodeSlice (decodePointer decodeHost .zero) none json .nil).map (·.elems)

def NicParams.validate (f : Formats) (nic : NicParams) : Option ModelError :=
  compositeLines [
    (validateEach validateAddress "ip_addresses" nic.ipAddresses.elems).map ([.message ·]),
    (validateFilled (validateMAC f "mac") nic.mac).map ([.message ·])]

def HostParams.validate (f : Formats) (host : HostParams) : Option ModelError :=
  compositeLines [
    (validateFilled (validateUUID f "host_id") host.hostID).map ([.message ·]),
    validatePointers (NicParams.validate f) (fun i => "nics." ++ toString i) host.nics.elems]

/-- `models.ConnectivityCheckParams`. -/
def connectivityCheckParams (f : Formats) : Model (List (Option HostParams)) where
  unmarshal := unmarshalParams
  validate hosts := (validatePointers (HostParams.validate f) toString hosts).map ModelError.text

/-! ### The run -/

def NicParams.toCheckNic (nic : NicParams) : CheckNic := ⟨nic.ipAddresses.elems, nic.mac, nic.name⟩

/-- The host that `ProcessHost` reads; `none` if it dereferences a nil pointer. -/
def readHost : Option HostParams → Option CheckHost
  | none => none
  | some host =>
    (host.nics.elems.mapM (Option.map NicParams.toCheckNic)).map (⟨host.hostID, ·⟩)

/-- Why `connectivityCheck` returns before it runs anything. -/
inductive ParamsError
  /-- "Expecting exactly 1 argument for connectivity command". -/
  | count
  | json
deriving DecidableEq, Repr

/-- `connectivityCheck`, by the hosts that are checked; `none` is a panic. -/
def connectivityCheck : List String → Option (Except ParamsError (List CheckHost))
  | [arg] =>
    match (parse arg).bind unmarshalParams with
    | none => some (.error .json)
    | some hosts => (hosts.mapM readHost).map .ok
  | _ => some (.error .count)

/-! ### Nulls in the document -/

/-- The document of a host has a null among its NICs. -/
def NullNic (json : Json) : Prop :=
  ∃ members nics, json = .object members ∧ lastMember "nics" members = some (.array nics) ∧ .null ∈ nics

/-- The document has a null among its hosts or among the NICs of one. -/
def NullHost (json : Json) : Prop :=
  ∃ hosts, json = .array hosts ∧ ∃ host ∈ hosts, host = .null ∨ NullNic host

theorem readHost_eq_none_iff {host : HostParams} :
    readHost (some host) = none ↔ none ∈ host.nics.elems := by
  rw [readHost, Option.map_eq_none_iff, mapM_eq_none_iff]
  simp

/-- A nil NIC of a host that is decoded to a new value is a null of its document. -/
theorem none_mem_nics_iff {json : Json} {host : HostParams} (decoded : decodeHost json .zero = some host) :
    none ∈ host.nics.elems ↔ NullNic json := by
  unfold decodeHost at decoded
  split at decoded
  · cases decoded
    exact ⟨nofun, nofun⟩
  · rename_i members
    obtain ⟨hostID, -, later⟩ := Option.bind_eq_some_iff.mp decoded
    obtain ⟨nics, field, is⟩ := Option.bind_eq_some_iff.mp later
    cases is
    rcases fieldAt_last field with ⟨last, rfl⟩ | ⟨item, before, last, item_eq⟩
    · constructor
      · exact nofun
      · rintro ⟨members', nics, is, last', -⟩
        cases is
        rw [last] at last'
        cases last'
    · rw [none_mem_decodeSlice_iff item_eq]
      constructor
      · rintro ⟨nics, rfl, member⟩
        exact ⟨members, nics, rfl, last, member⟩
      · rintro ⟨members', nics, is, last', member⟩
        cases is
        rw [last] at last'
        cases last'
        exact ⟨nics, rfl, member⟩
  · cases decoded

theorem readHost_decodePointer {json : Json} {pointer : Option HostParams}
    (decoded : decodePointer decodeHost .zero json none = some pointer) :
    readHost pointer = none ↔ json = .null ∨ NullNic json := by
  have nil := decodePointer_none_iff decoded
  cases pointer with
  | none => exact ⟨fun _ => .inl (nil.mp rfl), fun _ => rfl⟩
  | some host =>
    have filled : json ≠ .null := fun null => Option.some_ne_none host (nil.mpr null)
    rw [readHost_eq_none_iff, none_mem_nics_iff (decode_of_decodePointer decoded)]
    exact ⟨.inr, fun either => either.resolve_left filled⟩

theorem readHost_decodeItems {items : List Json} {slice : DecodedSlice (Option HostParams)}
    (decoded : decodeItems (decodePointer decodeHost .zero) none items [] = some slice) :
    (∃ pointer ∈ slice.elems, readHost pointer = none) ↔ ∃ host ∈ items, host = .null ∨ NullNic host := by
  induction items generalizing slice with
  | nil =>
    cases decoded
    simp
  | cons item items ih =>
    obtain ⟨pointer, first, later⟩ := Option.bind_eq_some_iff.mp decoded
    obtain ⟨rest, others, is⟩ := Option.bind_eq_some_iff.mp later
    cases is
    rw [List.exists_mem_cons_iff, List.exists_mem_cons_iff, ih others, readHost_decodePointer first]

theorem readHost_unmarshalParams {json : Json} {hosts : List (Option HostParams)}
    (decoded : unmarshalParams json = some hosts) :
    hosts.mapM readHost = none ↔ NullHost json := by
  rw [mapM_eq_none_iff]
  obtain ⟨slice, slice_eq, rfl⟩ := Option.map_eq_some_iff.mp decoded
  unfold decodeSlice at slice_eq
  split at slice_eq
  · cases slice_eq
    simp [DecodedSlice.nil, NullHost]
  · cases slice_eq
    simp [DecodedSlice.nil, NullHost]
  · rw [readHost_decodeItems slice_eq]
    simp [NullHost]
  · cases slice_eq

/-- **The run dereferences a nil pointer exactly for a null in the document.** -/
theorem connectivityCheck_eq_none_iff {arg : String} {json : Json} {hosts : List (Option HostParams)}
    (parsed : parse arg = some json) (decoded : unmarshalParams json = some hosts) :
    connectivityCheck [arg] = none ↔ NullHost json := by
  rw [← readHost_unmarshalParams decoded]
  have both : (parse arg).bind unmarshalParams = some hosts := by rw [parsed, Option.bind_some, decoded]
  rw [connectivityCheck, both]
  exact Option.map_eq_none_iff

end AssistedAgent.Connectivity
