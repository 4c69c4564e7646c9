/-
**The identity of a host.**

`readId` derives it from the serial number of the motherboard, else from the UUID of the system, else
from the MAC addresses, and a host without any of them has `failureUUID`. The hash is any function, and
of the sort nothing is used but that its result is sorted.

* `uuidFromNetworkInterfaces_congr` — what the interfaces give depends on their least MAC address.
* **`readId_stable`** — which of the four it is, and the changes of a host that leave it as it is.
-/

import AssistedAgent.Inventory.Interfaces
import AssistedAgent.Lib.GoUuid
import AssistedAgent.Lib.StableSort
import Mathlib.Order.Bounds.Basic

namespace AssistedAgent.Scanners

open GoNet GoStrings GoUuid Inventory StableSort

/-! ### What boards report that have no number of their own -/

def serialDefaultString : String := "default string"

/-- BF cards report this one and the next. -/
def serialUnspecifiedBaseBoardString : String := "unspecified base board serial number"

def serialUnspecifiedSystemString : String := "unspecified system serial number"

/-- Of Linode. -/
def serialNotSpecified : String := "not specified"

/-- Of the eleventh generation of Proliant; the list below has it in lower case. -/
def serialProliantGen11 : String := "PCA_number.ACC"

def zeroesUUID : String := "00000000-0000-0000-0000-000000000000"

/-- All hosts of this type have the same UUID. -/
def kaloomUUID : String := "03000200-0400-0500-0006-000700080009"

/-- The identity of a host that has no other. -/
def failureUUID : String := "deaddead-dead-dead-dead-deaddeaddead"

/-- `util.UNKNOWN` of `ghw`. -/
def unknown : String := "unknown"

/-- `SerialDiscovery`: the UUID of the product and the serial number of the base board, or an error. -/
structure SerialDiscovery where
  product : Except String String
  baseboard : Except String String

/-- `md5.Sum`. -/
abbrev Hash := String → { bytes : List UInt8 // bytes.length = 16 }

/-- The UUIDs that identify nothing. -/
def unknownUuidCases : List String := ["", unknown, zeroesUUID, kaloomUUID]

section

variable (md5 : Hash) (lowering : Lowering) (sorter : Sorter Interface.macAddress)

/-- The serial numbers that identify nothing. They are compared with a number in lower case. -/
def unknownSerialCases : List String :=
  ["", unknown, "none", "(none)", "-", serialUnspecifiedBaseBoardString,
    serialUnspecifiedSystemString, serialDefaultString, serialNotSpecified,
    lowering.toLower serialProliantGen11]

/-- The slices are those of the source, of the thirty-two digits of the hash. -/
def md5GenerateUUID (str : String) : String :=
  let md5Str := hexString (md5 str).val
  let piece (low high : Nat) := (md5Str.take high).drop low
  String.ofList (piece 0 8 ++ ['-'] ++ piece 8 12 ++ ['-'] ++ piece 12 16 ++ ['-'] ++ piece 16 20 ++
    ['-'] ++ md5Str.drop 20)

/-- The UUID of the product in lower case, and nothing if it is none or identifies nothing. -/
def readSystemUUID (discovery : SerialDiscovery) : Option String :=
  let value :=
    match discovery.product with
    | .error _ => ""
    | .ok uuid => uuid
  if !isUUID value || unknownUuidCases.contains (lowering.toLower value) then none
  else some (lowering.toLower value)

/-- The hash is that of the number as it is reported, not of the one in lower case. -/
def readMotherboardSerial (discovery : SerialDiscovery) : Option String :=
  match discovery.baseboard with
  | .error _ => none
  | .ok serialNumber =>
    if (unknownSerialCases lowering).contains (lowering.toLower serialNumber) then none
    else some (md5GenerateUUID md5 serialNumber)

/-- The hash of the first address after the sort. -/
def uuidFromNetworkInterfaces (interfaces : List Interface) : Option String :=
  let interfaces := interfaces.filter fun iface => iface.macAddress ≠ ""
  if interfaces.length = 0 then none
  else (sorter.sort interfaces)[0]?.map fun iface => md5GenerateUUID md5 iface.macAddress

/-- `ReadId`, for the interfaces that `GetInterfaces` returns. -/
def readIdFrom (discovery : SerialDiscovery) (interfaces : List Interface) : String :=
  match readMotherboardSerial md5 lowering discovery with
  | some motherboardSerialUUID => motherboardSerialUUID
  | none =>
    match readSystemUUID lowering discovery with
    | some systemUUID => systemUUID
    | none =>
      match uuidFromNetworkInterfaces md5 sorter interfaces with
      | some interfacesUUID => interfacesUUID
      | none => failureUUID

/-- `ReadId`. -/
def readId (discovery : SerialDiscovery) (dependencies : Util.Dependencies) : String :=
  readIdFrom md5 lowering sorter discovery (getInterfaces dependencies)

/-! ### Where an identity may come from -/

/-- A serial number that is not one of those that many boards have. -/
def UsableSerial (discovery : SerialDiscovery) (serial : String) : Prop :=
  discovery.baseboard = .ok serial ∧ lowering.toLower serial ∉ unknownSerialCases lowering

/-- A UUID that is one and that not every host of its type has. -/
def UsableUUID (discovery : SerialDiscovery) (uuid : String) : Prop :=
  discovery.product = .ok uuid ∧ isUUID uuid = true ∧ lowering.toLower uuid ∉ unknownUuidCases

/-- The MAC addresses that are not empty. -/
def macs (interfaces : List Interface) : Set String :=
  { mac | mac ≠ "" ∧ ∃ iface ∈ interfaces, iface.macAddress = mac }

/-- The text of a UUID: two hexadecimal digits for each of its bytes, which stand in groups of four, two,
two, two and six with hyphens between them. -/
def WrittenUUID (bytes : List UInt8) (text : String) : Prop :=
  ∃ groups : List (List UInt8), groups.flatten = bytes ∧ groups.map List.length = [4, 2, 2, 2, 6] ∧
    text = String.ofList (['-'].intercalate (groups.map hexString))

/-- **The identity of a host**: the first source that is usable. -/
inductive Identity (discovery : SerialDiscovery) (interfaces : List Interface) : String → Prop
  | serial {serial text : String} (usable : UsableSerial lowering discovery serial)
    (written : WrittenUUID (md5 serial).val text) : Identity discovery interfaces text
  | uuid {uuid : String} (noSerial : ∀ serial, ¬ UsableSerial lowering discovery serial)
    (usable : UsableUUID lowering discovery uuid) :
    Identity discovery interfaces (lowering.toLower uuid)
  | mac {mac text : String} (noSerial : ∀ serial, ¬ UsableSerial lowering discovery serial)
    (noUuid : ∀ uuid, ¬ UsableUUID lowering discovery uuid) (least : IsLeast (macs interfaces) mac)
    (written : WrittenUUID (md5 mac).val text) : Identity discovery interfaces text
  | failure (noSerial : ∀ serial, ¬ UsableSerial lowering discovery serial)
    (noUuid : ∀ uuid, ¬ UsableUUID lowering discovery uuid) (noMac : macs interfaces = ∅) :
    Identity discovery interfaces failureUUID

/-! ### The text of the hash -/

theorem hexString_take (bytes : List UInt8) (n : Nat) :
    (hexString bytes).take (2 * n) = hexString (bytes.take n) := by
  induction bytes generalizing n with
  | nil => simp [hexString]
  | cons b bytes ih =>
    cases n with
    | zero => rfl
    | succ n => exact congrArg ([_, _] ++ ·) (ih n)

theorem hexString_drop (bytes : List UInt8) (n : Nat) :
    (hexString bytes).drop (2 * n) = hexString (bytes.drop n) := by
  induction bytes generalizing n with
  | nil => simp [hexString]
  | cons b bytes ih =>
    cases n with
    | zero => rfl
    | succ n => exact ih n

/-- A slice of the digits is the digits of a slice of the bytes. -/
theorem hexString_slice (bytes : List UInt8) (low high : Nat) :
    ((hexString bytes).take (2 * high)).drop (2 * low) = hexString ((bytes.take high).drop low) := by
  rw [hexString_take, hexString_drop]

theorem md5GenerateUUID_written (str : String) :
    WrittenUUID (md5 str).val (md5GenerateUUID md5 str) := by
  rw [md5GenerateUUID]
  obtain ⟨bytes, sixteen⟩ := md5 str
  have slice := hexString_slice bytes
  refine ⟨[(bytes.take 4).drop 0, (bytes.take 6).drop 4, (bytes.take 8).drop 6, (bytes.take 10).drop 8,
    bytes.drop 10], ?_, ?_, ?_⟩
  · -- each group is what the drop after it leaves out
    have cut (n : Nat) : (bytes.take (n + 2)).drop n ++ bytes.drop (n + 2) = bytes.drop n := by
      rw [List.drop_take, Nat.add_sub_cancel_left, ← List.drop_drop, List.take_append_drop]
    simp only [List.flatten_cons, List.flatten_nil, List.append_nil, List.drop_zero, cut 8, cut 6, cut 4,
      List.take_append_drop]
  · simp [sixteen]
  · simp only [slice 0 4, slice 4 6, slice 6 8, slice 8 10, hexString_drop bytes 10,
      List.map_cons, List.map_nil]
    simp [List.intercalate]

/-! ### The sources -/

/-- The first source: there is a usable serial number and it is used, or there is none. -/
theorem readMotherboardSerial_spec (discovery : SerialDiscovery) :
    (∃ serial, UsableSerial lowering discovery serial ∧
      readMotherboardSerial md5 lowering discovery = some (md5GenerateUUID md5 serial)) ∨
    (∀ serial, ¬ UsableSerial lowering discovery serial) ∧
      readMotherboardSerial md5 lowering discovery = none := by
  rw [readMotherboardSerial]
  cases baseboard : discovery.baseboard with
  | error err => exact .inr ⟨fun serial usable => by simp [UsableSerial, baseboard] at usable, rfl⟩
  | ok serialNumber =>
    by_cases isUnknown : lowering.toLower serialNumber ∈ unknownSerialCases lowering
    · refine .inr ⟨?_, if_pos (List.contains_iff_mem.mpr isUnknown)⟩
      rintro serial ⟨read, known⟩
      rw [baseboard, Except.ok.injEq] at read
      exact known (read ▸ isUnknown)
    · exact .inl ⟨serialNumber, ⟨baseboard, isUnknown⟩,
        if_neg (mt List.contains_iff_mem.mp isUnknown)⟩

/-- The second source. -/
theorem readSystemUUID_spec (discovery : SerialDiscovery) :
    (∃ uuid, UsableUUID lowering discovery uuid ∧
      readSystemUUID lowering discovery = some (lowering.toLower uuid)) ∨
    (∀ uuid, ¬ UsableUUID lowering discovery uuid) ∧ readSystemUUID lowering discovery = none := by
  cases product : discovery.product with
  | error err =>
    refine .inr ⟨fun uuid usable => by simp [UsableUUID, product] at usable, ?_⟩
    rw [readSystemUUID, product]
    exact if_pos rfl
  | ok value =>
    have read : readSystemUUID lowering discovery =
        if !isUUID value || unknownUuidCases.contains (lowering.toLower value) then none
        else some (lowering.toLower value) := by
      rw [readSystemUUID, product]
    by_cases usable : isUUID value = true ∧ lowering.toLower value ∉ unknownUuidCases
    · refine .inl ⟨value, ⟨product, usable⟩, read.trans (if_neg ?_)⟩
      simpa using usable
    · refine .inr ⟨?_, read.trans (if_pos ?_)⟩
      · rintro uuid ⟨same, usable'⟩
        rw [product, Except.ok.injEq] at same
        exact usable (same ▸ usable')
      · simpa [or_iff_not_imp_left] using usable

/-- The third source: whatever the sort does with equal addresses, the least one is used. -/
theorem uuidFromNetworkInterfaces_spec (interfaces : List Interface) :
    (∃ mac, IsLeast (macs interfaces) mac ∧
      uuidFromNetworkInterfaces md5 sorter interfaces = some (md5GenerateUUID md5 mac)) ∨
    macs interfaces = ∅ ∧ uuidFromNetworkInterfaces md5 sorter interfaces = none := by
  have member {iface : Interface} : (iface ∈ interfaces.filter fun iface => iface.macAddress ≠ "") ↔
      iface ∈ interfaces ∧ iface.macAddress ≠ "" := by
    simp
  rw [uuidFromNetworkInterfaces]
  generalize interfaces.filter (fun iface => iface.macAddress ≠ "") = filtered at member
  cases sorted : sorter.sort filtered with
  | nil =>
    have empty : filtered = [] := by
      have same := sorter.perm filtered
      rw [sorted] at same
      exact same.nil_eq.symm
    refine .inr ⟨?_, by simp [empty]⟩
    rw [Set.eq_empty_iff_forall_notMem]
    rintro mac ⟨filled, iface, inside, rfl⟩
    have := member.mpr ⟨inside, filled⟩
    rw [empty] at this
    cases this
  | cons first rest =>
    have inside : first ∈ filtered := sorter.mem_sort.mp (sorted ▸ List.mem_cons_self ..)
    have filled : filtered.length ≠ 0 := (List.length_pos_of_mem inside).ne'
    refine .inl ⟨first.macAddress, ⟨⟨(member.mp inside).2, first, (member.mp inside).1, rfl⟩, ?_⟩, ?_⟩
    · rintro mac ⟨filled', iface, inside', rfl⟩
      exact sorter.head_le sorted (member.mpr ⟨inside', filled'⟩)
    · simp [filled]

/-- **The least address decides**: addresses that come with a smaller one change nothing. -/
theorem uuidFromNetworkInterfaces_congr {interfaces interfaces' : List Interface}
    (more : macs interfaces ⊆ macs interfaces')
    (smaller : IsCoinitialFor (macs interfaces') (macs interfaces)) :
    uuidFromNetworkInterfaces md5 sorter interfaces' =
      uuidFromNetworkInterfaces md5 sorter interfaces := by
  rcases uuidFromNetworkInterfaces_spec md5 sorter interfaces with ⟨mac, least, eq⟩ | ⟨empty, eq⟩
  · have least' : IsLeast (macs interfaces') mac := by
      refine ⟨more least.1, fun mac' inside => ?_⟩
      obtain ⟨below, inside', le⟩ := smaller inside
      exact (least.2 inside').trans le
    rcases uuidFromNetworkInterfaces_spec md5 sorter interfaces' with ⟨mac', least'', eq'⟩ | ⟨empty, -⟩
    · rw [eq, eq', least'.unique least'']
    · exact absurd least'.1 (empty ▸ Set.notMem_empty mac)
  · rcases uuidFromNetworkInterfaces_spec md5 sorter interfaces' with ⟨mac', least', -⟩ | ⟨-, eq'⟩
    · obtain ⟨below, inside, -⟩ := smaller least'.1
      exact absurd inside (empty ▸ Set.notMem_empty below)
    · rw [eq, eq']

/-- One source after the other. -/
theorem readIdFrom_identity (discovery : SerialDiscovery) (interfaces : List Interface) :
    Identity md5 lowering discovery interfaces
      (readIdFrom md5 lowering sorter discovery interfaces) := by
  rw [readIdFrom]
  rcases readMotherboardSerial_spec md5 lowering discovery with ⟨serial, usable, eq⟩ | ⟨noSerial, eq⟩
  · rw [eq]
    exact .serial usable (md5GenerateUUID_written md5 serial)
  rcases readSystemUUID_spec lowering discovery with ⟨uuid, usable, eq'⟩ | ⟨noUuid, eq'⟩
  · rw [eq, eq']
    exact .uuid noSerial usable
  rcases uuidFromNetworkInterfaces_spec md5 sorter interfaces with ⟨mac, least, eq''⟩ | ⟨noMac, eq''⟩
  · rw [eq, eq', eq'']
    exact .mac noSerial noUuid least (md5GenerateUUID_written md5 mac)
  · rw [eq, eq', eq'']
    exact .failure noSerial noUuid noMac

/-! ### What leaves the identity as it is -/

theorem readIdFrom_congr (discovery : SerialDiscovery) {interfaces interfaces' : List Interface}
    (more : macs interfaces ⊆ macs interfaces')
    (smaller : IsCoinitialFor (macs interfaces') (macs interfaces)) :
    readIdFrom md5 lowering sorter discovery interfaces' =
      readIdFrom md5 lowering sorter discovery interfaces := by
  rw [readIdFrom, uuidFromNetworkInterfaces_congr md5 sorter more smaller, readIdFrom]

/-- Only the set of the addresses counts. -/
theorem readIdFrom_of_macs (discovery : SerialDiscovery) {interfaces interfaces' : List Interface}
    (same : macs interfaces' = macs interfaces) :
    readIdFrom md5 lowering sorter discovery interfaces' =
      readIdFrom md5 lowering sorter discovery interfaces :=
  readIdFrom_congr md5 lowering sorter discovery same.ge (.of_subset same.le)

/-- The case of the UUID makes no difference. -/
theorem readSystemUUID_case {discovery : SerialDiscovery} {uuid uuid' : String}
    (product : discovery.product = .ok uuid) (same : SameButCase uuid' uuid) :
    readSystemUUID lowering { discovery with product := .ok uuid' } =
      readSystemUUID lowering discovery := by
  simp only [readSystemUUID, product, isUUID_congr same, lowering.toLower_congr same]

/-! ### The lists are in lower case -/

theorem unknownSerialCases_eq : unknownSerialCases lowering =
    ["", unknown, "none", "(none)", "-", serialUnspecifiedBaseBoardString,
      serialUnspecifiedSystemString, serialDefaultString, serialNotSpecified, "pca_number.acc"] := by
  have lower : lowering.toLower serialProliantGen11 = "pca_number.acc" :=
    (lowering.toLower_of_ascii (by decide +kernel)).trans (by decide +kernel)
  rw [unknownSerialCases, lower]

/-- A list in lower case has a text in whatever case, once that is lowered. -/
theorem toLower_mem_of_sameButCase {cases_ : List String} (low : cases_.all isLowerASCII = true)
    {text known : String} (member : known ∈ cases_) (same : SameButCase text known) :
    lowering.toLower text ∈ cases_ := by
  rw [lowering.toLower_congr same,
    lowering.toLower_of_isLowerASCII (List.all_eq_true.mp low known member)]
  exact member

/-- **A serial number that is unknown** in whatever case is not used. -/
theorem not_usableSerial {discovery : SerialDiscovery} {serial known : String}
    (member : known ∈ unknownSerialCases lowering) (same : SameButCase serial known) :
    ¬ UsableSerial lowering discovery serial := by
  have low : (unknownSerialCases lowering).all isLowerASCII = true := by
    rw [unknownSerialCases_eq]
    decide +kernel
  exact fun usable => usable.2 (toLower_mem_of_sameButCase lowering low member same)

theorem not_usableUUID {discovery : SerialDiscovery} {uuid known : String}
    (member : known ∈ unknownUuidCases) (same : SameButCase uuid known) :
    ¬ UsableUUID lowering discovery uuid := by
  have low : unknownUuidCases.all isLowerASCII = true := by decide +kernel
  exact fun usable => usable.2.2 (toLower_mem_of_sameButCase lowering low member same)

/-- **The identity of a host comes from the first usable source**, and stays as it is when the
interfaces are listed in another order or renamed, when interfaces come or go whose address is empty
or not the least, and when the UUID is written in another case. -/
theorem readId_stable (discovery : SerialDiscovery) (interfaces : List Interface) :
    let id := readIdFrom md5 lowering sorter discovery interfaces
    Identity md5 lowering discovery interfaces id ∧
    (∀ serial, ∀ known ∈ unknownSerialCases lowering, SameButCase serial known →
      ¬ UsableSerial lowering discovery serial) ∧
    (∀ uuid, ∀ known ∈ unknownUuidCases, SameButCase uuid known →
      ¬ UsableUUID lowering discovery uuid) ∧
    (∀ permuted : List Interface, permuted.Perm interfaces →
      readIdFrom md5 lowering sorter discovery permuted = id) ∧
    (∀ renamed : List Interface, renamed.map (·.macAddress) = interfaces.map (·.macAddress) →
      readIdFrom md5 lowering sorter discovery renamed = id) ∧
    (∀ extra more : List Interface, more.Perm (interfaces ++ extra) →
      (∀ iface ∈ extra, iface.macAddress = "" ∨
        ∃ other ∈ interfaces, other.macAddress ≠ "" ∧ other.macAddress ≤ iface.macAddress) →
      readIdFrom md5 lowering sorter discovery more = id) ∧
    (∀ uuid uuid', discovery.product = .ok uuid → SameButCase uuid' uuid →
      readIdFrom md5 lowering sorter { discovery with product := .ok uuid' } interfaces = id) ∧
    ∀ dependencies, getInterfaces dependencies = interfaces →
      readId md5 lowering sorter discovery dependencies = id := by
  intro id
  refine ⟨readIdFrom_identity md5 lowering sorter discovery interfaces,
    fun serial known => not_usableSerial lowering, fun uuid known => not_usableUUID lowering,
    ?_, ?_, ?_, ?_, ?_⟩
  · intro permuted same
    refine readIdFrom_of_macs md5 lowering sorter discovery (Set.ext fun mac => ?_)
    simp only [macs, Set.mem_ofPred_eq, same.mem_iff]
  · intro renamed same
    refine readIdFrom_of_macs md5 lowering sorter discovery (Set.ext fun mac => ?_)
    simp only [macs, Set.mem_ofPred_eq, ← List.mem_map, same]
  · intro extra more same larger
    refine readIdFrom_congr md5 lowering sorter discovery ?_ ?_
    · rintro mac ⟨filled, iface, inside, rfl⟩
      exact ⟨filled, iface, same.mem_iff.mpr (List.mem_append_left _ inside), rfl⟩
    · rintro mac ⟨filled, iface, inside, rfl⟩
      rcases List.mem_append.mp (same.mem_iff.mp inside) with old | new
      · exact ⟨_, ⟨filled, iface, old, rfl⟩, le_refl _⟩
      · rcases larger iface new with empty | ⟨other, old, filled', le⟩
        · exact absurd empty filled
        · exact ⟨_, ⟨filled', other, old, rfl⟩, le⟩
  · intro uuid uuid' product same
    have kept := readSystemUUID_case lowering product same
    simp only [id, readIdFrom, kept]
    rfl
  · rintro dependencies rfl
    rfl

end

end AssistedAgent.Scanners
