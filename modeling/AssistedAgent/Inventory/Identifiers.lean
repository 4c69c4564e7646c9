/-
**The identifiers of the disks are unique.**

A record is identified by a link of `/dev/disk/by-id`, by a link of `/dev/disk/by-path` or by its
device file. An identifier is one of the three, `Identifies` says what makes it one of a disk.

* `Identifier.text_injective` — the three kinds of text do not meet.
* `Identifies.index_eq` — an identifier is one of a single disk of the list: a link resolves to one
  path, a bus path that is shared is not used, and device files have different names.
* `diskRecord_returns`, `diskRecord_identified` — the record of a disk exists, and has an identifier.
* **`getDisks_identified`** — the records are those of the disks to return, each with the identifier
  that comes first, and no two have the same.
-/

import AssistedAgent.Inventory.Eligibility

namespace AssistedAgent.Inventory

open GoPath GoStrings OptionList

/-! ### Identifiers -/

inductive Identifier
  | byID (file : String)
  | byPath (busPath : String)
  | path (name : String)

namespace Identifier

def folder : Identifier → List String
  | byID _ => ["dev", "disk", "by-id"]
  | byPath _ => ["dev", "disk", "by-path"]
  | path _ => ["dev"]

/-- The name in the folder. -/
def last : Identifier → String
  | byID file => file
  | byPath busPath => busPath
  | path name => name

def text (i : Identifier) : String := Path.text ⟨true, i.folder ++ [i.last]⟩

/-- The name is one of a file. -/
def Valid (i : Identifier) : Prop := Path.IsComponent i.last

theorem components_text {i : Identifier} (valid : i.Valid) :
    Path.components i.text = "" :: (i.folder ++ [i.last]) := by
  have folders : ∀ part ∈ i.folder, '/' ∉ part.toList := by
    cases i <;> exact of_decide_eq_true rfl
  apply Path.components_text
  · exact List.append_ne_nil_of_right_ne_nil _ (List.cons_ne_nil _ _)
  · intro part member
    rcases List.mem_append.mp member with member | member
    · exact folders part member
    · rw [List.mem_singleton.mp member]
      exact valid.single

/-- **Identifiers are told apart by their texts.** -/
theorem text_injective {i j : Identifier} (validI : i.Valid) (validJ : j.Valid)
    (same : i.text = j.text) : i = j := by
  have parts_eq : i.folder ++ [i.last] = j.folder ++ [j.last] := by
    have components_eq := congrArg Path.components same
    rw [components_text validI, components_text validJ] at components_eq
    exact List.tail_eq_of_cons_eq components_eq
  obtain ⟨folder_eq, last_eq⟩ := List.append_inj' parts_eq rfl
  cases i <;> cases j <;> simp_all [folder, last]

theorem text_ne_empty (i : Identifier) : i.text ≠ "" := by
  intro empty
  have lengths := congrArg String.toList empty
  simp [text, Path.text] at lengths

end Identifier

theorem join_dev {name : String} (component : Path.IsComponent name) :
    join "/dev" [name] = (Identifier.path name).text := by
  unfold join
  rw [Path.join_component _ component]
  rfl

theorem join_byPath {busPath : String} (component : Path.IsComponent busPath) :
    join "/dev/disk/by-path" [busPath] = (Identifier.byPath busPath).text := by
  unfold join
  rw [Path.join_component _ component]
  rfl

theorem join_byID {file : String} (component : Path.IsComponent file) :
    join byIdLocation [file] = (Identifier.byID file).text := by
  unfold join
  rw [Path.join_component _ component]
  rfl

section Identifiers

variable (d : Dependencies) (disks : List Disk)

/-! ### Hosts -/

/-- A host whose disks and links have names of files, each disk its own and present under `/dev`. -/
structure Named : Prop where
  distinct : (disks.map (·.name)).Nodup
  names : ∀ disk ∈ disks, Path.IsComponent disk.name
  present : ∀ disk ∈ disks, d.stat (join "/dev" [disk.name]) = .ok ()
  busPaths : ∀ disk ∈ disks, disk.busPath = unknown ∨ Path.IsComponent disk.busPath
  links : ∀ file, some file ∈ (d.readDir byIdLocation).1 → Path.IsComponent file.name

/-- A run in which no entry of a listing vanishes before it is inspected (it would be listed as nil),
and the path of a device is resolved to an absolute one. -/
structure Readable : Prop where
  listings : ∀ path, none ∉ (d.readDir path).1
  resolved : ∀ disk ∈ disks, ∀ target,
    d.evalSymlinks (join "/sys" ["block", disk.name]) = .ok target → hasPrefix target "/" = true

/-! ### The disk of an identifier -/

/-- **An identifier of a disk**: a link that resolves to its device file, a bus path that no other disk
of the list has, or its name. -/
def Identifies (disk : Disk) (index : Nat) : Identifier → Prop
  | .byID file => (d.evalSymlinks (Identifier.byID file).text).bind d.abs =
      .ok (Identifier.path disk.name).text
  | .byPath busPath => disk.busPath = busPath ∧
      ∀ other ∈ disks.zipIdx, other.2 ≠ index → other.1.busPath ≠ busPath
  | .path name => disk.name = name

variable {d disks}

theorem Named.index_eq (named : Named d disks) {disk disk' : Disk} {index index' : Nat}
    (member : (disk, index) ∈ disks.zipIdx) (member' : (disk', index') ∈ disks.zipIdx)
    (same : disk.name = disk'.name) : index = index' := by
  obtain ⟨lt, at_⟩ := List.mem_zipIdx' member
  obtain ⟨lt', at'⟩ := List.mem_zipIdx' member'
  have lengths : (disks.map (·.name)).length = disks.length := List.length_map _
  have names : (disks.map (·.name))[index] = (disks.map (·.name))[index'] := by
    rw [List.getElem_map, List.getElem_map, ← at_, ← at', same]
  exact (List.getElem_inj named.distinct).mp names

/-- **An identifier is one of a single disk.** -/
theorem Identifies.index_eq (named : Named d disks) {disk disk' : Disk} {index index' : Nat}
    (member : (disk, index) ∈ disks.zipIdx) (member' : (disk', index') ∈ disks.zipIdx)
    {i : Identifier} (identifies : Identifies d disks disk index i)
    (identifies' : Identifies d disks disk' index' i) : index = index' := by
  cases i with
  | byID file =>
    have texts : (Identifier.path disk.name).text = (Identifier.path disk'.name).text :=
      Except.ok.inj (identifies.symm.trans identifies')
    have paths := Identifier.text_injective (i := .path disk.name) (j := .path disk'.name)
      (named.names disk (List.fst_mem_of_mem_zipIdx member))
      (named.names disk' (List.fst_mem_of_mem_zipIdx member')) texts
    exact named.index_eq member member' (Identifier.path.inj paths)
  | byPath busPath =>
    by_contra other
    exact identifies.2 (disk', index') member' (Ne.symm other) identifies'.1
  | path name => exact named.index_eq member member' (identifies.trans identifies'.symm)

/-! ### Records -/

/-- **The links by id**: each key is what its link resolves to. -/
theorem getDisksWWNs_returns (named : Named d disks) (readable : Readable d disks) :
    ∃ wwns, getDisksWWNs d = some wwns ∧ ∀ pair ∈ wwns, pair.2 = "" ∨
      ∃ file, Path.IsComponent file ∧ pair.2 = (Identifier.byID file).text ∧
        (d.evalSymlinks (Identifier.byID file).text).bind d.abs = .ok pair.1 := by
  unfold getDisksWWNs
  have listed := readable.listings byIdLocation
  have components := named.links
  generalize d.readDir byIdLocation = answer at listed components
  obtain ⟨entries, err⟩ := answer
  cases err with
  | some err => exact ⟨[], rfl, fun pair member => absurd member List.not_mem_nil⟩
  | none =>
    obtain ⟨files, mapped, members⟩ := mapM_id_returns listed
    dsimp only
    rw [mapped]
    refine ⟨_, rfl, ?_⟩
    intro pair member
    obtain ⟨file, matching, rfl⟩ := List.mem_map.mp member
    have component := components file (members file (List.mem_of_mem_filter matching))
    rw [join_byID component]
    split
    · exact Or.inl rfl
    · rename_i diskPath resolved
      exact Or.inr ⟨file.name, component, rfl, resolved⟩

/-- What a map answers other than the empty text is a value of the key. -/
theorem mem_of_lookup {pairs : List (String × String)} {key : String} (found : lookup pairs key ≠ "") :
    (key, lookup pairs key) ∈ pairs := by
  unfold lookup at found ⊢
  cases value : pairs.reverse.lookup key with
  | none => simp [value] at found
  | some text =>
    obtain ⟨before, after, split_, -⟩ := List.lookup_eq_some_iff.mp value
    have member : (key, text) ∈ pairs.reverse := by simp [split_]
    simpa using member

theorem getPath_eq (named : Named d disks) {disk : Disk} (member : disk ∈ disks) :
    getPath d disk.busPath disk.name = (Identifier.path disk.name).text := by
  unfold getPath
  rw [named.present disk member, join_dev (named.names disk member)]

/-- **A bus path that is reported** is one that no other disk has. -/
theorem getBusPath_spec (named : Named d disks) {disk : Disk} {index : Nat} (member : disk ∈ disks)
    (filled : getBusPath d disks index disk.busPath ≠ "") :
    Path.IsComponent disk.busPath ∧
      getBusPath d disks index disk.busPath = (Identifier.byPath disk.busPath).text ∧
      Identifies d disks disk index (.byPath disk.busPath) := by
  unfold getBusPath at filled ⊢
  by_cases isUnknown : disk.busPath = unknown
  · simp [isUnknown] at filled
  have component := (named.busPaths disk member).resolve_left isUnknown
  rw [if_neg isUnknown] at filled ⊢
  split at filled
  · exact absurd rfl filled
  rename_i alone
  rw [if_neg alone]
  refine ⟨component, ?_, rfl, ?_⟩
  · unfold getByPath at filled ⊢
    rw [if_pos isUnknown] at filled ⊢
    split at filled
    · exact join_byPath component
    · exact absurd rfl filled
  · rintro ⟨other, i⟩ listed differs same
    exact alone (List.any_eq_true.mpr ⟨(other, i), listed, by simpa using ⟨differs, same⟩⟩)

theorem findTarget_returns (target : String) {files : List (Option FileInfo)} (filled : none ∉ files) :
    ∃ reasons, findTarget d.readFile target files = some reasons := by
  induction files with
  | nil => exact ⟨_, rfl⟩
  | cons entry files ih =>
    cases entry with
    | none => exact absurd List.mem_cons_self filled
    | some file =>
      obtain ⟨reasons, rest⟩ := ih fun member => filled (List.mem_cons_of_mem _ member)
      unfold findTarget
      rw [rest]
      split
      · exact ⟨_, rfl⟩
      · split
        · exact ⟨_, rfl⟩
        · split <;> exact ⟨_, rfl⟩

theorem checkEligibility_returns (readable : Readable d disks) (disk : Disk) :
    ∃ checked, checkEligibility d disk = some checked := by
  have ibft : ∃ reasons, checkEligibilityISCSIinIBFT d disk = some reasons := by
    unfold checkEligibilityISCSIinIBFT
    split
    · exact ⟨_, rfl⟩
    · split
      · exact ⟨_, rfl⟩
      · split
        · exact ⟨_, rfl⟩
        · rename_i files listed
          apply findTarget_returns
          have filled := readable.listings ibftBasePath
          rwa [listed] at filled
  have iscsi : ∃ reasons, checkISCSI d disk = some reasons := by
    obtain ⟨reasons, checked⟩ := ibft
    unfold checkISCSI
    rw [checked]
    split <;> exact ⟨_, rfl⟩
  obtain ⟨reasons, checked⟩ := iscsi
  unfold checkEligibility checkDevice
  rw [checked]
  exact ⟨_, rfl⟩

theorem getHctl_returns (readable : Readable d disks) (name : String) :
    ∃ hctl, getHctl d name = some hctl := by
  have filled := readable.listings ("/sys/block/" ++ name ++ "/device/scsi_device")
  unfold getHctl
  split
  · exact ⟨_, rfl⟩
  · exact ⟨_, rfl⟩
  · rename_i file files listed
    rw [listed] at filled
    cases file with
    | none => exact absurd List.mem_cons_self filled
    | some file => exact ⟨_, rfl⟩

theorem getHolders_returns (readable : Readable d disks) (name : String) :
    ∃ holders, getHolders d name = some holders := by
  have filled := readable.listings ("/sys/block/" ++ name ++ "/holders")
  unfold getHolders
  split
  · exact ⟨_, rfl⟩
  · rename_i files listed
    rw [listed] at filled
    obtain ⟨names, mapped, -⟩ := mapM_id_returns filled
    rw [mapped]
    exact ⟨_, rfl⟩

/-- A rooted path has an empty component before the first slash. -/
theorem two_le_length_split {path : String} (rooted : hasPrefix path "/" = true) :
    2 ≤ (split path '/').length := by
  obtain ⟨rest, text⟩ := List.isPrefixOf_iff_prefix.mp rooted
  have cut : path.toList.splitOn '/' = [] :: rest.splitOn '/' := by
    rw [← text]
    show List.splitOn '/' ('/' :: rest) = _
    rw [List.splitOn_eq_splitOnP, List.splitOnP_cons_eq_if_modifyHead]
    simp [List.splitOn_eq_splitOnP]
  have more := List.length_pos_iff.mpr (List.splitOn_ne_nil '/' rest)
  unfold split
  rw [cut, List.length_map, List.length_cons]
  omega

theorem getDriveType_returns (readable : Readable d disks) {disk : Disk} (member : disk ∈ disks) :
    ∃ driveType, getDriveType d disk = some driveType := by
  have dasd : ∃ driveType, getDASDType d disk = some driveType := by
    unfold getDASDType
    split
    · exact ⟨_, rfl⟩
    · rename_i target resolved
      have long := two_le_length_split (readable.resolved disk member target resolved)
      dsimp only
      rw [if_neg (by omega)]
      repeat' split
      all_goals exact ⟨_, rfl⟩
  unfold getDriveType
  obtain ⟨driveType, isDriveType⟩ := dasd
  rw [isDriveType]
  repeat' split
  all_goals exact ⟨_, rfl⟩

/-- What a record says about how its disk is found. -/
structure Located (disk : Disk) (r : Record) : Prop where
  name : r.name = disk.name
  path : r.path = (Identifier.path disk.name).text
  id : r.id = if r.byID ≠ "" then r.byID else if r.byPath ≠ "" then r.byPath else r.path

/-- **The record of a disk exists**, and its id is an identifier of the disk. -/
theorem diskRecord_identified (named : Named d disks) (readable : Readable d disks)
    {wwns : List (String × String)} (links : getDisksWWNs d = some wwns) {disk : Disk}
    (member : disk ∈ disks) (index : Nat) :
    ∃ r, diskRecord d disks wwns disk index = some r ∧ Located disk r ∧
      ∃ i : Identifier, i.Valid ∧ r.id = i.text ∧ Identifies d disks disk index i := by
  obtain ⟨checked, isChecked⟩ := checkEligibility_returns readable disk
  obtain ⟨hctl, isHctl⟩ := getHctl_returns readable disk.name
  obtain ⟨driveType, isDriveType⟩ := getDriveType_returns readable member
  obtain ⟨holders, isHolders⟩ := getHolders_returns readable disk.name
  have path := getPath_eq named member
  obtain ⟨wwns', links', resolves⟩ := getDisksWWNs_returns named readable
  cases links.symm.trans links'
  refine ⟨_, Option.bind_eq_some_iff.mpr ⟨checked, isChecked, Option.bind_eq_some_iff.mpr
    ⟨hctl, isHctl, Option.bind_eq_some_iff.mpr ⟨driveType, isDriveType, Option.bind_eq_some_iff.mpr
      ⟨holders, isHolders, rfl⟩⟩⟩⟩, ⟨rfl, path, rfl⟩, ?_⟩
  dsimp only
  rw [path]
  -- The cases are those of the choice of the id.
  by_cases byID : lookup wwns (Identifier.path disk.name).text = ""
  · rw [if_neg (not_not.mpr byID)]
    by_cases byPath : getBusPath d disks index disk.busPath = ""
    · rw [if_neg (not_not.mpr byPath)]
      exact ⟨.path disk.name, named.names disk member, rfl, rfl⟩
    · rw [if_pos byPath]
      obtain ⟨component, text, identifies⟩ := getBusPath_spec named member byPath
      exact ⟨.byPath disk.busPath, component, text, identifies⟩
  · rw [if_pos byID]
    obtain ⟨file, component, text, resolved⟩ := (resolves _ (mem_of_lookup byID)).resolve_left byID
    exact ⟨.byID file, component, text, resolved⟩

theorem pairwise_of_forall₂ {α β : Type} {R : α → β → Prop} {S : α → α → Prop} {T : β → β → Prop}
    {l : List α} {r : List β} (related : List.Forall₂ R l r) (pairs : l.Pairwise S)
    (step : ∀ {a a' b b'}, S a a' → R a b → R a' b' → T b b') : r.Pairwise T := by
  induction related with
  | nil => exact .nil
  | @cons a b l r first rest ih =>
    obtain ⟨head, tail⟩ := List.pairwise_cons.mp pairs
    refine List.pairwise_cons.mpr ⟨?_, ih tail⟩
    intro b' member
    obtain ⟨a', member', other⟩ := exists_left_of_forall₂ rest member
    exact step (head a' member') first other

/-- The id of a record is an identifier of the disk at the index. -/
def IsIdentified (d : Dependencies) (disks : List Disk) (p : Disk × Nat) (r : Record) : Prop :=
  ∃ i : Identifier, i.Valid ∧ r.id = i.text ∧ Identifies d disks p.1 p.2 i

theorem diskRecords_identified (named : Named d disks) (readable : Readable d disks)
    {wwns : List (String × String)} (links : getDisksWWNs d = some wwns) :
    ∃ records, diskRecords d disks wwns = some records ∧
      List.Forall₂ (fun p r => p ∈ disks.zipIdx ∧ Located p.1 r ∧ IsIdentified d disks p r)
        (disks.zipIdx.filter fun p => shouldReturnDisk d p.1) records := by
  obtain ⟨records, returned⟩ : ∃ records, diskRecords d disks wwns = some records := by
    refine mapM_returns fun p listed => ?_
    have member := List.fst_mem_of_mem_zipIdx (List.mem_of_mem_filter listed)
    obtain ⟨r, found, -⟩ := diskRecord_identified named readable links member p.2
    exact ⟨r, found⟩
  refine ⟨records, returned, ?_⟩
  have members := (List.forall₂_and_left _ _).mpr
    ⟨fun p listed => List.mem_of_mem_filter listed, mapM_eq_some.mp returned⟩
  refine members.imp fun p r found => ?_
  obtain ⟨listed, found⟩ := found
  obtain ⟨r', found', located, identified⟩ := diskRecord_identified named readable links
    (List.fst_mem_of_mem_zipIdx listed) p.2
  cases found.symm.trans found'
  exact ⟨listed, located, identified⟩

theorem zipIdx_pairwise (disks : List Disk) : disks.zipIdx.Pairwise fun p q => p.2 ≠ q.2 := by
  have indices : (disks.zipIdx.map Prod.snd).Pairwise (· < ·) := by
    rw [List.zipIdx_map_snd]
    exact List.pairwise_lt_range' 1
  exact (List.pairwise_map.mp indices).imp fun less => Nat.ne_of_lt less

/-- **The identifiers are unique.** -/
theorem getDisks_identified (block : d.block = .ok disks)
    (noAppliance : ∀ disk ∈ disks, isAppliance d disk = false) (named : Named d disks)
    (readable : Readable d disks) :
    ∃ records, getDisks d = some records ∧
      List.Forall₂ Located (disks.filter (shouldReturnDisk d)) records ∧
      (records.map (·.id)).Nodup ∧ ∀ r ∈ records, r.id ≠ "" := by
  obtain ⟨wwns, links, -⟩ := getDisksWWNs_returns named readable
  obtain ⟨records, returned, related⟩ := diskRecords_identified named readable links
  refine ⟨records, ?_, ?_, ?_, ?_⟩
  · rw [getDisks_eq d block noAppliance, links]
    split
    · rename_i empty
      subst empty
      exact returned
    · exact returned
  · rw [filter_eq_map_zipIdx, List.forall₂_map_left_iff]
    exact related.imp fun p r found => found.2.1
  · rw [List.nodup_iff_pairwise_ne, List.pairwise_map]
    refine pairwise_of_forall₂ related ((zipIdx_pairwise disks).filter _) ?_
    rintro p q r s other ⟨listed, -, i, valid, text, identifies⟩
      ⟨listed', -, j, valid', text', identifies'⟩ same
    have identifiers : i = j := Identifier.text_injective valid valid' (text ▸ text' ▸ same)
    subst identifiers
    exact other (identifies.index_eq named listed listed' identifies')
  · intro r member
    obtain ⟨p, -, -, -, i, -, text, -⟩ := exists_left_of_forall₂ related member
    rw [text]
    exact i.text_ne_empty

end Identifiers

/-- Two disks on one bus path, the first with two links by id and a third link that is broken. -/
def linkedHost : Dependencies :=
  { plainHost [plainDisk "sda" [], plainDisk "sdb" []] with
    readDir := fun path =>
      if path = byIdLocation then
        ([some ⟨"wwn-0x5000", false, true⟩, some ⟨"nvme-eui.01", false, true⟩,
          some ⟨"wwn-0x5001", false, true⟩], none)
      else ([], none)
    evalSymlinks := fun path =>
      if path = "/dev/disk/by-id/wwn-0x5001" then .error "no such file or directory"
      else .ok "/dev/sda" }

theorem getDisks_identified_linked :
    (getDisks linkedHost).map (List.map (·.id)) =
        some ["/dev/disk/by-id/nvme-eui.01", "/dev/sdb"] ∧
      ∃ records, getDisks linkedHost = some records ∧
        List.Forall₂ Located [plainDisk "sda" [], plainDisk "sdb" []] records ∧
        (records.map (·.id)).Nodup ∧ ∀ r ∈ records, r.id ≠ "" := by
  refine ⟨by decide +kernel, getDisks_identified (d := linkedHost) rfl (by decide) ?_ ?_⟩
  · refine ⟨by decide, by decide, fun disk _ => rfl, by decide, ?_⟩
    intro file member
    have listed : file.name ∈ ["wwn-0x5000", "nvme-eui.01", "wwn-0x5001"] := by
      have entries : (linkedHost.readDir byIdLocation).1 =
        [some ⟨"wwn-0x5000", false, true⟩, some ⟨"nvme-eui.01", false, true⟩,
          some ⟨"wwn-0x5001", false, true⟩] := rfl
      rw [entries] at member
      simp only [List.mem_cons, Option.some.injEq, List.not_mem_nil, or_false] at member
      rcases member with rfl | rfl | rfl <;> simp
    revert listed
    generalize file.name = name
    revert name
    decide
  · refine ⟨fun path => ?_, ?_⟩
    · unfold linkedHost
      dsimp only
      split <;> simp
    · intro disk _ target resolved
      unfold linkedHost at resolved
      dsimp only at resolved
      split at resolved
      · cases resolved
      · cases resolved
        decide

end AssistedAgent.Inventory
