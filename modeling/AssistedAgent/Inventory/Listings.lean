/-
**Directory listings whose entries vanish.**

`Dependencies.ReadDir` lists a directory and then asks each entry for its `Info`. It drops the error of
an entry that has been removed in between, and appends a nil `FileInfo` in its place. The functions
that go through a listing call its methods.

* `none_mem_readDir_iff` — a listing has a nil entry exactly if an entry has vanished.
* `Tolerant run d os` — what `run` returns is what it returns without the entries that have vanished.
* **`listings_tolerant_iff`** — for each of the functions, the listings that it tolerates: no entry that
  it comes to has vanished.
* `listings_intolerant` — one vanished entry is enough.
-/

import AssistedAgent.Inventory.Identifiers

namespace AssistedAgent.Inventory

open GoPath GoStrings OptionList

/-! ### `Dependencies.ReadDir` -/

/-- An entry of a listing, by what its `Info` answers afterwards. -/
structure DirEntry where
  info : Except String FileInfo
deriving Repr

def DirEntry.remains (entry : DirEntry) : Bool := entry.info.isOk

/-- What `os.ReadDir` returns: entries or nil, and an error. -/
abbrev Listing := Option (List DirEntry) × Option String

/-- `Dependencies.ReadDir`. The `Info` of an entry that has vanished is nil beside its error. -/
def readDir (os : String → Listing) (dirname : String) : List (Option FileInfo) × Option String :=
  match os dirname with
  | (some dirEntry, err) => (dirEntry.map fun entry => entry.info.toOption, err)
  | (none, err) => ([], err)

/-- The dependencies over these directories. -/
def withListing (d : Dependencies) (os : String → Listing) : Dependencies :=
  { d with readDir := readDir os }

section Listings

variable (os : String → Listing) (dirname : String)

def entries : List DirEntry := (os dirname).1.getD []

/-- The listings without the entries that have vanished. -/
def remaining : String → Listing :=
  fun dirname => ((os dirname).1.map (·.filter DirEntry.remains), (os dirname).2)

/-- No entry of the directory has vanished. -/
def AllRemain : Prop := ∀ entry ∈ entries os dirname, entry.remains = true

theorem readDir_eq :
    readDir os dirname = ((entries os dirname).map fun entry => entry.info.toOption,
      (os dirname).2) := by
  unfold readDir entries
  obtain ⟨dirEntry, err⟩ := os dirname
  cases dirEntry <;> rfl

theorem entries_remaining :
    entries (remaining os) dirname = (entries os dirname).filter DirEntry.remains := by
  unfold entries remaining
  cases (os dirname).1 <;> rfl

theorem remaining_err : (remaining os dirname).2 = (os dirname).2 := rfl

theorem toOption_eq_none_iff (entry : DirEntry) :
    entry.info.toOption = none ↔ entry.remains = false := by
  obtain ⟨info⟩ := entry
  cases info with
  | error err => exact ⟨fun _ => rfl, fun _ => rfl⟩
  | ok file => exact ⟨nofun, nofun⟩

/-- **A nil entry is one that has vanished.** -/
theorem none_mem_readDir_iff : none ∈ (readDir os dirname).1 ↔ ¬ AllRemain os dirname := by
  rw [readDir_eq, AllRemain]
  simp only [List.mem_map, toOption_eq_none_iff]
  push Not
  simp only [ne_eq, Bool.not_eq_true]

theorem readDir_remaining (all : AllRemain os dirname) :
    readDir (remaining os) dirname = readDir os dirname := by
  rw [readDir_eq, readDir_eq, entries_remaining, List.filter_eq_self.mpr all]
  rfl

end Listings

/-! ### What the functions make of a listing -/

/-- A function returns, and returns what it would if the entries that have vanished had never been
listed. -/
def Tolerant {α : Type} (run : Dependencies → Option α) (d : Dependencies) (os : String → Listing) :
    Prop :=
  ∃ result, run (withListing d os) = some result ∧ run (withListing d (remaining os)) = some result

section Functions

variable {d : Dependencies} {os : String → Listing}

/-- A function that goes through all entries of one directory: it returns `failed` if the directory
cannot be listed, and ends at a nil entry. -/
structure GoesThrough {α : Type} (run : Dependencies → Option α) (d : Dependencies) (dirname : String)
    (failed : α) : Prop where
  unlisted : ∀ os, (os dirname).2 ≠ none → run (withListing d os) = some failed
  listed : ∀ os, (os dirname).2 = none →
    (run (withListing d os) = none ↔ none ∈ (readDir os dirname).1)
  frame : ∀ os os', readDir os' dirname = readDir os dirname →
    run (withListing d os') = run (withListing d os)

theorem GoesThrough.tolerant_iff {α : Type} {run : Dependencies → Option α} {dirname : String}
    {failed : α} (through : GoesThrough run d dirname failed) :
    Tolerant run d os ↔ (os dirname).2 ≠ none ∨ AllRemain os dirname := by
  by_cases err : (os dirname).2 = none
  · have remain_iff : AllRemain os dirname ↔ run (withListing d os) ≠ none := by
      rw [Ne, through.listed os err, none_mem_readDir_iff, not_not]
    constructor
    · rintro ⟨result, returned, -⟩
      right
      rw [remain_iff, returned]
      exact nofun
    · rintro (failed | remain)
      · exact absurd err failed
      · obtain ⟨result, returned⟩ := Option.ne_none_iff_exists'.mp (remain_iff.mp remain)
        have same := through.frame os (remaining os) (readDir_remaining os dirname remain)
        exact ⟨result, returned, same.trans returned⟩
  · exact iff_of_true ⟨failed, through.unlisted os err, through.unlisted (remaining os) err⟩ (.inl err)

theorem getDisksWWNs_goesThrough (d : Dependencies) : GoesThrough getDisksWWNs d byIdLocation [] where
  unlisted os failed := by
    obtain ⟨err, is⟩ := Option.ne_none_iff_exists'.mp failed
    simp only [getDisksWWNs, withListing, readDir_eq, is]
  listed os err := by
    simp only [getDisksWWNs, withListing, readDir_eq, err]
    rw [← mapM_id_eq_none_iff]
    cases ((entries os byIdLocation).map fun entry => entry.info.toOption).mapM id with
    | none => exact iff_of_true rfl rfl
    | some files => exact ⟨nofun, nofun⟩
  frame os os' same := by
    simp only [getDisksWWNs, withListing, same]

theorem getHolders_goesThrough (d : Dependencies) (diskName : String) :
    GoesThrough (getHolders · diskName) d ("/sys/block/" ++ diskName ++ "/holders") "" where
  unlisted os failed := by
    obtain ⟨err, is⟩ := Option.ne_none_iff_exists'.mp failed
    simp only [getHolders, withListing, readDir_eq, is]
  listed os err := by
    simp only [getHolders, withListing, readDir_eq, err]
    rw [← mapM_id_eq_none_iff]
    cases ((entries os _).map fun entry => entry.info.toOption).mapM id with
    | none => exact iff_of_true rfl rfl
    | some files => exact ⟨nofun, nofun⟩
  frame os os' same := by
    simp only [getHolders, withListing, same]

/-- **The first entry of a SCSI device.** -/
theorem getHctl_tolerant_iff (d : Dependencies) (os : String → Listing) (name : String) :
    Tolerant (getHctl · name) d os ↔
      (os ("/sys/block/" ++ name ++ "/device/scsi_device")).2 ≠ none ∨
        ∀ entry ∈ (entries os ("/sys/block/" ++ name ++ "/device/scsi_device")).head?,
          entry.remains = true := by
  simp only [Tolerant, getHctl, withListing, readDir_eq, entries_remaining, remaining_err]
  generalize entries os ("/sys/block/" ++ name ++ "/device/scsi_device") = listed
  generalize (os ("/sys/block/" ++ name ++ "/device/scsi_device")).2 = err
  cases err with
  | some err => exact iff_of_true ⟨"", rfl, rfl⟩ (.inl nofun)
  | none =>
    match listed with
    | [] => exact iff_of_true ⟨"", rfl, rfl⟩ (.inr nofun)
    | ⟨.ok file⟩ :: rest =>
      refine iff_of_true ⟨file.name, rfl, rfl⟩ (.inr ?_)
      rintro entry ⟨⟩
      rfl
    | ⟨.error gone⟩ :: rest =>
      refine iff_of_false ?_ ?_
      · rintro ⟨result, returned, -⟩
        cases returned
      · rintro (failed | remains)
        · exact failed rfl
        · cases remains _ rfl

/-- The scan comes to no entry that has vanished. -/
def ScanRemains (d : Dependencies) (target : String) (listed : List DirEntry) : Prop :=
  ∀ before entry after, listed = before ++ entry :: after →
    (∀ earlier ∈ before, ∀ file, earlier.info = .ok file → ¬ NamesTarget d target file) →
    entry.remains = true

theorem scanRemains_of_names {d : Dependencies} {target : String} {file : FileInfo}
    (names : NamesTarget d target file) (rest : List DirEntry) :
    ScanRemains d target (⟨.ok file⟩ :: rest) := by
  intro before entry after split others
  cases before with
  | nil =>
    cases split
    rfl
  | cons earlier before =>
    cases split
    exact absurd names (others _ List.mem_cons_self file rfl)

theorem scanRemains_cons_iff {d : Dependencies} {target : String} {file : FileInfo}
    (other : ¬ NamesTarget d target file) {rest : List DirEntry} :
    ScanRemains d target (⟨.ok file⟩ :: rest) ↔ ScanRemains d target rest := by
  constructor
  · intro all before entry after split others
    refine all (⟨.ok file⟩ :: before) entry after (by rw [split, List.cons_append]) ?_
    rintro earlier member file' is
    rcases List.mem_cons.mp member with rfl | member
    · cases is
      exact other
    · exact others earlier member file' is
  · intro all before entry after split others
    cases before with
    | nil =>
      cases split
      rfl
    | cons earlier before =>
      cases split
      exact all before entry after rfl fun earlier member =>
        others earlier (List.mem_cons_of_mem _ member)

/-- **The scan of the iBFT** passes over the entries without the target, up to one with it or one that
has vanished. -/
theorem findTarget_remaining (d : Dependencies) (target : String) (listed : List DirEntry) :
    (ScanRemains d target listed → ∃ reasons,
      findTarget d.readFile target (listed.map fun entry => entry.info.toOption) = some reasons ∧
        findTarget d.readFile target ((listed.filter DirEntry.remains).map fun entry =>
          entry.info.toOption) = some reasons) ∧
    (¬ ScanRemains d target listed →
      findTarget d.readFile target (listed.map fun entry => entry.info.toOption) = none) := by
  induction listed with
  | nil =>
    refine ⟨fun _ => ⟨_, rfl, rfl⟩, fun stopped => absurd ?_ stopped⟩
    intro before entry after empty
    simp at empty
  | cons first rest ih =>
    obtain ⟨info⟩ := first
    cases info with
    | error gone =>
      refine ⟨fun all => ?_, fun _ => rfl⟩
      cases all [] ⟨.error gone⟩ rest rfl nofun
    | ok file =>
      rw [List.filter_cons_of_pos rfl, List.map_cons, List.map_cons]
      show (_ → ∃ reasons, findTarget d.readFile target (some file :: _) = _ ∧
        findTarget d.readFile target (some file :: _) = _) ∧
        (_ → findTarget d.readFile target (some file :: _) = _)
      by_cases names : NamesTarget d target file
      · simp only [findTarget_found d names]
        exact ⟨fun _ => ⟨[], rfl, rfl⟩, fun stopped => absurd (scanRemains_of_names names rest) stopped⟩
      · simp only [findTarget_skip d names, scanRemains_cons_iff names]
        exact ih

/-- **The check against the iBFT.** -/
theorem checkEligibilityISCSIinIBFT_tolerant_iff (d : Dependencies) (os : String → Listing)
    (disk : Disk) :
    Tolerant (checkEligibilityISCSIinIBFT · disk) d os ↔
      ∀ target, SessionTarget d disk target →
        (os ibftBasePath).2 ≠ none ∨ ScanRemains d target (entries os ibftBasePath) := by
  have session (os' : String → Listing) :
      getISCSISession (withListing d os') disk.name = getISCSISession d disk.name := rfl
  simp only [Tolerant, checkEligibilityISCSIinIBFT, session]
  cases found : getISCSISession d disk.name with
  | error err =>
    refine iff_of_true ⟨_, rfl, rfl⟩ ?_
    rintro target ⟨name, data, is, -⟩
    cases found.symm.trans is
  | ok name =>
    simp only [withListing]
    cases read : d.readFile (join "/sys/class/iscsi_session" [name, "targetname"]) with
    | error err =>
      refine iff_of_true ⟨_, rfl, rfl⟩ ?_
      rintro target ⟨name', data, is, read', -⟩
      cases found.symm.trans is
      cases read.symm.trans read'
    | ok data =>
      have target_iff (target : String) : SessionTarget d disk target ↔ target = trimSpace data := by
        constructor
        · rintro ⟨name', data', is, read', rfl⟩
          cases found.symm.trans is
          cases read.symm.trans read'
          rfl
        · rintro rfl
          exact ⟨name, data, found, read, rfl⟩
      simp only [readDir_eq, entries_remaining, remaining_err, target_iff, forall_eq]
      cases (os ibftBasePath).2 with
      | some err => exact iff_of_true ⟨_, rfl, rfl⟩ (.inl (Option.some_ne_none err))
      | none =>
        obtain ⟨returns, ends⟩ :=
          findTarget_remaining d (trimSpace data) (entries os ibftBasePath)
        constructor
        · rintro ⟨reasons, returned, -⟩
          right
          by_contra stopped
          cases (ends stopped).symm.trans returned
        · rintro (failed | remain)
          · exact absurd rfl failed
          · exact returns remain

/-- **Vanished entries are tolerated only where no function comes to one**: `ReadDir` passes all of them
on, and each function ends at the first that it calls. -/
theorem listings_tolerant_iff (d : Dependencies) (os : String → Listing) :
    (∀ dirname, none ∉ (readDir os dirname).1 ↔ AllRemain os dirname) ∧
      (Tolerant getDisksWWNs d os ↔ (os byIdLocation).2 ≠ none ∨ AllRemain os byIdLocation) ∧
      (∀ diskName, Tolerant (getHolders · diskName) d os ↔
        (os ("/sys/block/" ++ diskName ++ "/holders")).2 ≠ none ∨
          AllRemain os ("/sys/block/" ++ diskName ++ "/holders")) ∧
      (∀ name, Tolerant (getHctl · name) d os ↔
        (os ("/sys/block/" ++ name ++ "/device/scsi_device")).2 ≠ none ∨
          ∀ entry ∈ (entries os ("/sys/block/" ++ name ++ "/device/scsi_device")).head?,
            entry.remains = true) ∧
      (∀ disk, Tolerant (checkEligibilityISCSIinIBFT · disk) d os ↔
        ∀ target, SessionTarget d disk target →
          (os ibftBasePath).2 ≠ none ∨ ScanRemains d target (entries os ibftBasePath)) := by
  refine ⟨?_, (getDisksWWNs_goesThrough d).tolerant_iff, ?_, getHctl_tolerant_iff d os,
    checkEligibilityISCSIinIBFT_tolerant_iff d os⟩
  · intro dirname
    rw [none_mem_readDir_iff, not_not]
  · intro diskName
    exact (getHolders_goesThrough d diskName).tolerant_iff

end Functions

/-! ### A disk that is unplugged -/

/-- Every directory lists two disks, of which the first is gone when it is asked for. -/
def unpluggedDisk : String → Listing
  | _ => (some [⟨.error "lstat: no such file or directory"⟩, ⟨.ok ⟨"wwn-0x5000", false, true⟩⟩], none)

/-- **One vanished entry ends each of the functions**, which would have returned without it. -/
theorem listings_intolerant :
    (readDir unpluggedDisk "/").1 = [none, some ⟨"wwn-0x5000", false, true⟩] ∧
      getDisksWWNs (withListing (plainHost []) unpluggedDisk) = none ∧
      getHolders (withListing (plainHost []) unpluggedDisk) "sda" = none ∧
      getHctl (withListing (plainHost []) unpluggedDisk) "sda" = none ∧
      getDisksWWNs (withListing (plainHost []) (remaining unpluggedDisk)) =
        some [("/dev/disk/by-id/wwn-0x5000", "/dev/disk/by-id/wwn-0x5000")] ∧
      getHolders (withListing (plainHost []) (remaining unpluggedDisk)) "sda" = some "wwn-0x5000" ∧
      getHctl (withListing (plainHost []) (remaining unpluggedDisk)) "sda" = some "wwn-0x5000" := by
  decide +kernel

end AssistedAgent.Inventory
