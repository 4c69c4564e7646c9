/-
**The disks of the inventory.**

The functions of `disks.go` over what the dependencies answer, which is the same whenever they are
asked the same. `none` is a panic: a nil entry of a directory listing, whose methods are called, or a
resolved path of a DASD that has too few components to cut.
-/

import AssistedAgent.Lib.GoPath
import AssistedAgent.Lib.GoStrings

namespace AssistedAgent.Inventory

open GoPath GoStrings

/-! ### Block devices and records -/

/-- `ghw.DriveType`. -/
inductive GhwDriveType
  | unknown
  | hdd
  | fdd
  | odd
  | ssd
  | virtual
deriving DecidableEq, Repr

/-- `ghw.StorageController`. -/
inductive StorageController
  | unknown
  | ide
  | scsi
  | nvme
  | virtio
  | mmc
  | loop
deriving DecidableEq, Repr

/-- `ghw.Partition`. -/
structure Partition where
  name : String
  label : String
  mountPoint : String
deriving DecidableEq, Repr

/-- `ghw.Disk`. -/
structure Disk where
  name : String
  sizeBytes : UInt64
  driveType : GhwDriveType
  isRemovable : Bool
  storageController : StorageController
  busPath : String
  vendor : String
  model : String
  serialNumber : String
  wwn : String
  partitions : List Partition
deriving DecidableEq

/-- `models.DriveType`. -/
inductive DriveType
  | unknown
  | hdd
  | fdd
  | odd
  | ssd
  | virtual
  | multipath
  | iscsi
  | fc
  | lvm
  | raid
  | eckd
  | eckdEse
  | fba
deriving DecidableEq, Repr

/-- `models.DiskInstallationEligibility`. -/
structure Eligibility where
  eligible : Bool
  notEligibleReasons : List String
deriving DecidableEq, Repr

/-- `models.Disk`. -/
structure Record where
  byID : String
  byPath : String
  hctl : String
  id : String
  model : String
  name : String
  path : String
  driveType : DriveType
  serial : String
  sizeBytes : Int64
  vendor : String
  wwn : String
  bootable : Bool
  removable : Bool
  smart : String
  isInstallationMedia : Bool
  installationEligibility : Eligibility
  hasUUID : Bool
  holders : String
  /-- `Iscsi`, by its `HostIPAddress`. -/
  iscsi : Option String
deriving DecidableEq

/-! ### Dependencies -/

/-- `os.FileInfo`. -/
structure FileInfo where
  name : String
  isDir : Bool
  isSymlink : Bool
deriving DecidableEq, Repr

/-- What `util.IDependencies` answers. An entry of a listing may be nil. -/
structure Dependencies where
  execute : String → List String → String × String × Int
  readFile : String → Except String String
  stat : String → Except String Unit
  block : Except String (List Disk)
  readDir : String → List (Option FileInfo) × Option String
  abs : String → Except String String
  evalSymlinks : String → Except String String

/-- `filepath.Join`. -/
def join (first : String) (elements : List String) : String :=
  ((Path.clean first).join elements).text

/-- `ghwutil.UNKNOWN`. -/
def unknown : String := "unknown"

def applianceAgentPrefix : String := "agent"

def byIdLocation : String := "/dev/disk/by-id"

def ibftBasePath : String := "/sys/firmware/ibft"

def wwnPrefix : String := "wwn-"

def getPureWWN (wwn byId : String) : String :=
  if wwn = unknown then trimPrefix byId (byIdLocation ++ "/" ++ wwnPrefix) else wwn

def unknownToEmpty (value : String) : String := if value = unknown then "" else value

def isDeviceMapper (disk : Disk) : Bool := hasPrefix disk.name "dm-"

def isISCSIDisk (disk : Disk) : Bool := contains disk.busPath "-iscsi-"

def isFCDisk (disk : Disk) : Bool := contains disk.busPath "-fc-" || hasPrefix disk.busPath "fc-"

def isMultipleDevices (disk : Disk) : Bool := hasPrefix disk.name "md"

def isDASD (disk : Disk) : Bool := hasPrefix disk.name "dasd"

/-- The scan of the iBFT for a target. -/
def findTarget (readFile : String → Except String String) (iSCSITarget : String) :
    List (Option FileInfo) → Option (List String)
  | [] => some ["iSCSI disk is missing from iBFT"]
  | none :: _ => none
  | some file :: files =>
    if ! file.isDir || ! contains file.name "target" then findTarget readFile iSCSITarget files
    else
      match readFile (join ibftBasePath [file.name, "target-name"]) with
      | .error _ => findTarget readFile iSCSITarget files
      | .ok ibftTargetData =>
        if trimSpace ibftTargetData = iSCSITarget then some []
        else findTarget readFile iSCSITarget files

section Disks

variable (d : Dependencies)

/-! ### Paths and names -/

/-- The by-id links, as pairs of disk path and disk id in the order of the listing. One that cannot be
resolved is a pair of empty texts. -/
def getDisksWWNs : Option (List (String × String)) :=
  match d.readDir byIdLocation with
  | (_, some _) => some []
  | (filesInfo, none) => do
    let filesInfo ← filesInfo.mapM id
    let matchingFiles := filesInfo.filter fun fileInfo =>
      (hasPrefix (base fileInfo.name) wwnPrefix || hasPrefix (base fileInfo.name) "nvme-eui") &&
        fileInfo.isSymlink
    some (matchingFiles.map fun fileInfo =>
      let diskId := join byIdLocation [fileInfo.name]
      match (d.evalSymlinks diskId).bind d.abs with
      | .error _ => ("", "")
      | .ok diskPath => (diskPath, diskId))

/-- The value of a key in a map that was filled in this order: the latest one, or the empty text. -/
def lookup (pairs : List (String × String)) (key : String) : String :=
  (pairs.reverse.lookup key).getD ""

def getPath (busPath diskName : String) : String :=
  match d.stat (join "/dev" [diskName]) with
  | .ok () => join "/dev" [diskName]
  | .error _ =>
    match (d.evalSymlinks (join "/dev/disk/by-path" [busPath])).bind d.abs with
    | .error _ => ""
    | .ok path => path

def getByPath (busPath : String) : String :=
  if busPath ≠ unknown then
    match d.stat (join "/dev/disk/by-path" [busPath]) with
    | .ok () => join "/dev/disk/by-path" [busPath]
    | .error _ => ""
  else ""

/-- `getBusPath`, for the disk at an index of the list. -/
def getBusPath (disks : List Disk) (index : Nat) (busPath : String) : String :=
  if busPath = unknown then ""
  else if disks.zipIdx.any fun (disk, i) => i ≠ index && disk.busPath = busPath then ""
  else getByPath d busPath

def getHctl (name : String) : Option String :=
  match d.readDir ("/sys/block/" ++ name ++ "/device/scsi_device") with
  | (_, some _) => some ""
  | ([], none) => some ""
  | (file :: _, none) => file.map (·.name)

def getHolders (diskName : String) : Option String :=
  match d.readDir ("/sys/block/" ++ diskName ++ "/holders") with
  | (_, some _) => some ""
  | (files, none) => do
    let files ← files.mapM id
    some (",".intercalate (files.map (·.name)))

def getBootable (path : String) : Bool :=
  if path = "" then false
  else
    match d.execute "file" ["-s", path] with
    | (stdout, _, exitCode) => exitCode = 0 && contains stdout "DOS/MBR boot sector"

def hasUUID (path : String) : Bool :=
  if path = "" then false
  else
    match d.execute "sg_inq" ["-p", "0x83", path] with
    | (_, _, exitCode) => exitCode = 0

/-! ### Kinds of disks -/

def dmUUIDHasPrefix (disk : Disk) (start : String) : Bool :=
  if isDeviceMapper disk then
    match d.readFile (join "/sys" ["block", disk.name, "dm", "uuid"]) with
    | .error _ => false
    | .ok b => hasPrefix b start
  else false

def isMultipath (disk : Disk) : Bool := dmUUIDHasPrefix d disk "mpath-"

def isLVM (disk : Disk) : Bool := dmUUIDHasPrefix d disk "LVM-"

def isAppliance (disk : Disk) : Bool :=
  if hasPrefix disk.name "dm-" then
    match d.readFile (join "/sys" ["block", disk.name, "dm", "name"]) with
    | .error _ => false
    | .ok dmName => hasPrefix dmName applianceAgentPrefix
  else false

def isHiddenDevice (disk : Disk) : Bool :=
  match d.readFile (join "/sys" ["block", disk.name, "hidden"]) with
  | .error _ => false
  | .ok b => trimSpace b = "1"

def getDASDType (disk : Disk) : Option DriveType :=
  match d.evalSymlinks (join "/sys" ["block", disk.name]) with
  | .error _ => some .unknown
  | .ok sysDevicesPath =>
    let splitPath := split sysDevicesPath '/'
    if splitPath.length < 2 then none
    else
      let sibling (name : String) := "/".intercalate (splitPath.take (splitPath.length - 2) ++ [name])
      match d.readFile (sibling "discipline") with
      | .error _ => some .unknown
      | .ok data =>
        if trimSpace data = "ECKD" then
          match d.readFile (sibling "ese") with
          | .error _ => some .unknown
          | .ok data => if trimSpace data = "1" then some .eckdEse else some .eckd
        else if trimSpace data = "FBA" then some .fba
        else some .unknown

def getDriveType (disk : Disk) : Option DriveType :=
  if isDASD disk then getDASDType d disk
  else if isISCSIDisk disk then some .iscsi
  else if isFCDisk disk then some .fc
  else if isMultipath d disk then some .multipath
  else if isLVM d disk then some .lvm
  else if isMultipleDevices disk then some .raid
  else
    match disk.driveType with
    | .fdd => some .fdd
    | .hdd => some .hdd
    | .odd => some .odd
    | .ssd => some .ssd
    | .unknown => some .unknown
    | .virtual => some .unknown

def shouldReturnDisk (disk : Disk) : Bool :=
  ! (isHiddenDevice d disk ||
    (hasPrefix disk.name "dm-" && ! (isMultipath d disk || isLVM d disk)) ||
    hasPrefix disk.name "loop" || hasPrefix disk.name "zram")

/-! ### iSCSI -/

/-- A component of the resolved path of a disk, counted from the empty one before the first slash. -/
def getISCSIProperty (diskName : String) (propertyIndex : Nat) : Except String String :=
  match d.evalSymlinks (join "/sys" ["block", diskName]) with
  | .error err => .error err
  | .ok sysDevicesPath =>
    match (split sysDevicesPath '/')[propertyIndex]? with
    | none => .error ("Index " ++ toString propertyIndex ++
        " is above the number of components in path " ++ sysDevicesPath)
    | some property => .ok property

def getISCSIHost (diskName : String) : Except String String := getISCSIProperty d diskName 4

def getISCSISession (diskName : String) : Except String String := getISCSIProperty d diskName 5

def getISCSIHostIPAddress (diskName : String) : String :=
  match getISCSIHost d diskName with
  | .error _ => ""
  | .ok iSCSIHost =>
    match d.readFile (join "/sys/class/iscsi_host" [iSCSIHost, "ipaddress"]) with
    | .error _ => ""
    | .ok data => trimSpace data

def checkEligibilityISCSIState (disk : Disk) : List String :=
  match d.readFile (join "/sys/block" [disk.name, "device/state"]) with
  | .error _ => ["Failed to read state of iSCSI disk"]
  | .ok state =>
    if trimSpace state ≠ "running" then ["iSCSI disk is not in running state"] else []

def checkEligibilityISCSIinIBFT (disk : Disk) : Option (List String) :=
  match getISCSISession d disk.name with
  | .error _ => some ["Cannot find iSCSI session"]
  | .ok iSCSISession =>
    match d.readFile (join "/sys/class/iscsi_session" [iSCSISession, "targetname"]) with
    | .error _ => some ["Cannot find iSCSI target name"]
    | .ok data =>
      match d.readDir ibftBasePath with
      | (_, some _) => some ["iBFT firmware is missing"]
      | (files, none) => findTarget d.readFile (trimSpace data) files

/-! ### Eligibility -/

/-- One round of the loop over the partitions. -/
def checkPartition (checked : List String × Bool) (partition : Partition) : List String × Bool :=
  let (notEligibleReasons, isInstallationMedia) :=
    if hasSuffix partition.mountPoint "iso" then
      (checked.1 ++ ["Disk appears to be an ISO installation media (has partition with " ++
        "mountpoint suffix iso)"], true)
    else checked
  if isInstallationMedia then (notEligibleReasons, isInstallationMedia)
  else if partition.mountPoint ≠ "" then
    (notEligibleReasons ++ ["Disk has partition '" ++ partition.name ++ "' mounted on '" ++
      partition.mountPoint ++ "'"], isInstallationMedia)
  else (notEligibleReasons, isInstallationMedia)

/-- The two checks of an iSCSI disk. -/
def checkISCSI (disk : Disk) : Option (List String) :=
  if isISCSIDisk disk then
    (checkEligibilityISCSIinIBFT d disk).map (checkEligibilityISCSIState d disk ++ ·)
  else some []

/-- `checkEligibility` up to the partitions. -/
def checkDevice (disk : Disk) : Option (List String) :=
  let controller :=
    if disk.storageController = .unknown && ! isMultipath d disk && ! isLVM d disk &&
      ! isDASD disk && ! isMultipleDevices disk then ["Disk has unknown storage controller"] else []
  let lvm := if isLVM d disk then ["Disk is an LVM logical volume"] else []
  (checkISCSI d disk).map (controller ++ lvm ++ ·)

/-- `checkEligibility` from the partitions on. -/
def checkPartitions (notEligibleReasons : List String) (partitions : List Partition) :
    List String × Bool :=
  if partitions.any fun partition => hasPrefix partition.label applianceAgentPrefix then
    (notEligibleReasons, false)
  else partitions.foldl checkPartition (notEligibleReasons, false)

def checkEligibility (disk : Disk) : Option (List String × Bool) :=
  (checkDevice d disk).map fun notEligibleReasons => checkPartitions notEligibleReasons disk.partitions

/-! ### Records -/

/-- The record of the appliance's device, with the others for its UUID. -/
def applianceRecord (wwns : List (String × String)) (blockDisks : List Disk) (dmDevice : Disk) :
    Record :=
  let path := getPath d dmDevice.busPath dmDevice.name
  { byID := lookup wwns path
    byPath := getByPath d dmDevice.busPath
    hctl := ""
    id := ""
    model := ""
    name := dmDevice.name
    path := path
    driveType := .ssd
    serial := ""
    sizeBytes := 100 * 2 ^ 30
    vendor := ""
    wwn := ""
    bootable := false
    removable := false
    smart := ""
    isInstallationMedia := false
    installationEligibility := ⟨true, []⟩
    hasUUID := blockDisks.any fun blockDisk => hasUUID d (getPath d blockDisk.busPath blockDisk.name)
    holders := ""
    iscsi := none }

def getApplianceDisks (blockDisks : List Disk) : Option (List Record) :=
  match blockDisks.find? (isAppliance d) with
  | none => some []
  | some dmDevice => (getDisksWWNs d).map fun wwns => [applianceRecord d wwns blockDisks dmDevice]

/-- The record of a disk that is returned. -/
def diskRecord (disks : List Disk) (diskPath2diskWWN : List (String × String)) (disk : Disk)
    (diskIndex : Nat) : Option Record := do
  let (notEligibleReasons, isInstallationMedia) ← checkEligibility d disk
  let hctl ← getHctl d disk.name
  let driveType ← getDriveType d disk
  let holders ← getHolders d disk.name
  let path := getPath d disk.busPath disk.name
  let byID := lookup diskPath2diskWWN path
  let byPath := getBusPath d disks diskIndex disk.busPath
  some
    { byID := byID
      byPath := byPath
      hctl := hctl
      id := if byID ≠ "" then byID else if byPath ≠ "" then byPath else path
      model := unknownToEmpty disk.model
      name := disk.name
      path := path
      driveType := driveType
      serial := unknownToEmpty disk.serialNumber
      sizeBytes := disk.sizeBytes.toInt64
      vendor := unknownToEmpty disk.vendor
      wwn := getPureWWN disk.wwn byID
      bootable := getBootable d path
      removable := disk.isRemovable
      smart := ""
      isInstallationMedia := isInstallationMedia || disk.driveType = .odd
      installationEligibility := ⟨notEligibleReasons.isEmpty, notEligibleReasons⟩
      hasUUID := hasUUID d path
      holders := holders
      iscsi := if driveType = .iscsi then some (getISCSIHostIPAddress d disk.name) else none }

/-- The records of the disks that are returned, in order. -/
def diskRecords (disks : List Disk) (diskPath2diskWWN : List (String × String)) :
    Option (List Record) :=
  (disks.zipIdx.filter fun p => shouldReturnDisk d p.1).mapM fun p =>
    diskRecord d disks diskPath2diskWWN p.1 p.2

def getDisks : Option (List Record) :=
  match d.block with
  | .error _ => some []
  | .ok [] => some []
  | .ok disks => do
    let appliance ← getApplianceDisks d disks
    if appliance ≠ [] then some appliance
    else
      let diskPath2diskWWN ← getDisksWWNs d
      diskRecords d disks diskPath2diskWWN

end Disks

/-! ### Hosts by their contents -/

/-- A host with these disks, files, links and listings; every other directory is empty. -/
def hostWith (disks : List Disk) (files links : List (String × String))
    (listings : List (String × List FileInfo)) : Dependencies where
  execute _ _ := ("", "", 1)
  readFile path :=
    match files.lookup path with
    | some text => .ok text
    | none => .error ("open " ++ path ++ ": no such file or directory")
  stat _ := .ok ()
  block := .ok disks
  readDir path := (((listings.lookup path).getD []).map some, none)
  abs path := .ok path
  evalSymlinks path := .ok ((links.lookup path).getD path)

/-- A host with these disks and nothing to read. -/
def plainHost (disks : List Disk) : Dependencies := hostWith disks [] [] []

end AssistedAgent.Inventory
