import TrainFactory.Lib.Json
import TrainFactory.Lib.Lines
import TrainFactory.Lib.Text
import Mathlib.Data.List.Dedup
import Mathlib.Data.List.Sort
import Mathlib.Data.String.Basic

/-!
# Removing the volumes of a verification project

`execute_safe_down_volumes` of `compose_release.py`: what it asks Docker before it removes a
project, the command that removes it, and what it asks afterwards.
-/

namespace Compose

open Lib

namespace SafeDown

abbrev Message := String

def notPermitted : Message := "release Compose cleanup is not permitted"

def cleanupFailed : Message := "release Compose cleanup failed"

def commandFailed : Message := "release Compose command failed"

def configInvalid : Message := "release Compose resolved config is invalid"

def resourcesInvalid : Message := "release Compose project resources are invalid"

def resourcesNotEmpty : Message := "release Compose project resources are not empty"

/-- `if not condition: raise`. -/
def require (condition : Bool) (message : Message) : Except Message Unit :=
  if condition then .ok () else .error message

/-! ## Docker -/

def isNameChar (c : Char) : Bool :=
  ('a' ≤ c && c ≤ 'z') || ('A' ≤ c && c ≤ 'Z') || ('0' ≤ c && c ≤ '9') || c = '_' || c = '.' ||
    c = '-'

def isResourceName (name : String) : Bool := name ≠ "" && name.toList.all isNameChar

/-- A container, a network or a volume with its labels. The name of a container is its id. -/
structure Resource where
  name : String
  /-- The labels, or `null`. -/
  labels : Option (List (String × String))
  named : isResourceName name = true

/-- `labels.get(key)`, where there are any. -/
def Resource.label (r : Resource) (key : String) : Option String := r.labels.bind (·.lookup key)

def projectLabel : String := "com.docker.compose.project"

def volumeLabel : String := "com.docker.compose.volume"

def networkLabel : String := "com.docker.compose.network"

/-- The filter `label=com.docker.compose.project={project}`. -/
def Resource.isOf (project : String) (r : Resource) : Bool := r.label projectLabel = some project

inductive Kind where
  | container
  | network
  | volume
deriving DecidableEq

/-- What Docker holds. Networks may share a name. -/
structure Docker where
  containers : List Resource
  networks : List Resource
  volumes : List Resource
  distinct : (volumes.map Resource.name).Nodup

def Docker.resources (docker : Docker) : Kind → List Resource
  | .container => docker.containers
  | .network => docker.networks
  | .volume => docker.volumes

/-- What `docker … ls` prints of resources. -/
def listingText (resources : List Resource) : String :=
  if resources.isEmpty then "" else lineFeedText (resources.map Resource.name)

inductive Command where
  | config
  | listVolumes
  | listNetworks
  | listProject (kind : Kind)
  | inspectVolume (name : String)
  | inspectNetwork (name : String)
  | down

/-- The Docker command line: which commands return zero, before the removal and from it on; and what
`json.loads` makes of what `config` prints. -/
structure Cli where
  runs : Bool → Command → Bool
  config : Option Json

def Cli.runPrivate {α : Type} (cli : Cli) (removed : Bool) (command : Command) (stdout : α) :
    Except Message α :=
  if cli.runs removed command then .ok stdout else .error commandFailed

/-- `[line.strip() for line in payload.splitlines() if line.strip()]`. -/
def listedNames (payload : String) : List String :=
  ((splitLines payload).map strip).filter (· ≠ "")

def parseResourceListing (payload : String) : Except Message (List String) :=
  let names := listedNames payload
  if ¬ names.Nodup ∨ (names.any fun name => name.toList.any isSpace) = true ∨
      (names.any fun name => name.toList.any fun c => c.toNat < 32) = true then
    .error resourcesInvalid
  else .ok names

def listProject (cli : Cli) (removed : Bool) (docker : Docker) (project : String) (kind : Kind) :
    Except Message (List String) := do
  let stdout ← cli.runPrivate removed (.listProject kind)
    (listingText ((docker.resources kind).filter (·.isOf project)))
  parseResourceListing stdout

structure ProjectResources where
  container : List String
  network : List String
  volume : List String

def listProjectResources (cli : Cli) (removed : Bool) (docker : Docker) (project : String) :
    Except Message ProjectResources := do
  let container ← listProject cli removed docker project .container
  let network ← listProject cli removed docker project .network
  let volume ← listProject cli removed docker project .volume
  pure ⟨container, network, volume⟩

def requireEmptyProjectResources (cli : Cli) (removed : Bool) (docker : Docker)
    (project : String) : Except Message Unit := do
  let resources ← listProjectResources cli removed docker project
  require (resources.container.isEmpty && resources.network.isEmpty && resources.volume.isEmpty)
    resourcesNotEmpty

/-! ## The resolved configuration -/

def keysOf (value : Json) : List String := (value.entries.map Prod.fst).dedup

/-- `value.values()` of an object. -/
def valuesOf (value : Json) : List Json := (keysOf value).filterMap value.get?

/-- `value == text`. -/
def isTextOf (value : Option Json) (text : String) : Bool :=
  match value with
  | some (.str s) => s = text
  | _ => false

/-- `definition.get("external")`, as a truth value. -/
def isExternal (definition : Json) : Bool := (definition.getD "external" .null).truthy

/-- `f"{project}_{key}"`. -/
def projectName (project key : String) : String := project ++ "_" ++ key

/-- The source of a mount, where it mounts a volume; `none` where it is refused. -/
def mountSource (mount : Json) : Option (List String) :=
  if mount.isObj = false then none
  else if isTextOf (mount.get? "type") "volume" then
    match mount.get? "source" with
    | some (.str source) => some [source]
    | _ => none
  else some []

def serviceSources (service : Json) : Option (List String) :=
  if service.isObj = false then none
  else
    match service.getD "volumes" (.arr []) with
    | .arr mounts => (mounts.mapM mountSource).map List.flatten
    | _ => none

def usedKeys (compose : Json) : Option (List String) :=
  match compose.get? "services" with
  | some (.obj services) => ((valuesOf (.obj services)).mapM serviceSources).map List.flatten
  | _ => none

def expectedVolume (volumes : Json) (project key : String) : Option String :=
  match volumes.get? key with
  | none => none
  | some definition =>
    if definition.isObj = true ∧ isExternal definition = false ∧
        isTextOf (definition.get? "name") (projectName project key) = true then
      some (projectName project key)
    else none

def expectedVolumes (compose : Json) (project : String) : Option (List String) :=
  match compose.get? "volumes" with
  | some (.obj volumes) =>
    (usedKeys compose).bind fun keys => keys.mapM (expectedVolume (.obj volumes) project)
  | _ => none

/-- `definition.get("ipam") in (None, {})`. -/
def isPlainIpam : Option Json → Bool
  | none => true
  | some .null => true
  | some (.obj kvs) => kvs.isEmpty
  | _ => false

def isPlainNetwork (project : String) (definition : Json) : Bool :=
  definition.isObj && (keysOf definition).all (· ∈ ["name", "labels", "ipam"]) &&
    !isExternal definition && isTextOf (definition.get? "name") (projectName project "default") &&
    isPlainIpam (definition.get? "ipam")

def expectedNetworkNames (compose : Json) (project : String) : Except Message (List String) :=
  match compose.get? "networks" with
  | some (.obj networks) =>
    match Json.get? (.obj networks) "default" with
    | some definition =>
      if (keysOf (.obj networks)).all (· = "default") = true ∧
          isPlainNetwork project definition = true then
        .ok [projectName project "default"]
      else .error configInvalid
    | none => .error configInvalid
  | _ => .error configInvalid

/-! ## The removal -/

/-- The name under which a key is declared. `config` prints a name for each. -/
def declaredName (project key : String) (definition : Json) : String :=
  match definition.get? "name" with
  | some (.str name) => name
  | _ => projectName project key

def declaredNames (compose : Json) (part project : String) : List String :=
  let declared := compose.getD part .null
  (keysOf declared).filterMap fun key =>
    (declared.get? key).bind fun definition =>
      if isExternal definition then none else some (declaredName project key definition)

def Docker.down (docker : Docker) (compose : Json) (project : String) : Docker where
  containers := docker.containers.filter fun r => !r.isOf project
  networks := docker.networks.filter fun r => r.name ∉ declaredNames compose "networks" project
  volumes := docker.volumes.filter fun r => r.name ∉ declaredNames compose "volumes" project
  distinct := (List.filter_sublist.map Resource.name).nodup docker.distinct

/-! ## `execute_safe_down_volumes` -/

structure Manifest where
  mode : String
  project : String

def cleanupModes : List String := ["verify", "ci", "rollback-verify"]

/-- What the configuration tells of the resources of the project. -/
structure Expected where
  compose : Json
  volumes : List String
  networks : List String

/-- The reading of what `config` has printed. -/
def readExpected (project : String) : Option Json → Except Message Expected
  | none => .error notPermitted
  | some compose =>
    match expectedVolumes compose project with
    | none => .error notPermitted
    | some [] => .error notPermitted
    | some (name :: names) =>
      (expectedNetworkNames compose project).map fun networks => ⟨compose, name :: names, networks⟩

def sortedNames (names : List String) : List String := names.dedup.insertionSort (· ≤ ·)

/-- `name.removeprefix(project + "_")`. -/
def volumeKey (project name : String) : String :=
  if startsWith name (project ++ "_") then
    String.ofList (name.toList.drop (project ++ "_").toList.length)
  else name

def inspect (cli : Cli) (project : String) (command : Command) (resources : List Resource)
    (name keyLabel key : String) : Except Message Unit := do
  let found ← cli.runPrivate false command (resources.find? fun r => r.name = name)
  match found with
  | none => .error commandFailed
  | some r => require (r.isOf project && r.label keyLabel = some key) notPermitted

def presentVolumes (cli : Cli) (docker : Docker) (project : String) (expected : List String) :
    Except Message (List String) := do
  let stdout ← cli.runPrivate false .listVolumes (listingText docker.volumes)
  let names := listedNames stdout
  require (names.Nodup) notPermitted
  require (names.all fun name => !startsWith name (project ++ "_") || name ∈ expected) notPermitted
  pure (expected.filter (· ∈ names))

def presentNetworks (cli : Cli) (docker : Docker) (expected : List String) :
    Except Message (List String) := do
  let stdout ← cli.runPrivate false .listNetworks (listingText docker.networks)
  let names ← parseResourceListing stdout
  pure (expected.filter (· ∈ names))

/-- `set(left) == set(right)`. -/
def sameNames (left right : List String) : Bool := left.all (· ∈ right) && right.all (· ∈ left)

/-- All that comes before the removal. -/
def permit (cli : Cli) (manifest : Manifest) (docker : Docker) : Except Message Expected := do
  let project := manifest.project
  require (manifest.mode ∈ cleanupModes) notPermitted
  let printed ← cli.runPrivate false .config cli.config
  let expected ← readExpected project printed
  let present ← presentVolumes cli docker project expected.volumes
  let labelled ← listProjectResources cli false docker project
  require (sameNames labelled.volume present) notPermitted
  let networks ← presentNetworks cli docker expected.networks
  require (sameNames labelled.network networks) notPermitted
  (sortedNames present).forM fun name =>
    inspect cli project (.inspectVolume name) docker.volumes name volumeLabel
      (volumeKey project name)
  (sortedNames networks).forM fun name =>
    inspect cli project (.inspectNetwork name) docker.networks name networkLabel "default"
  pure expected

def confirm (cli : Cli) (docker : Docker) (project : String) (expected : Expected) :
    Except Message Unit := do
  cli.runPrivate true .down ()
  let volumes ← cli.runPrivate true .listVolumes (listingText docker.volumes)
  require (expected.volumes.all (· ∉ listedNames volumes)) cleanupFailed
  let stdout ← cli.runPrivate true .listNetworks (listingText docker.networks)
  let networks ← parseResourceListing stdout
  require (expected.networks.all (· ∉ networks)) cleanupFailed
  requireEmptyProjectResources cli true docker project

/-- A run: whether the command that removes has been issued, and what there is after it. -/
structure Cleanup where
  issued : Bool
  docker : Docker
  result : Except Message Unit

def executeSafeDownVolumes (cli : Cli) (manifest : Manifest) (docker : Docker) : Cleanup :=
  match permit cli manifest docker with
  | .error message => ⟨false, docker, .error message⟩
  | .ok expected =>
    let rest := docker.down expected.compose manifest.project
    ⟨true, rest, confirm cli rest manifest.project expected⟩

end SafeDown

end Compose
