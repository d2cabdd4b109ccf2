import TrainFactory.Lib.Text
import TrainFactory.Lib.Dict

/-!
# Mixed data sources

`_load_from_mixed_sources` of `data_loader.py`: a comma-separated list of local files, directories,
object storage URIs and hub names is loaded into a dictionary of datasets, under names that are
derived from the paths.
-/

namespace DataLoading

open Lib

def defaultHfSubset : String := "pair-class"

/-- The file system and the loaders of the single sources. -/
structure Host (D : Type) where
  /-- `os.path.exists`. -/
  pathExists : String → Bool
  /-- `os.path.isdir`. -/
  isdir : String → Bool
  /-- `os.path.isfile`. -/
  isfile : String → Bool
  /-- `_resolve_s3_to_local`. -/
  resolveS3ToLocal : String → Except String String
  /-- `DataLoader(hf_subset=subset, …)._load_from_hub(path, split_type)`. -/
  loadFromHub : Option String → String → String → Except String (Option D)
  /-- `_load_from_directory(path, split_type)`. -/
  loadFromDirectory : String → String → Except String (Option D)
  /-- `_load_file(path, split_type)`. -/
  loadFile : String → String → Except String (Option D)

def dataExtensions : List String := [".json", ".jsonl", ".txt", ".csv", ".parquet"]

def basename (path : String) : String := (split path '/').getLastD ""

/-- What the number of the parts of a path says about it: `org/repo` is a hub name. -/
def slashVerdict (path : String) : Option Bool :=
  let parts := split path '/'
  if parts.length = 2 ∧ parts.all (· ≠ "") then some true
  else if 2 < parts.length then some false
  else none

section Loading

variable {D : Type} (host : Host D)

def isHuggingfaceDataset (datasetPath : String) : Bool :=
  let path := strip datasetPath
  if startsWith path "s3://" then false
  else if dataExtensions.any (endsWith path) then false
  else if startsWith path "./" || startsWith path "../" then false
  else
    match slashVerdict path with
    | some verdict => verdict
    | none => !(startsWith path "/") && !(host.pathExists path)

def extractDatasetName (path : String) : String :=
  if startsWith path "s3://" then
    let last := (split path '/').getLastD ""
    if last = "" then path else last
  else if isHuggingfaceDataset host path then path
  else if host.isdir path then basename (rstripChar path '/')
  else if host.isfile path then
    let filename := basename path
    match dataExtensions.find? (endsWith filename) with
    | some ext => dropEnd filename ext.length
    | none => filename
  else path

def getHfSubset (hfSubsets : List (Option String)) (index : Nat) : Option String :=
  if hfSubsets.isEmpty then some defaultHfSubset
  else if h : index < hfSubsets.length then hfSubsets[index]
  else some defaultHfSubset

def localPath (path : String) : Except String String :=
  if startsWith path "s3://" then host.resolveS3ToLocal path else .ok path

def isHubSource (path : String) : Bool :=
  match localPath host path with
  | .error _ => false
  | .ok path => isHuggingfaceDataset host path

/-- The dataset of a source, where `hfCounter` sources before were loaded from the hub. -/
def loadSource (hfSubsets : List (Option String)) (hfCounter : Nat) (splitType path : String) :
    Except String (Option D) :=
  match localPath host path with
  | .error e => .error e
  | .ok path =>
    if isHuggingfaceDataset host path then
      host.loadFromHub (getHfSubset hfSubsets hfCounter) path splitType
    else if host.isdir path then host.loadFromDirectory path splitType
    else if host.isfile path then
      if splitType = "train" then host.loadFile path splitType else .ok none
    else .ok none

/-- The locals of the loop. -/
structure MixedState (D : Type) where
  datasets : Dict String D
  hfCounter : Nat

/-- The body of the loop. An exception is logged, and its source passed over. -/
def MixedState.step (hfSubsets : List (Option String)) (splitType : String) (s : MixedState D)
    (path : String) : MixedState D :=
  match loadSource host hfSubsets s.hfCounter splitType path with
  | .error _ => s
  | .ok dataset =>
    { datasets :=
        match dataset with
        | none => s.datasets
        | some dataset => s.datasets.insert (extractDatasetName host path) dataset
      hfCounter := if isHubSource host path then s.hfCounter + 1 else s.hfCounter }

def sourcePaths (mixedPaths : String) : List String := (split mixedPaths ',').map strip

def loadFromMixedSources (hfSubsets : List (Option String)) (mixedPaths splitType : String) :
    Except String (Option (Dict String D)) :=
  let s := (sourcePaths mixedPaths).foldl (MixedState.step host hfSubsets splitType) ⟨∅, 0⟩
  if s.datasets.keys.isEmpty then
    if splitType = "train" then .error "Failed to load any training data from mixed sources"
    else .ok none
  else .ok (some s.datasets)

end Loading

end DataLoading
