import Mathlib.Data.List.Sort
import TrainFactory.Lib.PosixPath

/-!
# Host paths and container paths

`utils/path_utils`: a table of prefixes maps host paths into the container, and back.
-/

namespace Paths

open Lib

/-- What comes before the first occurrence of a separator, and what comes after it. -/
def splitOnce (sep : List Char) : List Char → Option (List Char × List Char)
  | [] => none
  | c :: cs =>
    if sep.isPrefixOf (c :: cs) then some ([], (c :: cs).drop sep.length)
    else (splitOnce sep cs).map fun parts => (c :: parts.1, parts.2)

variable (dirs : Directories)

def normalizePath (path : String) : String := normPath (dirs.absPath (dirs.expandUser path))

def parseMappingItem (item : String) : Option (String × String) :=
  match (splitOnce "->".toList item.toList).or (splitOnce ":".toList item.toList) with
  | none => none
  | some parts =>
    let host := strip (String.ofList parts.1)
    let container := strip (String.ofList parts.2)
    if host = "" ∨ container = "" then none
    else some (normalizePath dirs host, normalizePath dirs container)

/-- `get_path_mappings`, of the setting: the longest host prefix comes first. -/
def getPathMappings (setting : String) : List (String × String) :=
  let raw := strip setting
  if raw = "" then []
  else
    let items := ((split raw ',').map strip).filter fun item => item ≠ ""
    (items.filterMap (parseMappingItem dirs)).insertionSort fun x y => y.1.length ≤ x.1.length

def relPath (path start : String) : String :=
  let startList := (split (dirs.absPath start) '/').filter fun name => name ≠ ""
  let pathList := (split (dirs.absPath path) '/').filter fun name => name ≠ ""
  let i := (commonPrefix startList pathList).length
  match List.replicate (startList.length - i) ".." ++ pathList.drop i with
  | [] => "."
  | name :: names => names.foldl joinPath name

/-- `normalized == prefix or normalized.startswith(prefix + os.sep)`. -/
def isUnder (start normalized : String) : Bool :=
  normalized = start || startsWith normalized (start ++ "/")

/-- The path below `source` as a path below `target`. -/
def replacePrefix (source target normalized : String) : String :=
  let rel := relPath dirs normalized source
  if rel = "." ∨ rel = "" then target else normPath (joinPath target rel)

def mapStoragePath (setting path : String) : String × Option String :=
  if path = "" then (path, none)
  else
    let normalized := normalizePath dirs path
    match (getPathMappings dirs setting).find? fun mapping => isUnder mapping.1 normalized with
    | some mapping => (replacePrefix dirs mapping.1 mapping.2 normalized, some normalized)
    | none => (normalized, none)

def unmapStoragePath (setting path : String) : String :=
  if path = "" then path
  else
    let normalized := normalizePath dirs path
    match (getPathMappings dirs setting).find? fun mapping => isUnder mapping.2 normalized with
    | some mapping => replacePrefix dirs mapping.2 mapping.1 normalized
    | none => normalized

/-! ## Round trips -/

def mappedPath (mapping : String × String) (normalized : String) : String :=
  ((NormalPath.ofText mapping.1).move (.ofText normalized) (.ofText mapping.2)).text

structure IsLongest (mappings : List (String × String)) (mapping : String × String)
    (normalized : String) : Prop where
  above : (NormalPath.ofText mapping.1).IsAbove (.ofText normalized)
  longest : ∀ other ∈ mappings, (NormalPath.ofText other.1).IsAbove (.ofText normalized) →
    other.1.length ≤ mapping.1.length

def RoundTrips (setting path : String) (mapping : String × String) : Prop :=
  mapStoragePath dirs setting path =
      (mappedPath mapping (normalizePath dirs path), some (normalizePath dirs path)) ∧
    unmapStoragePath dirs setting (mappedPath mapping (normalizePath dirs path)) =
      normalizePath dirs path

/-- Neither prefix is a root that the path is below, and no mapping before it in the table has a
container prefix that the mapped path is under. -/
structure IsApart (before : List (String × String)) (mapping : String × String) (path : String) :
    Prop where
  nonempty : path ≠ ""
  prefixes : normalizePath dirs path = mapping.1 ∨
    (NormalPath.ofText mapping.1).names ≠ [] ∧ (NormalPath.ofText mapping.2).names ≠ []
  first : ∀ earlier ∈ before,
    isUnder earlier.2 (mappedPath mapping (normalizePath dirs path)) = false

end Paths
