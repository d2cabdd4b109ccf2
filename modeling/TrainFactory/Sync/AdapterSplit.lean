import Mathlib.Algebra.Order.Ring.Rat
import TrainFactory.Lib.Dict
import TrainFactory.Lib.LeastLoad
import TrainFactory.Sync.Documents

/-!
# The documents of an indexing target

`_split_docs_for_targets` of `sync_worker.py`: the documents of a window are split over the targets
of a task. The base model gets them all; the adapters each get them all, or share them by weight.
Weights and loads are rationals.
-/

namespace Sync

open Lib

structure IndexTarget where
  type : String
  collectionName : String
  targetId : Option String := none
  adapterId : Option String := none
  adapterName : Option String := none
  label : Option String := none

/-- The standard library, with `float`. -/
structure FloatReader extends JsonReader where
  /-- `float(value)`; `none` where it raises `TypeError` or `ValueError`. -/
  float : Json → Option Rat

variable (py : FloatReader) {α : Type}

/-! ## Weights -/

/-- The names under which the weight of a target is looked up. -/
def IndexTarget.candidates (target : IndexTarget) : List String :=
  [target.adapterId, target.adapterName, target.label, target.targetId].reduceOption.filter (· ≠ "")

/-- `raw_weights[key]`, if `key in raw_weights`. A list or a string is not indexed by a name, so that
its entry is no number. -/
def rawWeight (rawWeights : Json) (key : String) : Except SyncError (Option Json) :=
  match rawWeights with
  | .obj kvs => .ok (kvs.lookup key)
  | .arr _ | .str _ => .ok none
  | _ => .error (.runtimeError "argument is not iterable")

def positiveOrOne (weight : Rat) : Rat := if weight ≤ 0 then 1 else weight

def candidateWeight (rawWeights : Json) : List String → Except SyncError Rat
  | [] => .ok 1
  | key :: keys =>
    match rawWeight rawWeights key with
    | .error e => .error e
    | .ok none => candidateWeight rawWeights keys
    | .ok (some weight) => .ok (positiveOrOne ((py.float weight).getD 1))

def rawWeightsOf (genCfg : Json) : Json :=
  match genCfg.get? "adapter_request_weights" with
  | some weights => if weights.truthy then weights else .obj []
  | none => .obj []

def adapterWeights (genCfg : Json) : List IndexTarget → Except SyncError (List Rat)
  | [] => .ok []
  | target :: targets =>
    match candidateWeight py (rawWeightsOf genCfg) target.candidates with
    | .error e => .error e
    | .ok weight =>
      match adapterWeights genCfg targets with
      | .error e => .error e
      | .ok weights => .ok (weight :: weights)

/-! ## Splitting -/

/-- `assigned_counts[idx] / weight`. -/
def score (weight : Rat) (count : Nat) : Rat := count / weight

/-- The loop over the documents: what each adapter got, and `assigned_counts`. -/
def assignDocs (weights : List Rat) : List α → List (List α) → List Nat → List (List α) × List Nat
  | [], slices, counts => (slices, counts)
  | doc :: docs, slices, counts =>
    let best := leastLoaded score weights counts
    assignDocs weights docs (slices.modify best (· ++ [doc])) (counts.modify best (· + 1))

/-- `docs_by_collection[collection] = docs`, for each target. -/
def setDocs (entries : List (IndexTarget × List α)) (docsByCollection : Dict String (List α)) :
    Dict String (List α) :=
  entries.foldl (fun d entry => d.insert entry.1.collectionName entry.2) docsByCollection

def adapterTargets (targets : List IndexTarget) : List IndexTarget :=
  targets.filter fun t => t.collectionName ≠ "" ∧ t.type = "adapter"

def baseTargets (targets : List IndexTarget) : List IndexTarget :=
  targets.filter fun t => t.collectionName ≠ "" ∧ t.type ≠ "adapter"

def balancingEnabled (genCfg : Json) : Bool :=
  (genCfg.getD "adapter_request_balancing" .null).truthy

/-- What a split returns: the documents of each collection, and `adapter_assigned_counts` after
it. -/
structure Split (α : Type) where
  docsByCollection : Dict String (List α)
  assignedCounts : Option (List Nat)

/-- `_split_docs_for_targets`, of `config.get("generation_config") or {}`. -/
def splitDocsForTargets (genCfg : Json) (batchDocuments : List α) (targets : List IndexTarget)
    (historicalDocs : Option (List α)) (assignedCounts : Option (List Nat)) :
    Except SyncError (Split α) :=
  let base := setDocs ((baseTargets targets).map fun t => (t, batchDocuments)) ∅
  let adapters := adapterTargets targets
  let sourceDocs := historicalDocs.getD batchDocuments
  if adapters.isEmpty then .ok ⟨base, assignedCounts⟩
  else if sourceDocs.isEmpty then
    .ok ⟨setDocs (adapters.map fun t => (t, [])) base, assignedCounts⟩
  else if !balancingEnabled genCfg then
    .ok ⟨setDocs (adapters.map fun t => (t, sourceDocs)) base, assignedCounts⟩
  else
    match adapterWeights py genCfg adapters with
    | .error e => .error e
    | .ok weights =>
      let counts := assignedCounts.getD (List.replicate adapters.length 0)
      if counts.length ≠ adapters.length then
        .error (.valueError "Adapter balancing state does not match target count")
      else
        let assigned := assignDocs weights sourceDocs (List.replicate adapters.length []) counts
        .ok ⟨setDocs (adapters.zip assigned.1) base, assignedCounts.map fun _ => assigned.2⟩

/-- The loop of `_pre_index_to_milvus` over the windows of documents, with the counts that the
windows share: what each window gives the adapters, and the counts after it. -/
def splitWindows (genCfg : Json) (targets : List IndexTarget) :
    List (List α) → List Nat → Except SyncError (List (Dict String (List α)) × List Nat)
  | [], counts => .ok ([], counts)
  | documents :: windows, counts =>
    if documents.isEmpty then splitWindows genCfg targets windows counts
    else
      match splitDocsForTargets py genCfg [] targets (some documents) (some counts) with
      | .error e => .error e
      | .ok split =>
        match splitWindows genCfg targets windows (split.assignedCounts.getD counts) with
        | .error e => .error e
        | .ok (more, counts') => .ok (split.docsByCollection :: more, counts')

def windowDocs (splits : List (Dict String (List α))) (target : IndexTarget) : List α :=
  splits.flatMap fun docsByCollection => (docsByCollection.lookup target.collectionName).getD []

end Sync
