import TrainFactory.Milvus.Collections

/-!
# Generation tasks and their products

The rows of `generation_tasks`, and those of the tables in which a generation makes its products
visible: datasets with their assets and lineage, collections and links.
-/

namespace Generation

open Lib
open Dataset (Datasets DatasetRow DatasetStatus)
open Milvus (CollectionStatus)

inductive GenerationStatus where
  | pending | running | stopping | publishing | recovering | restarting | completed | failed
  | stopped | deleting | deletingCascade
deriving DecidableEq

def terminalStatuses : List GenerationStatus := [.completed, .failed, .stopped]

def deletingStatuses : List GenerationStatus := [.deleting, .deletingCascade]

/-- `GenerationTaskDB`. -/
structure GenerationTask where
  taskId : String
  userId : Option String := none
  generationMode : String := "doc_to_training"
  sourceDatasetId : Option String := none
  milvusCollection : Option String := none
  status : GenerationStatus := .pending
  runToken : Option String
  progress : Rat := 0
  totalDocs : Int := 0
  processedDocs : Int := 0
  outputSampleCount : Int := 0
  outputPath : Option String := none
  outputDatasetId : Option String := none
  filterStats : Option Json := none
  qaOutputPath : Option String := none
  qaDatasetId : Option String := none
  qaFilteredPath : Option String := none
  qaFilteredDatasetId : Option String := none
  deepEvalPath : Option String := none
  deepEvalDatasetId : Option String := none
  errorMessage : Option String := none
  startedAt : Option Nat := none
  completedAt : Option Nat := none

instance : Keyed GenerationTask String := ⟨GenerationTask.taskId⟩

@[simp] theorem key_generationTask (t : GenerationTask) : Keyed.key t = t.taskId := rfl

/-- `DatasetAssetDB`. -/
structure AssetRow where
  datasetId : String
  assetType : String
  storageUri : String
  fileFormat : String
  rowCount : Option Int
  byteSize : Option Int
deriving DecidableEq

/-- `DatasetLineageEdgeDB`. -/
structure LineageEdge where
  edgeKey : String
  fromDatasetId : Option String
  toDatasetId : String
  relationType : String
  opTaskType : Option String
  opTaskId : Option String
deriving DecidableEq

instance : Keyed LineageEdge String := ⟨LineageEdge.edgeKey⟩

@[simp] theorem key_lineageEdge (e : LineageEdge) : Keyed.key e = e.edgeKey := rfl

/-- `MilvusCollectionDB`, with the attempt that creates the collection. -/
structure CollectionRow extends Milvus.CollectionRow where
  generationTaskId : Option String
  generationRunToken : Option String
deriving DecidableEq

instance : Keyed CollectionRow String := ⟨fun c => c.collectionName⟩

@[simp] theorem key_generatedCollection (c : CollectionRow) :
    Keyed.key c = c.collectionName := rfl

/-- `CollectionDatasetLinkDB`, with the attempt that links the dataset. -/
structure LinkRow where
  collectionName : String
  datasetId : String
  taskId : Option String
  generationRunToken : Option String
deriving DecidableEq

instance : Keyed LinkRow (String × String) := ⟨fun l => (l.collectionName, l.datasetId)⟩

@[simp] theorem key_generatedLink (l : LinkRow) :
    Keyed.key l = (l.collectionName, l.datasetId) := rfl

abbrev Tasks := Table GenerationTask

/-- The tables that a generation writes. -/
structure Database where
  tasks : Tasks
  datasets : Datasets
  assets : List AssetRow
  edges : Table LineageEdge
  collections : Table CollectionRow
  links : Table LinkRow

/-- What the transactions raise. -/
inductive GenerationError where
  | valueError (message : String)
  | permissionError (message : String)
  | runtimeError (message : String)
  | dataset (error : Dataset.DatasetError)
  | collectionUnavailable
  | dependencyUnavailable
  /-- `BackgroundTaskAlreadyExecuting` and the other refusals of a request. -/
  | conflict (message : String)
deriving DecidableEq

end Generation
