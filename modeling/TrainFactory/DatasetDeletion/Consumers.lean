import TrainFactory.Dataset.Status
import TrainFactory.Evaluation.TaskService
import TrainFactory.Generation.Entities
import TrainFactory.Training.Service

/-!
# The consumers of a dataset

Generation, training and evaluation tasks and links refer to a dataset by its id or by a storage
reference. Each service lists its own.
-/

namespace DatasetDeletion

open Lib
open Dataset (Datasets DatasetRow DatasetError LockRequest)
open Evaluation (EvaluationTask)
open Generation (GenerationTask)
open Training (TrainingTask)

/-! ## Rows -/

/-- `GenerationTaskDB`, with the path that it reads. -/
structure GenerationRow extends GenerationTask where
  inputPath : String

instance : Keyed GenerationRow String := ⟨fun g => g.taskId⟩

@[simp] theorem key_generationRow (g : GenerationRow) : Keyed.key g = g.taskId := rfl

/-- `EvaluationTaskDB`, with its id. -/
structure EvaluationRow where
  taskId : String
  task : EvaluationTask

instance : Keyed EvaluationRow String := ⟨EvaluationRow.taskId⟩

@[simp] theorem key_evaluationRow (e : EvaluationRow) : Keyed.key e = e.taskId := rfl

inductive TaskKind where
  | generation | training | evaluation
deriving DecidableEq

/-- The tables that a deletion reads, and the tasks with a live worker. -/
structure Tables where
  datasets : Datasets
  assets : List Generation.AssetRow
  generation : Table GenerationRow
  training : Training.Tasks
  evaluation : Table EvaluationRow
  milvus : Milvus.Tables
  /-- `background_task_admission_service`. -/
  executing : List (TaskKind × String)

/-! ## References -/

structure References where
  datasetIds : List String
  storageRefs : List String

def textOf : Option Json → Option String
  | some (.str s) => if strip s = "" then none else some (strip s)
  | _ => none

def GenerationRow.datasetIds (g : GenerationRow) : List String :=
  g.sourceDatasetId.toList ++
    if g.status = .restarting then
      g.outputDatasetId.toList ++ g.qaDatasetId.toList ++ g.qaFilteredDatasetId.toList ++
        g.deepEvalDatasetId.toList
    else []

def GenerationRow.references (g : GenerationRow) : References := ⟨g.datasetIds, [g.inputPath]⟩

def configPaths : Option Json → List String
  | some (.arr configs) => configs.filterMap fun config => textOf (config.get? "path")
  | _ => []

def persistedTrainingDatasetPaths (task : TrainingTask) : List String :=
  (textOf (task.trainDatasetPath.map .str)).toList ++
    (textOf (task.trainingParams.get? "train_dataset_path")).toList ++
    configPaths (task.trainingParams.get? "dataset_configs")

def trainingReferences (task : TrainingTask) : References :=
  ⟨[], persistedTrainingDatasetPaths task⟩

def isMteb (config : Json) : Bool :=
  match config.get? "type" with
  | some (.str s) => (strip s).toLower = "mteb"
  | _ => false

def evaluationDatasetReferences : Json → References
  | .arr configs =>
    let managed := configs.filter fun config => !isMteb config
    ⟨managed.filterMap fun config => textOf (config.get? "dataset_id"),
      managed.filterMap fun config => textOf (config.get? "path")⟩
  | _ => ⟨[], []⟩

def EvaluationRow.references (e : EvaluationRow) : References :=
  evaluationDatasetReferences e.task.datasetConfigs

def linkReferences (l : Milvus.LinkRow) : References := ⟨[l.datasetId], []⟩

/-! ## Active consumers -/

def activeGenerationStatuses : List Generation.GenerationStatus :=
  [.pending, .running, .stopping, .publishing, .recovering, .restarting]

def Tables.isExecuting (t : Tables) (kind : TaskKind) (taskId : String) : Bool :=
  (kind, taskId) ∈ t.executing

/-- The generation tasks that may still read. -/
def Tables.activeGeneration (t : Tables) : List GenerationRow :=
  t.generation.select fun g =>
    g.status ∈ activeGenerationStatuses || t.isExecuting .generation g.taskId

def Tables.activeTraining (t : Tables) : List TrainingTask :=
  t.training.select fun task =>
    task.status ∈ Training.lockingStatuses || t.isExecuting .training task.taskId ||
      !Training.hasNoProcess task

/-- The evaluation tasks that may still read. -/
def Tables.activeEvaluation (t : Tables) : List EvaluationRow :=
  t.evaluation.select fun e =>
    e.task.status = .pending || e.task.status = .running || t.isExecuting .evaluation e.taskId

inductive Kind where
  | task (kind : TaskKind)
  | link
deriving DecidableEq

def Tables.consumers (t : Tables) : Kind → List References
  | .task .generation => t.activeGeneration.map GenerationRow.references
  | .task .training => t.activeTraining.map trainingReferences
  | .task .evaluation => t.activeEvaluation.map EvaluationRow.references
  | .link => t.milvus.links.rows.map linkReferences

/-! ## Listing -/

variable (host : Dataset.Host)

/-- `storage_reference_sets_overlap`; it raises where a reference is no URL. -/
def setsOverlap (left right : List String) : Except DatasetError Bool :=
  match left.mapM host.storageReferenceIdentity, right.mapM host.storageReferenceIdentity with
  | .ok left, .ok right => .ok (left.any fun l => right.any fun r => Dataset.identitiesOverlap l r)
  | .error e, _ => .error e
  | _, .error e => .error e

def Tables.listGeneration (t : Tables) (datasetIds : List String) : List String :=
  (t.activeGeneration.filter fun g => g.datasetIds.any (· ∈ datasetIds)).map fun g => g.taskId

def filterTasks {R : Type} (check : R → Except DatasetError Bool) (taskId : R → String) :
    List R → Except DatasetError (List String)
  | [] => .ok []
  | task :: tasks =>
    match check task with
    | .error e => .error e
    | .ok consumes =>
      match filterTasks check taskId tasks with
      | .error e => .error e
      | .ok ids => .ok (if consumes then taskId task :: ids else ids)

def Tables.listTraining (t : Tables) (datasetPaths : List String) :
    Except DatasetError (List String) :=
  let requestedPaths := Dataset.normalized datasetPaths
  if requestedPaths = [] then .ok []
  else
    filterTasks (fun task => setsOverlap host (persistedTrainingDatasetPaths task) requestedPaths)
      TrainingTask.taskId t.activeTraining

def Tables.listEvaluation (t : Tables) (datasetIds datasetPaths : List String) :
    Except DatasetError (List String) :=
  let requestedIds := Dataset.normalized datasetIds
  let requestedPaths := Dataset.normalized datasetPaths
  if requestedIds = [] ∧ requestedPaths = [] then .ok []
  else
    filterTasks
      (fun e =>
        if e.references.datasetIds.any (· ∈ requestedIds) then .ok true
        else setsOverlap host e.references.storageRefs requestedPaths)
      EvaluationRow.taskId t.activeEvaluation

def Tables.listLinks (t : Tables) (datasetIds : List String) : List Milvus.LinkRow :=
  t.milvus.links.select fun l => l.datasetId ∈ Dataset.normalized datasetIds

end DatasetDeletion
