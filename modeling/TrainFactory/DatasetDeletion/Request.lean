import TrainFactory.DatasetDeletion.Consumers
import TrainFactory.Generation.TaskService
import TrainFactory.Lib.Run

/-!
# The request that deletes a dataset

`_delete_dataset_impl` reads the dataset, fences it, lists its consumers kind by kind and then either
deletes the storage and the row or undoes the fence. Each of its sessions is one step, and so is each
transaction of a service that runs between two of them.
-/

namespace DatasetDeletion

open Lib
open Dataset (Datasets DatasetRow DatasetStatus DatasetError LockRequest)

variable (host : Dataset.Host)

/-! ## Admissions -/

def locks (rows : Datasets) (request : LockRequest) : Bool :=
  match host.lockDatasetsForConsumption rows request with
  | .ok _ => true
  | .error _ => false

def generationRequest (g : GenerationRow) (requireSourceDataset : Bool) : LockRequest :=
  ⟨if truthy g.sourceDatasetId then g.sourceDatasetId.toList else [], [], requireSourceDataset,
    false⟩

def trainingRequest (task : Training.TrainingTask) (requireManagedDatasets : Bool) : LockRequest :=
  ⟨[], persistedTrainingDatasetPaths task, false, requireManagedDatasets⟩

def evaluationRequest (references : References) (requireManagedDatasets : Bool) : LockRequest :=
  ⟨references.datasetIds, references.storageRefs, true, requireManagedDatasets⟩

def linkRequest (datasetId : String) : LockRequest := ⟨[datasetId], [], true, false⟩

def GenerationRow.created (g : GenerationRow) : GenerationRow := { g with status := .pending }

def createdTraining (task : Training.TrainingTask) : Training.TrainingTask :=
  { task with status := .pending, processPid := none, processStatus := none, processCreateTime := none }

def EvaluationRow.created (e : EvaluationRow) : EvaluationRow :=
  { e with task := { e.task with status := .pending } }

def withDatasets (locked : Bool) : Training.References → Training.References
  | .available => if locked then .available else .unavailable "dataset"
  | references => references

/-- The columns that `claim_running` writes. -/
def GenerationRow.claimed (legacyRunToken : String) (now : Nat) (g : GenerationRow) :
    GenerationRow :=
  { g with
    status := .running
    runToken := some (g.runToken.getD legacyRunToken)
    startedAt := some now }

theorem GenerationRow.key_claimed (legacyRunToken : String) (now : Nat) (g : GenerationRow) :
    Keyed.key (g.claimed legacyRunToken now) = Keyed.key g := rfl

/-- The columns that `update_status` to failed writes. -/
def GenerationRow.failed (errorMessage : Option String) (now : Nat) (g : GenerationRow) :
    GenerationRow :=
  { g with
    status := .failed
    completedAt := some now
    errorMessage := if errorMessage.isSome then errorMessage else g.errorMessage }

theorem GenerationRow.key_failed (errorMessage : Option String) (now : Nat) (g : GenerationRow) :
    Keyed.key (g.failed errorMessage now) = Keyed.key g := rfl

def EvaluationRow.after (transaction : Evaluation.EvaluationTask → Evaluation.Outcome)
    (e : EvaluationRow) : EvaluationRow :=
  match transaction e.task with
  | .ok (some task) => { e with task := task }
  | _ => e

theorem EvaluationRow.key_after (transaction : Evaluation.EvaluationTask → Evaluation.Outcome)
    (e : EvaluationRow) : Keyed.key (e.after transaction) = Keyed.key e := by
  simp only [key_evaluationRow, EvaluationRow.after]
  split <;> rfl

def committedTraining (tasks : Training.Tasks) : Training.Outcome → Training.Tasks
  | .ok (_, tasks') => tasks'
  | .error _ => tasks

def Tables.isPending (t : Tables) (taskId : String) : TaskKind → Bool
  | .generation => (t.generation.lookup taskId).any fun g => g.status = .pending
  | .training => (t.training.lookup taskId).any fun task => task.status = .pending
  | .evaluation => (t.evaluation.lookup taskId).any fun e => e.task.status = .pending

/-! ## The other transactions -/

/-- What may run between two sessions of the request, with the verdicts of the other locks. -/
inductive Transaction where
  | createGeneration (task : GenerationRow) (requireSourceDataset available : Bool)
  | claimGeneration (taskId : String) (expectedRunToken : Option (Option String))
      (legacyRunToken : String) (available : Bool) (now : Nat)
  | failGeneration (taskId : String) (errorMessage : Option String) (now : Nat)
  | createTraining (task : Training.TrainingTask) (requireManagedDatasets available : Bool)
  | claimTraining (taskId runToken : String) (models : Training.References) (now : Nat)
  | resetTraining (taskId runToken : String) (requireManagedDatasets : Bool)
      (models : Training.References) (now : Nat)
  | stopTraining (taskId : String) (now : Nat)
  | createEvaluation (task : EvaluationRow) (requireManagedDatasets available : Bool)
  | claimEvaluation (taskId : String) (runToken : Option String) (legacyRunToken : String)
      (available : Bool) (now : Nat)
  | resetEvaluation (taskId : String) (requireManagedDatasets available : Bool)
      (modelConfigs datasetConfigs results modelProgress : Option Json) (newRunToken : String)
      (now : Nat)
  | cancelEvaluation (taskId : String) (now : Nat)
  | linkDataset (collectionName datasetId : String) (datasetName : Option String)
      (chunkCount : Int) (taskId : Option String)
  | updateDataset (args : Dataset.UpdateDataset)
  | updateStatus (datasetId : String) (status : DatasetStatus) (errorMessage : Option String)
  | workerStarts (kind : TaskKind) (taskId : String)
  | workerExits (kind : TaskKind) (taskId : String)

def snapshotReferences (e : EvaluationRow) (datasetConfigs : Option Json) : References :=
  evaluationDatasetReferences (Evaluation.orStored datasetConfigs e.task.datasetConfigs)

def Tables.apply (t : Tables) : Transaction → Tables
  | .createGeneration task requireSourceDataset available =>
    if locks host t.datasets (generationRequest task requireSourceDataset) && available then
      { t with generation := (t.generation.insert task.created).getD t.generation }
    else t
  | .claimGeneration taskId expectedRunToken legacyRunToken available now =>
    if (t.generation.lookup taskId).any fun g => g.status = .pending &&
        Generation.hasToken expectedRunToken g.toGenerationTask && available then
      { t with
        generation := t.generation.update taskId (GenerationRow.claimed legacyRunToken now)
          (GenerationRow.key_claimed legacyRunToken now) }
    else t
  | .failGeneration taskId errorMessage now =>
    if (t.generation.lookup taskId).any fun g =>
        g.status ∈ (Generation.allowedSources .failed).getD [] then
      { t with
        generation := t.generation.update taskId (GenerationRow.failed errorMessage now)
          (GenerationRow.key_failed errorMessage now) }
    else t
  | .createTraining task requireManagedDatasets available =>
    if locks host t.datasets (trainingRequest task requireManagedDatasets) && available then
      { t with training := (t.training.insert (createdTraining task)).getD t.training }
    else t
  | .claimTraining taskId runToken models now =>
    let locked := (t.training.lookup taskId).any fun task =>
      locks host t.datasets (trainingRequest task false)
    { t with
      training := committedTraining t.training
        (Training.claimPreparing t.training taskId runToken (withDatasets locked models) now) }
  | .resetTraining taskId runToken requireManagedDatasets models now =>
    let locked := (t.training.lookup taskId).any fun task =>
      locks host t.datasets (trainingRequest task requireManagedDatasets)
    { t with
      training := committedTraining t.training
        (Training.resetForResume t.training taskId runToken (withDatasets locked models) now) }
  | .stopTraining taskId now =>
    { t with
      training := committedTraining t.training
        (Training.stopIfActive t.training taskId now) }
  | .createEvaluation task requireManagedDatasets available =>
    if locks host t.datasets (evaluationRequest task.references requireManagedDatasets) &&
        available then
      { t with evaluation := (t.evaluation.insert task.created).getD t.evaluation }
    else t
  | .claimEvaluation taskId runToken legacyRunToken available now =>
    { t with
      evaluation := t.evaluation.update taskId
        (EvaluationRow.after fun task =>
          Evaluation.claimRunning now task available runToken legacyRunToken)
        (EvaluationRow.key_after _) }
  | .resetEvaluation taskId requireManagedDatasets available modelConfigs datasetConfigs results
      modelProgress newRunToken now =>
    let locked := (t.evaluation.lookup taskId).any fun e =>
      locks host t.datasets
        (evaluationRequest (snapshotReferences e datasetConfigs) requireManagedDatasets)
    { t with
      evaluation := t.evaluation.update taskId
        (EvaluationRow.after fun task =>
          Evaluation.resetForResume now task (locked && available) modelConfigs datasetConfigs
            results modelProgress newRunToken)
        (EvaluationRow.key_after _) }
  | .cancelEvaluation taskId now =>
    { t with
      evaluation := t.evaluation.update taskId
        (EvaluationRow.after fun task => Evaluation.cancelTask now task)
        (EvaluationRow.key_after _) }
  | .linkDataset collectionName datasetId datasetName chunkCount taskId =>
    match Milvus.linkDataset host
        ⟨collectionName, datasetId, datasetName, chunkCount, taskId, t.datasets⟩ t.milvus with
    | .ok milvus => { t with milvus := milvus }
    | .error _ => t
  | .updateDataset args =>
    match Dataset.updateDataset t.datasets args with
    | .ok rows => { t with datasets := rows }
    | .error _ => t
  | .updateStatus datasetId status errorMessage =>
    match Dataset.updateStatus t.datasets datasetId status errorMessage with
    | .ok (_, rows) => { t with datasets := rows }
    | .error _ => t
  | .workerStarts kind taskId =>
    if t.isPending taskId kind then { t with executing := (kind, taskId) :: t.executing } else t
  | .workerExits kind taskId =>
    { t with executing := t.executing.filter (· ≠ (kind, taskId)) }

/-! ## The request -/

/-- The local variables of the request; a list of consumers is `none` until it has been read. -/
structure Deletion where
  /-- The dataset as the request first reads it. -/
  dataset : DatasetRow
  /-- The row as `mark_deleting` finds it; the request does not know it. -/
  before : DatasetRow
  datasetPaths : List String := []
  activeGenerationConsumers : Option (List String) := none
  activeTrainingConsumers : Option (List String) := none
  activeEvaluationConsumers : Option (List String) := none
  milvusLinks : Option (List Milvus.LinkRow) := none

def Deletion.foundNone (d : Deletion) : Kind → Bool
  | .task .generation => d.activeGenerationConsumers = some []
  | .task .training => d.activeTrainingConsumers = some []
  | .task .evaluation => d.activeEvaluationConsumers = some []
  | .link => d.milvusLinks = some []

/-- No consumer was found. -/
def Deletion.isUnused (d : Deletion) : Bool :=
  d.foundNone (.task .generation) && d.foundNone (.task .training) &&
    d.foundNone (.task .evaluation) && d.foundNone .link

inductive Phase where
  | idle
  | read (dataset : DatasetRow)
  | marked (d : Deletion)
  | assetsListed (d : Deletion)
  | generationListed (d : Deletion)
  | trainingListed (d : Deletion)
  | evaluationListed (d : Deletion)
  /-- Consumers are left: the request is going to be refused. -/
  | conflict (d : Deletion)
  /-- No consumer is left: the storage is going to be deleted. -/
  | clear (d : Deletion)
  | storageDeleted (d : Deletion)
  | assetsDeleted (d : Deletion)
  /-- The cleanup failed; the record is retained. -/
  | retained (d : Deletion)
  | finished

structure State where
  tables : Tables
  phase : Phase

def datasetPaths (dataset : DatasetRow) (assets : List Generation.AssetRow) : List String :=
  ((dataset.references ++ assets.map Generation.AssetRow.storageUri).filter
    (strip · ≠ "")).dedup.insertionSort (· ≤ ·)

def deletionOwner (datasetId : String) : Option String := some ("dataset:" ++ datasetId)

def writingStatuses : List DatasetStatus := [.uploading, .downloading, .processing]

/-- The first read: `get_dataset`, the check of the ownership, and the check of the status. -/
def startDeletion (rows : Datasets) (datasetId : String) (owned : Bool) : Phase :=
  match rows.lookup datasetId with
  | none => .finished
  | some dataset =>
    if dataset.status = .staging ∨ ¬ owned ∨ dataset.status ∈ writingStatuses then .finished
    else .read dataset

/-- The next session of the request; `fails` says that the database or the storage raises. -/
def State.session (s : State) (fails : Bool) : State :=
  match s.phase with
  | .idle => s
  | .read dataset =>
    match Dataset.markDeleting s.tables.datasets dataset.datasetId
        (deletionOwner dataset.datasetId) dataset.userId, fails with
    | .ok (true, rows), false =>
      let before := (s.tables.datasets.lookup dataset.datasetId).getD dataset
      ⟨{ s.tables with datasets := rows }, .marked { dataset, before }⟩
    | _, _ => { s with phase := .finished }
  | .marked d =>
    if fails then { s with phase := .finished }
    else
      let assets := s.tables.assets.filter fun a => a.datasetId = d.dataset.datasetId
      { s with phase := .assetsListed { d with datasetPaths := datasetPaths d.dataset assets } }
  | .assetsListed d =>
    if fails then { s with phase := .finished }
    else
      let consumers := s.tables.listGeneration [d.dataset.datasetId]
      { s with phase := .generationListed { d with activeGenerationConsumers := some consumers } }
  | .generationListed d =>
    match s.tables.listTraining host d.datasetPaths, fails with
    | .ok consumers, false =>
      { s with phase := .trainingListed { d with activeTrainingConsumers := some consumers } }
    | _, _ => { s with phase := .finished }
  | .trainingListed d =>
    match s.tables.listEvaluation host [d.dataset.datasetId] d.datasetPaths, fails with
    | .ok consumers, false =>
      { s with phase := .evaluationListed { d with activeEvaluationConsumers := some consumers } }
    | _, _ => { s with phase := .finished }
  | .evaluationListed d =>
    if fails then { s with phase := .finished }
    else
      let d := { d with milvusLinks := some (s.tables.listLinks [d.dataset.datasetId]) }
      { s with phase := if d.isUnused then .clear d else .conflict d }
  | .conflict d =>
    if d.dataset.status = .deleting then { s with phase := .finished }
    else
      match Dataset.restoreFromDeleting s.tables.datasets d.dataset.datasetId
          (deletionOwner d.dataset.datasetId) d.dataset.status d.dataset.userId, fails with
      | .ok (true, rows), false => ⟨{ s.tables with datasets := rows }, .finished⟩
      | _, _ => { s with phase := .finished }
  | .clear d => { s with phase := if fails then .retained d else .storageDeleted d }
  | .storageDeleted d =>
    if fails then { s with phase := .retained d }
    else
      let assets := s.tables.assets.filter fun a => a.datasetId ≠ d.dataset.datasetId
      ⟨{ s.tables with assets := assets }, .assetsDeleted d⟩
  | .assetsDeleted d =>
    match Dataset.deleteDataset s.tables.datasets d.dataset.datasetId
        (deletionOwner d.dataset.datasetId) d.dataset.userId, fails with
    | .ok (true, rows), false => ⟨{ s.tables with datasets := rows }, .finished⟩
    | _, _ => { s with phase := .retained d }
  | .retained _ => s
  | .finished => s

/-- A step of the system. -/
inductive Action where
  | startDeletion (datasetId : String) (owned : Bool)
  | session (fails : Bool)
  | transaction (transaction : Transaction)

def step (s : State) : Action → State
  | .startDeletion datasetId owned =>
    match s.phase with
    | .idle => { s with phase := startDeletion s.tables.datasets datasetId owned }
    | _ => s
  | .session fails => s.session host fails
  | .transaction transaction => { s with tables := s.tables.apply host transaction }

end DatasetDeletion
