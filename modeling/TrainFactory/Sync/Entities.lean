import TrainFactory.Lib.Json
import TrainFactory.Lib.Table
import Mathlib.Data.List.Basic
import Mathlib.Data.List.Sort

/-!
# Statuses of the sync entities

The status enumerations of `enums/sync_status.py`, the transition tables of `ExternalSyncService`,
and the errors its transactions raise.
-/

namespace Sync

/-- What a service call raises; the text is the exception's message. -/
inductive SyncError where
  | valueError (message : String)
  | permissionError (message : String)
  | runtimeError (message : String)
  /-- `BackgroundTaskAlreadyExecuting`. -/
  | alreadyExecuting (message : String)
  /-- `SyncResourceLimitExceeded`. -/
  | resourceLimit (message : String)
  /-- A date before the first one. -/
  | overflowError
  | osError (message : String)
  /-- A `UNIQUE` column already holds the value. -/
  | integrityError
  /-- `RuntimeDependencyUnavailableError`, `RuntimeDependencyChangedError`. -/
  | dependency (message : String)
deriving DecidableEq

/-- `str(e)`. -/
def SyncError.message : SyncError → String
  | .valueError m | .permissionError m | .runtimeError m | .alreadyExecuting m
  | .resourceLimit m | .osError m | .dependency m => m
  | .overflowError => "date value out of range"
  | .integrityError => "UNIQUE constraint failed"

/-- `SyncStatus`: status of a sync task. -/
inductive SyncStatus where
  | idle | syncing | generating | training | loadingAdapter | error | deleting | deletingCascade
deriving DecidableEq

inductive BatchStatus where
  | fetched | registered | generationQueued | generationDone
deriving DecidableEq

inductive SyncGenerationStatus where
  | pending | completed | failed
deriving DecidableEq

inductive SyncTrainingStatus where
  | pending | completed | failed | adapterLoaded | adapterUnloaded | adapterLoadFailed
  | adapterFailed
deriving DecidableEq

inductive TrainingTargetStatus where
  | idle | ready | training | loadingAdapter | error
deriving DecidableEq

/-- A status enumeration with the strings the database stores. -/
class StatusValue (S : Type) where
  /-- The stored string. -/
  value : S → String

instance : StatusValue SyncStatus where
  value
    | .idle => "idle"
    | .syncing => "syncing"
    | .generating => "generating"
    | .training => "training"
    | .loadingAdapter => "loading_adapter"
    | .error => "error"
    | .deleting => "deleting"
    | .deletingCascade => "deleting_cascade"

instance : StatusValue BatchStatus where
  value
    | .fetched => "fetched"
    | .registered => "registered"
    | .generationQueued => "generation_queued"
    | .generationDone => "generation_done"

instance : StatusValue SyncTrainingStatus where
  value
    | .pending => "pending"
    | .completed => "completed"
    | .failed => "failed"
    | .adapterLoaded => "adapter_loaded"
    | .adapterUnloaded => "adapter_unloaded"
    | .adapterLoadFailed => "adapter_load_failed"
    | .adapterFailed => "adapter_failed"

instance : StatusValue TrainingTargetStatus where
  value
    | .idle => "idle"
    | .ready => "ready"
    | .training => "training"
    | .loadingAdapter => "loading_adapter"
    | .error => "error"

/-- `_SYNC_DELETING_STATUSES`. -/
def SyncStatus.isDeleting : SyncStatus → Bool
  | .deleting | .deletingCascade => true
  | _ => false

def taskStatusTransitions : SyncStatus → List SyncStatus
  | .idle =>
    [.syncing, .generating, .training, .loadingAdapter, .error, .deleting, .deletingCascade]
  | .syncing => [.idle, .generating, .training, .error, .deleting, .deletingCascade]
  | .generating => [.idle, .training, .error, .deleting, .deletingCascade]
  | .training => [.idle, .loadingAdapter, .error, .deleting, .deletingCascade]
  | .loadingAdapter => [.idle, .error, .deleting, .deletingCascade]
  | .error =>
    [.idle, .syncing, .generating, .training, .loadingAdapter, .deleting, .deletingCascade]
  | .deleting => []
  | .deletingCascade => []

def trainingStatusTransitions : SyncTrainingStatus → List SyncTrainingStatus
  | .pending => [.completed, .failed, .adapterLoadFailed, .adapterFailed, .adapterLoaded]
  | .completed => [.adapterLoaded, .adapterLoadFailed, .adapterFailed]
  | .failed => [.adapterLoadFailed, .adapterFailed, .adapterLoaded]
  | .adapterLoaded => [.adapterUnloaded, .adapterLoadFailed, .adapterFailed]
  | .adapterUnloaded => [.adapterLoaded, .adapterLoadFailed, .adapterFailed]
  | .adapterLoadFailed => [.adapterLoaded, .adapterFailed]
  | .adapterFailed => [.adapterLoaded, .adapterLoadFailed]

def targetStatusTransitions : TrainingTargetStatus → List TrainingTargetStatus
  | .idle => [.ready, .training, .error]
  | .ready => [.training, .idle, .error]
  | .training => [.idle, .loadingAdapter, .error]
  | .loadingAdapter => [.idle, .error]
  | .error => [.idle, .ready, .training]

/-- A Python list of strings as `str` prints it. -/
def strList (values : List String) : String :=
  "[" ++ ", ".intercalate (values.map fun v => "'" ++ v ++ "'") ++ "]"

/-- `_validate_transition`, for a status that the table knows: staying is always allowed, any other
move must be listed. -/
def validateTransition {S : Type} [DecidableEq S] [StatusValue S] (transitions : S → List S)
    (scope : String) (current new : S) : Except SyncError Unit :=
  if current = new ∨ new ∈ transitions current then .ok ()
  else .error (.valueError ("Invalid " ++ scope ++ " status transition: " ++
    StatusValue.value current ++ " -> " ++ StatusValue.value new ++ ". Allowed: " ++
    strList (((transitions current).map StatusValue.value).mergeSort (· ≤ ·))))

/-- `validateTransition` accepts exactly the listed moves and staying. -/
theorem validateTransition_eq_ok {S : Type} [DecidableEq S] [StatusValue S]
    {transitions : S → List S} {scope : String} {current new : S} :
    validateTransition transitions scope current new = .ok () ↔
      current = new ∨ new ∈ transitions current := by
  unfold validateTransition
  split <;> simp_all

theorem taskStatusTransitions_deleting {s s' : SyncStatus} (h : s.isDeleting = true)
    (ht : s = s' ∨ s' ∈ taskStatusTransitions s) : s' = s := by
  cases s <;> simp_all [SyncStatus.isDeleting, taskStatusTransitions]

end Sync

/-!
## The sync tables

The rows of the sync service (`external_sync_entity.py`) with the columns its transactions read or
write, and the database they make up. Columns read back what was written to them, but a date column
keeps whole seconds. Unset strings, dates and foreign keys are `none`, as `NULL` is in the tables.
-/

namespace Sync

open Lib

/-- A naive `datetime`, in microseconds since `datetime.min`. -/
abbrev DateTime := Nat

/-- What a `DATETIME` column reads back: a column without fractional digits rounds to the second,
half a second up. The clock readings of `created_at` and `completed_at` are given as read back. -/
def datetimeColumn (t : DateTime) : DateTime := (t + 500000) / 1000000 * 1000000

/-- `ExternalSyncTaskDB`. -/
structure ExternalSyncTask where
  taskId : String
  userId : String
  externalApiConfigId : Option String := none
  externalApiUrl : String := ""
  boundaryRollbackSeconds : Nat := 5
  lastSyncAt : Option DateTime := none
  lastSyncBoundaryIds : List String := []
  generationThreshold : Int := 500
  trainingThreshold : Int := 1000
  trainingConfig : Option Json := none
  baseDeploymentId : Option String := none
  baseDeploymentReplicaId : Option String := none
  milvusCollectionName : Option String := none
  pendingRecordCount : Int := 0
  pendingTrainingSamples : Int := 0
  totalRecordCount : Int := 0
  totalTrainingSamples : Int := 0
  totalTrainings : Int := 0
  currentAdapterName : Option String := none
  currentAdapterId : Option String := none
  currentTrainingId : Option String := none
  isActive : Bool := true
  status : SyncStatus := .idle
  errorMessage : Option String := none

/-- `ExternalSyncBatchDB`. -/
structure ExternalSyncBatch where
  batchId : String
  taskId : String
  userId : String
  recordCount : Int := 0
  storagePath : String
  datasetId : Option String := none
  sinceTime : Option DateTime := none
  untilTime : Option DateTime := none
  fetchedAt : DateTime
  status : BatchStatus := .fetched
  generationTaskId : Option String := none

/-- `ExternalSyncTrainingTargetDB`. -/
structure ExternalSyncTrainingTarget where
  targetId : String
  taskId : String
  targetName : String
  modelType : String := "embedding"
  dataPhase : String := "final"
  trainingMethod : String := "sft"
  trainingConfig : Json := .obj []
  baseModelPath : String := ""
  baseDeploymentId : Option String := none
  baseDeploymentReplicaId : Option String := none
  trainingThreshold : Int := 1000
  pendingTrainingSamples : Int := 0
  totalTrainingSamples : Int := 0
  totalTrainings : Int := 0
  currentAdapterName : Option String := none
  currentAdapterId : Option String := none
  currentTrainingId : Option String := none
  priority : Int := 0
  sortOrder : Int := 0
  status : TrainingTargetStatus := .idle
  isActive : Bool := true

/-- `ExternalSyncGenerationDB`. -/
structure ExternalSyncGeneration where
  generationTaskId : String
  taskId : String
  userId : String
  inputBatchIds : List String := []
  inputRecordCount : Int := 0
  outputDatasetId : Option String := none
  outputSampleCount : Int := 0
  qaDatasetId : Option String := none
  qaSampleCount : Int := 0
  status : SyncGenerationStatus := .pending
  createdAt : DateTime
  completedAt : Option DateTime := none
  disabled : Bool := false

/-- The `target_config_snapshot` of a training: the binding that was effective when it was claimed,
and for a target training the target's configuration. -/
structure TargetConfigSnapshot where
  targetId : Option String
  taskId : String
  baseDeploymentId : Option String
  baseDeploymentReplicaId : Option String
  targetName : Option String := none
  modelType : Option String := none
  dataPhase : Option String := none
  trainingMethod : Option String := none
  trainingConfig : Option Json := none
  baseModelPath : Option String := none

/-- `ExternalSyncTrainingDB`. -/
structure ExternalSyncTraining where
  trainingTaskId : String
  taskId : String
  userId : String
  targetId : Option String := none
  inputDatasetIds : List String := []
  totalSamples : Int := 0
  trainingRound : Int := 1
  outputAdapterPath : Option String := none
  outputModelRegistryId : Option String := none
  loadedAdapterName : Option String := none
  loadedAdapterId : Option String := none
  previousTrainingTaskId : Option String := none
  claimedSampleCount : Int := 0
  previousTargetStatus : Option TrainingTargetStatus := none
  previousParentStatus : Option SyncStatus := none
  claimReconciled : Bool := false
  targetConfigSnapshot : TargetConfigSnapshot
  status : SyncTrainingStatus := .pending
  createdAt : DateTime
  completedAt : Option DateTime := none

instance : Keyed ExternalSyncTask String := ⟨ExternalSyncTask.taskId⟩
instance : Keyed ExternalSyncBatch String := ⟨ExternalSyncBatch.batchId⟩
instance : Keyed ExternalSyncTrainingTarget String := ⟨ExternalSyncTrainingTarget.targetId⟩
instance : Keyed ExternalSyncGeneration String := ⟨ExternalSyncGeneration.generationTaskId⟩
instance : Keyed ExternalSyncTraining String := ⟨ExternalSyncTraining.trainingTaskId⟩

@[simp] theorem key_task (t : ExternalSyncTask) : Keyed.key t = t.taskId := rfl
@[simp] theorem key_batch (b : ExternalSyncBatch) : Keyed.key b = b.batchId := rfl
@[simp] theorem key_target (t : ExternalSyncTrainingTarget) : Keyed.key t = t.targetId := rfl
@[simp] theorem key_generation (g : ExternalSyncGeneration) :
    Keyed.key g = g.generationTaskId := rfl
@[simp] theorem key_training (t : ExternalSyncTraining) : Keyed.key t = t.trainingTaskId := rfl

/-- The database of the sync service. `uuids` are the values `uuid4` has handed out so far. -/
structure Database where
  tasks : Table ExternalSyncTask
  batches : Table ExternalSyncBatch
  generations : Table ExternalSyncGeneration
  trainings : Table ExternalSyncTraining
  targets : Table ExternalSyncTrainingTarget
  uuids : List String

/-- The limits of `settings.py` that the sync service and worker check, with their defaults. -/
structure Settings where
  syncStorageMaxBytesGlobal : Nat := 20 * 1024 ^ 3
  syncStorageMaxBytesPerUser : Nat := 5 * 1024 ^ 3
  syncPendingMaxBatchesPerTask : Nat := 1000
  syncPendingMaxRecordsPerTask : Nat := 1000000
  syncGenerationMaxInputBytes : Nat := 1024 ^ 3
  syncMaxRecordBytes : Nat := 8 * 1024 ^ 2
  syncMaxFutureSkewSeconds : Nat := 300
  syncBoundaryMaxIds : Nat := 10000
  syncBoundaryMaxBytes : Nat := 4 * 1024 ^ 2
  authEnabled : Bool := true

/-- What a transaction returns: its result and the committed database, or the error it raises after
the rollback. -/
abbrev Outcome (ρ : Type) := Except SyncError (ρ × Database)

/-- The database after a transaction: a transaction that raises changes nothing. -/
def Outcome.commit {ρ : Type} (db : Database) : Outcome ρ → Database
  | .ok (_, db') => db'
  | .error _ => db

@[simp] theorem Outcome.commit_ok {ρ : Type} (db db' : Database) (r : ρ) :
    Outcome.commit db (.ok (r, db')) = db' := rfl

@[simp] theorem Outcome.commit_error {ρ : Type} (db : Database) (e : SyncError) :
    Outcome.commit db (.error e : Outcome ρ) = db := rfl

namespace Database

/-- `SUM(record_count)` over the `FETCHED` batches of a task. -/
def fetchedRecords (db : Database) (taskId : String) : Int :=
  db.batches.sumBy fun b => if b.taskId = taskId ∧ b.status = .fetched then b.recordCount else 0

def targetsOf (db : Database) (taskId : String) : List ExternalSyncTrainingTarget :=
  db.targets.select fun t => t.taskId = taskId

end Database

end Sync
