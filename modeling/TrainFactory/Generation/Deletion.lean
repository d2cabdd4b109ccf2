import TrainFactory.Generation.Publication
import TrainFactory.Sync.Operations

/-!
# The deletion of a generation task

The deletion of a generation task also deletes the row with which the sync service tracks it. The
deletion transactions of `GenerationTaskService`, the check that the deletion routes make before
them, and the pass with which the sync service takes back the batches of generations that ended.
-/

namespace Generation

open Lib
open Dataset (DatasetRow)
open Sync (ExternalSyncGeneration)

/-- The tables of the sync service and those of the generation service, in one database. -/
structure System where
  sync : Sync.Database
  generation : Database

abbrev SystemOutcome (α : Type) := Except GenerationError (α × System)

def SystemOutcome.commit {α : Type} (o : SystemOutcome α) (s : System) : System :=
  match o with
  | .ok (_, s') => s'
  | .error _ => s

def System.onGeneration {α : Type} (s : System) (o : Outcome α) : System :=
  { s with generation := o.commit s.generation }

/-! ## Creation -/

/-- The arguments of `create_task`, with the tokens it draws; `available` is the answer of the locks
on the runtime dependencies. -/
structure CreateTask where
  taskId : String
  userId : Option String
  generationMode : String
  outputPath : Option String
  sourceDatasetId : Option String
  milvusCollection : Option String
  requireSourceDataset : Bool
  runToken : String
  available : Bool

def CreateTask.row (args : CreateTask) : GenerationTask where
  taskId := args.taskId
  userId := args.userId
  generationMode := args.generationMode
  outputPath := args.outputPath
  sourceDatasetId := args.sourceDatasetId
  milvusCollection := args.milvusCollection
  runToken := some args.runToken

def createTask (host : Host) (args : CreateTask) (db : Database) : Outcome GenerationTask :=
  match host.lockDatasetsForConsumption db.datasets
      { datasetIds := args.sourceDatasetId.toList.filter (· ≠ "")
        storageRefs := []
        requireAllDatasetIds := args.requireSourceDataset
        requireAllStorageRefs := false } with
  | .error e => .error (.dataset e)
  | .ok _ =>
    if ¬ collectionLocked db args.row then .error .collectionUnavailable
    else if ¬ args.available then .error .dependencyUnavailable
    else
      match db.tasks.insert args.row with
      | none => .error (.runtimeError "UNIQUE constraint failed: generation_tasks.task_id")
      | some tasks => .ok (args.row, { db with tasks := tasks })

/-! ## Deletion -/

/-- `GenerationTaskDeletionIntent`. -/
structure DeletionIntent where
  task : GenerationTask
  newlyStarted : Bool
  previousStatus : Option GenerationStatus

/-- `DELETING_CASCADE` or `DELETING`. -/
def requestedStatus (cascade : Bool) : GenerationStatus :=
  if cascade then .deletingCascade else .deleting

def ownerChanged (userId : Option String) (task : GenerationTask) : Bool :=
  truthy userId && task.userId ≠ userId

def writeStatus (db : Database) (taskId : String) (status : GenerationStatus) : Database :=
  let values := fun t : GenerationTask => { t with status := status }
  { db with tasks := db.tasks.update taskId (keepId values) (key_keepId values) }

def beginTaskDeletion (taskId : String) (cascade : Bool) (userId : Option String) (db : Database) :
    Outcome (Option DeletionIntent) :=
  match db.tasks.lookup taskId with
  | none => .ok (none, db)
  | some task =>
    if ownerChanged userId task then
      .error (.permissionError "Generation task owner changed during deletion")
    else if task.status ∈ deletingStatuses then
      if task.status ≠ requestedStatus cascade then
        .error (.valueError "Generation task deletion mode cannot change after cleanup starts")
      else .ok (some ⟨task, false, none⟩, db)
    else if task.status ∉ terminalStatuses then
      .error (.valueError "Cannot delete a running generation task")
    else
      .ok (some ⟨{ task with status := requestedStatus cascade }, true, some task.status⟩,
        writeStatus db taskId (requestedStatus cascade))

def cancelTaskDeletion (taskId : String) (cascade : Bool) (previousStatus : GenerationStatus)
    (userId : Option String) (db : Database) : Outcome Bool :=
  if previousStatus ∉ terminalStatuses then
    .error (.valueError "Invalid generation deletion rollback status")
  else
    match db.tasks.lookup taskId with
    | none => .ok (false, db)
    | some task =>
      if task.status ≠ requestedStatus cascade then .ok (false, db)
      else if ownerChanged userId task then
        .error (.permissionError "Generation task owner changed during deletion rollback")
      else .ok (true, writeStatus db taskId previousStatus)

def undeletableStatuses : List GenerationStatus :=
  [.pending, .running, .stopping, .publishing, .recovering, .restarting]

def System.removeTask (s : System) (taskId : String) : System where
  sync := { s.sync with
    generations := s.sync.generations.deleteWhere fun g => g.generationTaskId = taskId }
  generation := { s.generation with
    tasks := s.generation.tasks.deleteWhere fun t => t.taskId = taskId }

def deleteTask (taskId : String) (expectedStatus : Option GenerationStatus)
    (userId : Option String) (s : System) : SystemOutcome Bool :=
  match s.generation.tasks.lookup taskId with
  | none => .ok (false, s)
  | some task =>
    if expectedStatus.any (task.status ≠ ·) then .ok (false, s)
    else if ownerChanged userId task then
      .error (.permissionError "Generation task owner changed during deletion")
    else if task.status ∈ undeletableStatuses then .ok (false, s)
    else .ok (true, s.removeTask taskId)

def checkOutputDataset (taskId owner : String) (userId : Option String) (d : DatasetRow) :
    Except GenerationError Unit :=
  if truthy userId ∧ d.userId ≠ userId then
    .error (.permissionError "Generation output dataset owner changed during deletion")
  else if ¬ isProductOf taskId d then
    .error (.permissionError "Dataset is not owned by the generation task")
  else if d.status ≠ .deleting then
    .error (.runtimeError "Generation output dataset is not fenced for deletion")
  else if d.deletionOwner ≠ some owner then
    .error (.dataset (.deletionOwnerConflict "Dataset is owned by another deletion operation"))
  else .ok ()

def checkOutputDatasets (taskId owner : String) (userId : Option String) (datasetIds : List String)
    (db : Database) : Except GenerationError Unit :=
  if datasetIds.any fun id => (db.datasets.lookup id).isNone then
    .error (.runtimeError "Generation output dataset disappeared during deletion")
  else (datasetIds.filterMap db.datasets.lookup).forM (checkOutputDataset taskId owner userId)

def removeDatasets (datasetIds : List String) (db : Database) : Database :=
  { db with
    assets := db.assets.filter fun a => ¬ a.datasetId ∈ datasetIds
    edges := db.edges.deleteWhere fun e =>
      e.fromDatasetId.any (· ∈ datasetIds) || e.toDatasetId ∈ datasetIds
    datasets := db.datasets.deleteWhere fun d => d.datasetId ∈ datasetIds }

def deleteTaskWithDatasets (taskId : String) (datasetIds : List String)
    (deletionOwner userId : Option String) (s : System) : SystemOutcome Bool :=
  match Dataset.requireDatasetDeletionOwner deletionOwner with
  | .error e => .error (.dataset e)
  | .ok owner =>
    match s.generation.tasks.lookup taskId with
    | none => .ok (false, s)
    | some task =>
      if task.status ≠ .deletingCascade then .ok (false, s)
      else if ownerChanged userId task then
        .error (.permissionError "Generation task owner changed during deletion")
      else
        match checkOutputDatasets taskId owner userId datasetIds.eraseDups s.generation with
        | .error e => .error e
        | .ok () =>
          .ok (true,
            ({ s with generation := removeDatasets datasetIds.eraseDups s.generation }).removeTask
              taskId)

def rejectPendingSyncTracking (generationTaskId : String) (s : System) :
    Except GenerationError Unit :=
  if (s.sync.generations.lookup generationTaskId).any fun g => g.status = .pending then
    .error (.conflict "Sync generation tracking is still pending reconciliation")
  else .ok ()

/-! ## The restore pass -/

def restoreReason : Option GenerationStatus → String
  | none => "Generation task missing; batches restored for retry"
  | some .stopped => "Stopped generation batches restored for retry"
  | some _ => "Failed generation batches restored for retry"

/-- One generation of the restore pass. `finalize` is `_finalize_sync_generation_tracking`, which
the pass calls for a completed task. -/
def restoreGeneration (finalize : GenerationTask → Sync.Database → Sync.Database)
    (now : Sync.DateTime) (s : System) (generationTaskId : String) : System :=
  let restored := fun status => { s with
    sync := (Sync.failGenerationAndRestoreBatches now generationTaskId (restoreReason status)
      s.sync).commit s.sync }
  match s.generation.tasks.lookup generationTaskId with
  | none => restored none
  | some task =>
    if task.status = .completed then { s with sync := finalize task s.sync }
    else if task.status = .failed ∨ task.status = .stopped then restored (some task.status)
    else s

def pendingGenerationIds (db : Sync.Database) (taskId : String) : List String :=
  ((db.generations.select fun g => g.taskId = taskId && g.status = .pending).map
    ExternalSyncGeneration.generationTaskId).filter (· ≠ "")

def restoreStoppedQueuedBatches (finalize : GenerationTask → Sync.Database → Sync.Database)
    (now : Sync.DateTime) (taskId : String) (s : System) : System :=
  (pendingGenerationIds s.sync taskId).foldl (restoreGeneration finalize now) s

/-! ## Runs -/

/-- A transaction on the two services. -/
inductive Action where
  | sync (op : Sync.Op)
  | generation (op : Op)
  | createTask (args : CreateTask)
  | beginTaskDeletion (taskId : String) (cascade : Bool) (userId : Option String)
  | cancelTaskDeletion (taskId : String) (cascade : Bool) (previousStatus : GenerationStatus)
      (userId : Option String)
  | rejectPendingSyncTracking (taskId : String)
  | deleteTask (taskId : String) (expectedStatus : Option GenerationStatus)
      (userId : Option String)
  | deleteTaskWithDatasets (taskId : String) (datasetIds : List String)
      (deletionOwner userId : Option String)

/-- The system, and what its callers know: the ids under which tasks have been created, those of
which a deletion has its intent, and those that such a deletion has found without pending
tracking. -/
structure Lifecycle where
  system : System
  created : List String
  intended : List String := []
  cleared : List String := []

variable (env : Sync.Env) (host : Host)

def System.apply (s : System) : Action → System
  | .sync op => { s with sync := op.apply env s.sync }
  | .generation op => { s with generation := op.apply host s.generation }
  | .createTask args => s.onGeneration (createTask host args s.generation)
  | .beginTaskDeletion taskId cascade userId =>
    s.onGeneration (Generation.beginTaskDeletion taskId cascade userId s.generation)
  | .cancelTaskDeletion taskId cascade previousStatus userId =>
    s.onGeneration
      (Generation.cancelTaskDeletion taskId cascade previousStatus userId s.generation)
  | .rejectPendingSyncTracking _ => s
  | .deleteTask taskId expectedStatus userId =>
    (Generation.deleteTask taskId expectedStatus userId s).commit s
  | .deleteTaskWithDatasets taskId datasetIds deletionOwner userId =>
    (Generation.deleteTaskWithDatasets taskId datasetIds deletionOwner userId s).commit s

def System.returnsIntent (s : System) : Action → Bool
  | .beginTaskDeletion taskId cascade userId =>
    match Generation.beginTaskDeletion taskId cascade userId s.generation with
    | .ok (some _, _) => true
    | _ => false
  | _ => false

/-- The state after a transaction. -/
def Lifecycle.step (s : Lifecycle) (action : Action) : Lifecycle :=
  let next := { s with system := s.system.apply env host action }
  match action with
  | .createTask args => { next with created := args.taskId :: s.created }
  | .beginTaskDeletion taskId _ _ =>
    if s.system.returnsIntent action then { next with intended := taskId :: s.intended } else next
  | .rejectPendingSyncTracking taskId =>
    if taskId ∈ s.intended ∧ (Generation.rejectPendingSyncTracking taskId s.system).toBool then
      { next with cleared := taskId :: s.cleared }
    else next
  | _ => next

def isBatchTransaction : Sync.Op → Bool
  | .createBatch .. | .promoteBatchToFetched .. | .createGenerationAndClaimBatches .. |
    .completeGenerationAndConsumeBatches .. | .failGenerationAndRestoreBatches .. => true
  | _ => false

end Generation
