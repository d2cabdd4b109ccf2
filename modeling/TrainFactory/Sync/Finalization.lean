import Mathlib.Data.Rat.Defs
import TrainFactory.Sync.Entities

/-!
# The end of a task deletion

`finalize_task_deletion`: the parent row of a task and the rows of its batches, generations,
trainings and targets are deleted in one transaction, if they are still the rows of the snapshot
that was taken before the deletion. Texts are compared exactly.
-/

namespace Sync

open Lib

/-! ## Rows and their identities -/

structure StoredRow (R : Type) where
  id : Int
  row : R

instance {R : Type} : Keyed (StoredRow R) Int := ⟨StoredRow.id⟩

/-- The tables of the sync service, with the primary keys of their rows. -/
structure StoredDatabase where
  tasks : Table (StoredRow ExternalSyncTask)
  batches : Table (StoredRow ExternalSyncBatch)
  generations : Table (StoredRow ExternalSyncGeneration)
  trainings : Table (StoredRow ExternalSyncTraining)
  targets : Table (StoredRow ExternalSyncTrainingTarget)

/-- A value that can be the key of a dictionary. The numbers compare by value. -/
inductive Scalar where
  | null
  | number (q : Rat)
  | text (s : String)
deriving DecidableEq

def Scalar.ofOption : Option String → Scalar
  | none => .null
  | some s => .text s

/-- A value as the key of a dictionary; `none` for an unhashable value. -/
def scalarOf : Json → Option Scalar
  | .null => some .null
  | .bool b => some (.number (if b then 1 else 0))
  | .int n => some (.number n)
  | .float q => some (.number q)
  | .str s => some (.text s)
  | .arr _ => none
  | .obj _ => none

instance : StatusValue SyncGenerationStatus where
  value
    | .pending => "pending"
    | .completed => "completed"
    | .failed => "failed"

/-- A column that is compared with the entry of its name in a snapshot. -/
structure Field (R : Type) where
  name : String
  column : StoredRow R → Scalar

/-- The rows of one table: how a snapshot identifies them, and what it has to know of them. -/
structure Resource (R : Type) where
  /-- The name in the errors of the rows. -/
  name : String
  /-- The name in the errors of the snapshot. -/
  snapshotName : String
  identityKey : String
  identity : StoredRow R → Scalar
  taskId : R → String
  fields : List (Field R)

def batchResource : Resource ExternalSyncBatch where
  name := "Sync batch"
  snapshotName := "sync batch"
  identityKey := "batch_id"
  identity b := .text b.row.batchId
  taskId := ExternalSyncBatch.taskId
  fields :=
    [⟨"batch_id", fun b => .text b.row.batchId⟩,
      ⟨"task_id", fun b => .text b.row.taskId⟩,
      ⟨"user_id", fun b => .text b.row.userId⟩,
      ⟨"storage_path", fun b => .text b.row.storagePath⟩,
      ⟨"status", fun b => .text (StatusValue.value b.row.status)⟩,
      ⟨"dataset_id", fun b => .ofOption b.row.datasetId⟩,
      ⟨"generation_task_id", fun b => .ofOption b.row.generationTaskId⟩]

def generationResource : Resource ExternalSyncGeneration where
  name := "Sync generation"
  snapshotName := "sync generation"
  identityKey := "id"
  identity g := .number g.id
  taskId := ExternalSyncGeneration.taskId
  fields :=
    [⟨"id", fun g => .number g.id⟩,
      ⟨"task_id", fun g => .text g.row.taskId⟩,
      ⟨"user_id", fun g => .text g.row.userId⟩,
      ⟨"generation_task_id", fun g => .text g.row.generationTaskId⟩,
      ⟨"output_dataset_id", fun g => .ofOption g.row.outputDatasetId⟩,
      ⟨"status", fun g => .text (StatusValue.value g.row.status)⟩]

def trainingResource : Resource ExternalSyncTraining where
  name := "Sync training"
  snapshotName := "sync training"
  identityKey := "id"
  identity t := .number t.id
  taskId := ExternalSyncTraining.taskId
  fields :=
    [⟨"id", fun t => .number t.id⟩,
      ⟨"task_id", fun t => .text t.row.taskId⟩,
      ⟨"user_id", fun t => .text t.row.userId⟩,
      ⟨"training_task_id", fun t => .text t.row.trainingTaskId⟩,
      ⟨"status", fun t => .text (StatusValue.value t.row.status)⟩,
      ⟨"loaded_adapter_name", fun t => .ofOption t.row.loadedAdapterName⟩,
      ⟨"loaded_adapter_id", fun t => .ofOption t.row.loadedAdapterId⟩]

variable {R : Type}

def Resource.rowsOf (resource : Resource R) (taskId : String) (table : Table (StoredRow R)) :
    List (StoredRow R) :=
  table.select fun r => resource.taskId r.row = taskId

def metadataChanged (resourceName : String) : SyncError :=
  .valueError (resourceName ++ " metadata changed during deletion")

/-! ## Snapshots -/

/-- `_snapshot_map`, with what it has mapped so far. -/
def snapshotMap (resource : Resource R) :
    List Json → List (Scalar × Json) → Except SyncError (List (Scalar × Json))
  | [], mapped => .ok mapped
  | item :: items, mapped =>
    match scalarOf (item.getD resource.identityKey .null) with
    | none => .error (.runtimeError "unhashable type")
    | some identity =>
      if identity = .null ∨ identity = .text "" ∨ identity ∈ mapped.map Prod.fst then
        .error (.valueError ("Invalid " ++ resource.snapshotName ++ " deletion snapshot"))
      else snapshotMap resource items (mapped ++ [(identity, item)])

/-- Every compared column has the value of its entry. -/
def Resource.agrees (resource : Resource R) (row : StoredRow R) (expected : Json) : Bool :=
  resource.fields.all fun f => scalarOf (expected.getD f.name .null) = some (f.column row)

/-- The loop over the identities of a snapshot: the rows that they identify, each of them as
expected. With `skipMissing` an identity may have no row. -/
def lockRows {ε : Type} (skipMissing : Bool) (rows : List (StoredRow R))
    (identity : StoredRow R → Scalar) (key : ε → Scalar) (ok : ε → StoredRow R → Bool)
    (changed : SyncError) : List ε → Except SyncError (List (StoredRow R))
  | [] => .ok []
  | e :: es =>
    match rows.find? fun r => identity r = key e with
    | none =>
      if skipMissing then lockRows skipMissing rows identity key ok changed es
      else .error changed
    | some row =>
      if ok e row then
        match lockRows skipMissing rows identity key ok changed es with
        | .error e => .error e
        | .ok more => .ok (row :: more)
      else .error changed

/-- The rows of a snapshot, each of them as the snapshot has it. -/
def Resource.lock (resource : Resource R) (skipMissing : Bool) (table : Table (StoredRow R))
    (entries : List (Scalar × Json)) : Except SyncError (List (StoredRow R)) :=
  lockRows skipMissing table.rows resource.identity Prod.fst
    (fun e row => resource.agrees row e.2) (metadataChanged resource.name) entries

def lockBatches (taskId : String) (table : Table (StoredRow ExternalSyncBatch))
    (entries : List (Scalar × Json)) : Except SyncError (List (StoredRow ExternalSyncBatch)) :=
  if (batchResource.rowsOf taskId table).length ≠ entries.length then
    .error (metadataChanged batchResource.name)
  else batchResource.lock false table entries

def lockTracked (resource : Resource R) (cascade : Bool) (taskId : String)
    (table : Table (StoredRow R)) (entries : List (Scalar × Json)) :
    Except SyncError (List (StoredRow R)) :=
  let rows := resource.rowsOf taskId table
  let unknown := rows.filter fun r => resource.identity r ∉ entries.map Prod.fst
  if unknown.length ≠ 0 ∨ (cascade = false ∧ rows.length ≠ entries.length) then
    .error (metadataChanged resource.name)
  else resource.lock cascade table entries

def lockTargets (taskId : String) (table : Table (StoredRow ExternalSyncTrainingTarget))
    (targetIds : List Scalar) : Except SyncError (List (StoredRow ExternalSyncTrainingTarget)) :=
  let changed := metadataChanged "Sync training target"
  if (table.select fun t => t.row.taskId = taskId).length ≠ targetIds.length then .error changed
  else
    lockRows false table.rows (fun t => .text t.row.targetId) id (fun _ t => t.row.taskId = taskId)
      changed targetIds

/-! ## The transaction -/

/-- The arguments of `finalize_task_deletion`. -/
structure FinalizeRequest where
  taskId : String
  cascade : Bool
  expectedUserId : Option String
  expectedTaskIdentity : Option Int
  batchSnapshot : List Json
  generationSnapshot : List Json
  trainingSnapshot : List Json
  expectedTrainingTargetIds : List Scalar

def FinalizeRequest.expectedStatus (request : FinalizeRequest) : SyncStatus :=
  if request.cascade then .deletingCascade else .deleting

structure SnapshotMaps where
  batches : List (Scalar × Json)
  generations : List (Scalar × Json)
  trainings : List (Scalar × Json)

def FinalizeRequest.maps (request : FinalizeRequest) : Except SyncError SnapshotMaps :=
  match snapshotMap batchResource request.batchSnapshot [] with
  | .error e => .error e
  | .ok batches =>
    match snapshotMap generationResource request.generationSnapshot [] with
    | .error e => .error e
    | .ok generations =>
      match snapshotMap trainingResource request.trainingSnapshot [] with
      | .error e => .error e
      | .ok trainings =>
        if ¬ request.expectedTrainingTargetIds.Nodup ∨
            request.expectedTrainingTargetIds.any fun t => t = .null ∨ t = .text "" then
          .error (.valueError "Invalid sync training target deletion snapshot")
        else .ok ⟨batches, generations, trainings⟩

structure LockedRows where
  batches : List (StoredRow ExternalSyncBatch)
  generations : List (StoredRow ExternalSyncGeneration)
  trainings : List (StoredRow ExternalSyncTraining)
  targets : List (StoredRow ExternalSyncTrainingTarget)

def lockSnapshot (request : FinalizeRequest) (maps : SnapshotMaps) (db : StoredDatabase) :
    Except SyncError LockedRows :=
  match lockBatches request.taskId db.batches maps.batches with
  | .error e => .error e
  | .ok batches =>
    match lockTracked generationResource request.cascade request.taskId db.generations
      maps.generations with
    | .error e => .error e
    | .ok generations =>
      match lockTracked trainingResource request.cascade request.taskId db.trainings
        maps.trainings with
      | .error e => .error e
      | .ok trainings =>
        match lockTargets request.taskId db.targets request.expectedTrainingTargetIds with
        | .error e => .error e
        | .ok targets => .ok ⟨batches, generations, trainings, targets⟩

/-- `session.delete(row)` of these rows. -/
def deleteRows (rows : List (StoredRow R)) (table : Table (StoredRow R)) : Table (StoredRow R) :=
  table.deleteWhere fun r => (rows.map StoredRow.id).contains r.id

def StoredDatabase.without (db : StoredDatabase) (locked : LockedRows)
    (config : StoredRow ExternalSyncTask) : StoredDatabase where
  tasks := deleteRows [config] db.tasks
  batches := deleteRows locked.batches db.batches
  generations := deleteRows locked.generations db.generations
  trainings := deleteRows locked.trainings db.trainings
  targets := deleteRows locked.targets db.targets

/-- `finalize_task_deletion`: its result and the committed database, or the error it raises after
the rollback. -/
def finalizeTaskDeletion (db : StoredDatabase) (request : FinalizeRequest) :
    Except SyncError (Bool × StoredDatabase) :=
  match request.maps with
  | .error e => .error e
  | .ok maps =>
    match db.tasks.rows.find? fun t => t.row.taskId = request.taskId with
    | none => .ok (false, db)
    | some config =>
      if some config.id ≠ request.expectedTaskIdentity ∨
          some config.row.userId ≠ request.expectedUserId ∨
          config.row.status ≠ request.expectedStatus ∨ config.row.isActive then
        .error (.valueError "Sync task parent changed during deletion")
      else
        match lockSnapshot request maps db with
        | .error e => .error e
        | .ok locked => .ok (true, db.without locked config)

end Sync
