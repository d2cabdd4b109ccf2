import TrainFactory.Lib.Run
import TrainFactory.Sync.Tasks

/-!
# Runs of the sync service

The transactions of the sync service as operations on the database. Transactions are atomic, so an
interleaving of concurrent callers is a list of operations, with any arguments and with any operation
repeated. Not among them are the transactions that make or remove whole rows (`create_task`,
`finalize_task_deletion`, `delete_training_tracking`, and the deletion of a tracking row with its
generation task), and those that nothing calls; `cancel_task_deletion` is an operation of `TaskOp`.
-/

namespace Sync

open Lib

/-- What the transactions of one deployment share: its settings, and `legacy_training_target_id`,
a name-based `uuid5`. -/
structure Env where
  settings : Settings
  legacyTrainingTargetId : String → String

/-- One transaction with its arguments. -/
inductive Op where
  | createBatch (fileSha256 : String → Option String) (args : CreateBatch)
  | promoteBatchToFetched (taskId batchId userId : String)
  | resetCompletedBatches (taskId : String)
  | reconcilePendingRecords (taskId : String)
  | createGenerationAndClaimBatches (args : CreateGeneration)
  | completeGenerationAndConsumeBatches (now : DateTime) (generationTaskId : String)
      (outputDatasetId : Option String) (outputSampleCount : Int)
  | failGenerationAndRestoreBatches (now : DateTime) (generationTaskId reason : String)
  | toggleGenerationDisabled (generationTaskId : String) (disabled : Bool)
  | updateGenerationQaOutput (generationTaskId : String) (qaDatasetId : Option String)
      (qaSampleCount : Int)
  | recalculateSampleCounters (taskId : String)
  | createTrainingWithClaim (args : CreateTraining)
  | completeTrainingClaim (now : DateTime) (trainingTaskId : String)
  | failTrainingAndRestoreClaim (now : DateTime) (trainingTaskId reason : String)
  | updateTrainingStatus (now : DateTime) (trainingTaskId : String) (status : SyncTrainingStatus)
      (output : TrainingOutput)
  | markAllTrainingsAdapterUnloaded (taskId : String) (filter : UnloadFilter)
  | updateTask (verdict : DependencyVerdict) (args : UpdateTask)
  | compareAndSetTaskStatus (taskId : String) (expectedStatus status : SyncStatus)
      (errorMessage : Option String)
  | transitionTaskIfNoPendingGeneration (taskId : String) (status : SyncStatus)
      (errorMessage : Option String) (expectedStatus : Option SyncStatus)
  | beginTaskDeletion (taskId : String) (cascade : Bool) (expectedUserId : String)
  | createTrainingTarget (verdict : DependencyVerdict) (args : CreateTarget)
  | migrateLegacyTrainingTarget (verdict : DependencyVerdict) (args : CreateTarget)
  | updateTrainingTarget (verdict : DependencyVerdict) (args : UpdateTarget)

/-- The database after one operation. `uuid4` does not return a value twice, so a batch is never
created under an id that was handed out before. -/
def Op.apply (env : Env) (db : Database) : Op → Database
  | .createBatch fileSha256 args =>
    if args.uuid ∈ db.uuids then db
    else (Sync.createBatch env.settings fileSha256 args db).commit db
  | .promoteBatchToFetched taskId batchId userId =>
    (Sync.promoteBatchToFetched taskId batchId userId db).commit db
  | .resetCompletedBatches taskId => (Sync.resetCompletedBatches env.settings taskId db).commit db
  | .reconcilePendingRecords taskId => (Sync.reconcilePendingRecords taskId db).commit db
  | .createGenerationAndClaimBatches args =>
    (Sync.createGenerationAndClaimBatches args db).commit db
  | .completeGenerationAndConsumeBatches now generationTaskId outputDatasetId outputSampleCount =>
    (Sync.completeGenerationAndConsumeBatches now generationTaskId outputDatasetId
      outputSampleCount db).commit db
  | .failGenerationAndRestoreBatches now generationTaskId reason =>
    (Sync.failGenerationAndRestoreBatches now generationTaskId reason db).commit db
  | .toggleGenerationDisabled generationTaskId disabled =>
    (Sync.toggleGenerationDisabled env.settings generationTaskId disabled db).commit db
  | .updateGenerationQaOutput generationTaskId qaDatasetId qaSampleCount =>
    (Sync.updateGenerationQaOutput generationTaskId qaDatasetId qaSampleCount db).commit db
  | .recalculateSampleCounters taskId => (Sync.recalculateSampleCounters taskId db).commit db
  | .createTrainingWithClaim args => (Sync.createTrainingWithClaim args db).commit db
  | .completeTrainingClaim now trainingTaskId =>
    (Sync.completeTrainingClaim now trainingTaskId db).commit db
  | .failTrainingAndRestoreClaim now trainingTaskId reason =>
    (Sync.failTrainingAndRestoreClaim now trainingTaskId reason db).commit db
  | .updateTrainingStatus now trainingTaskId status output =>
    (Sync.updateTrainingStatus now trainingTaskId status output db).commit db
  | .markAllTrainingsAdapterUnloaded taskId filter =>
    (Sync.markAllTrainingsAdapterUnloaded taskId filter db).commit db
  | .updateTask verdict args =>
    (Sync.updateTask env.legacyTrainingTargetId verdict args db).commit db
  | .compareAndSetTaskStatus taskId expectedStatus status errorMessage =>
    (Sync.compareAndSetTaskStatus taskId expectedStatus status errorMessage db).commit db
  | .transitionTaskIfNoPendingGeneration taskId status errorMessage expectedStatus =>
    (Sync.transitionTaskIfNoPendingGeneration taskId status errorMessage expectedStatus db).commit
      db
  | .beginTaskDeletion taskId cascade expectedUserId =>
    (Sync.beginTaskDeletion taskId cascade expectedUserId db).commit db
  | .createTrainingTarget verdict args => (Sync.createTrainingTarget verdict args db).commit db
  | .migrateLegacyTrainingTarget verdict args =>
    (Sync.migrateLegacyTrainingTarget verdict args db).commit db
  | .updateTrainingTarget verdict args => (Sync.updateTrainingTarget verdict args db).commit db

/-- An operation, or the rollback of a deletion whose cleanup has changed nothing yet. -/
inductive TaskOp where
  | service (op : Op)
  | cancelTaskDeletion (verdict : DependencyVerdict) (args : CancelTaskDeletion)

def TaskOp.apply (env : Env) (db : Database) : TaskOp → Database
  | .service op => op.apply env db
  | .cancelTaskDeletion verdict args => (Sync.cancelTaskDeletion verdict args db).commit db

def Op.resetsPosition : Op → Bool
  | .updateTask _ args => args.patch.lastSyncAt = some none
  | _ => false

def Op.settles (db : Database) : Op → List String
  | .completeGenerationAndConsumeBatches now generationTaskId outputDatasetId outputSampleCount =>
    match Sync.completeGenerationAndConsumeBatches now generationTaskId outputDatasetId
        outputSampleCount db with
    | .ok (result, _) => if result.completed then [generationTaskId] else []
    | .error _ => []
  | .failGenerationAndRestoreBatches now generationTaskId reason =>
    match Sync.failGenerationAndRestoreBatches now generationTaskId reason db with
    | .ok (result, _) => if result.recovered then [generationTaskId] else []
    | .error _ => []
  | _ => []

def Op.isSettlement : Op → Bool
  | .completeGenerationAndConsumeBatches .. | .failGenerationAndRestoreBatches .. => true
  | _ => false

def Database.run (env : Env) (db : Database) (ops : List Op) : Database :=
  exec (Op.apply env) db ops

@[simp] theorem Database.run_nil (env : Env) (db : Database) : db.run env [] = db := rfl

@[simp] theorem Database.run_cons (env : Env) (db : Database) (op : Op) (ops : List Op) :
    db.run env (op :: ops) = (op.apply env db).run env ops := rfl

theorem Database.run_append (env : Env) (db : Database) (ops ops' : List Op) :
    db.run env (ops ++ ops') = (db.run env ops).run env ops' :=
  exec_append db ops ops'

theorem Database.run_invariant {env : Env} {Inv : Database → Prop} {ok : Op → Prop}
    (hstep : ∀ db op, Inv db → ok op → Inv (op.apply env db)) {ops : List Op}
    (hops : ∀ op ∈ ops, ok op) {db : Database} (hdb : Inv db) : Inv (db.run env ops) :=
  exec_invariant hstep hdb (Admits.of_forall hops)

/-! ## One task -/

def defaultEnv : Env where
  settings := {}
  legacyTrainingTargetId := id

def Database.ofTask (task : ExternalSyncTask) : Database where
  tasks := ⟨[task], List.nodup_singleton _⟩
  batches := Table.empty
  generations := Table.empty
  trainings := Table.empty
  targets := Table.empty
  uuids := []

def generatingTask : ExternalSyncTask where
  taskId := "task"
  userId := "user"
  status := .generating

/-- A batch of three records is fetched, claimed by a generation, and consumed. -/
def firstGeneration : List Op :=
  [.createBatch (fun _ => none)
      { uuid := "batch", now := 1, taskId := "task", userId := "user", recordCount := 3
        storagePath := "batch.jsonl", sinceTime := none, initialStatus := .registered },
    .promoteBatchToFetched "task" "batch" "user",
    .createGenerationAndClaimBatches
      { now := 2, taskId := "task", generationTaskId := "generation", userId := "user"
        inputBatchIds := ["batch"], inputRecordCount := 3 },
    .completeGenerationAndConsumeBatches 3 "generation" (some "dataset") 5]

example : ((Database.ofTask generatingTask).run defaultEnv firstGeneration).tasks.rows.map
    ExternalSyncTask.totalTrainingSamples = [5] := by decide

end Sync
