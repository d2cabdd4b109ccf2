import TrainFactory.Lib.Text
import TrainFactory.Sync.Batches

/-!
# Generation transactions

`create_generation_and_claim_batches`, `complete_generation_and_consume_batches`,
`fail_generation_and_restore_batches`, `toggle_generation_disabled`, `update_generation_qa_output`
and `recalculate_sample_counters` of `ExternalSyncService`.
-/

namespace Sync

open Lib

/-! ## Sample credits -/

def ExternalSyncTrainingTarget.credit (count : Int) (t : ExternalSyncTrainingTarget) :
    ExternalSyncTrainingTarget :=
  { t with
    pendingTrainingSamples := t.pendingTrainingSamples + count
    totalTrainingSamples := t.totalTrainingSamples + count }

def ExternalSyncTask.credit (count : Int) (t : ExternalSyncTask) : ExternalSyncTask :=
  { t with
    pendingTrainingSamples := t.pendingTrainingSamples + count
    totalTrainingSamples := t.totalTrainingSamples + count }

def ExternalSyncTrainingTarget.isEligible (taskId phase : String)
    (t : ExternalSyncTrainingTarget) : Bool :=
  t.taskId = taskId && t.isActive && t.dataPhase = phase

def creditTargets (taskId phase : String) (count : Int) (db : Database) : Database :=
  { db with targets := db.targets.updateWhere (·.isEligible taskId phase) (·.credit count) }

def creditTask (taskId : String) (count : Int) (db : Database) : Database :=
  { db with tasks := db.tasks.update taskId (·.credit count) }

def creditFinalOutput (taskId : String) (outputDatasetId : Option String) (sampleCount : Int)
    (db : Database) : Database :=
  if truthy outputDatasetId ∧ sampleCount > 0 then
    if db.targetsOf taskId ≠ [] then creditTargets taskId "final" sampleCount db
    else creditTask taskId sampleCount db
  else db

def creditQaOutput (taskId : String) (qaDatasetId : Option String) (qaSampleCount : Int)
    (db : Database) : Database :=
  if truthy qaDatasetId ∧ qaSampleCount > 0 then creditTargets taskId "qa" qaSampleCount db
  else db

/-! ## The claim protocol -/

structure CreateGeneration where
  now : DateTime
  taskId : String
  generationTaskId : String
  userId : String
  inputBatchIds : List String
  inputRecordCount : Int := 0
  datasetId : Option String := none

def claimedBatches (db : Database) (args : CreateGeneration) : List ExternalSyncBatch :=
  db.batches.select fun b =>
    b.taskId = args.taskId && b.userId = args.userId && b.batchId ∈ args.inputBatchIds

def CreateGeneration.row (args : CreateGeneration) (recordCount : Int) :
    ExternalSyncGeneration where
  generationTaskId := args.generationTaskId
  taskId := args.taskId
  userId := args.userId
  inputBatchIds := args.inputBatchIds
  inputRecordCount := recordCount
  createdAt := args.now

def foundAll (batches : List ExternalSyncBatch) (batchIds : List String) : Bool :=
  batchIds.all fun id => id ∈ batches.map ExternalSyncBatch.batchId

def batchesUnavailable : SyncError :=
  .valueError "Sync generation batches are no longer available"

def createGenerationAndClaimBatches (args : CreateGeneration) (db : Database) :
    Outcome ExternalSyncGeneration :=
  if args.inputBatchIds = [] ∨ ¬ args.inputBatchIds.Nodup then .error batchesUnavailable
  else
    match db.tasks.lookup args.taskId with
    | none => .error batchesUnavailable
    | some task =>
      if task.userId ≠ args.userId ∨ task.status ≠ .generating then .error batchesUnavailable
      else if db.generations.select (fun g => g.taskId = args.taskId && g.status = .pending) ≠ []
        then .error (.alreadyExecuting "A generation is already pending for this sync task")
      else
        let batches := claimedBatches db args
        if ¬ foundAll batches args.inputBatchIds ∨
            batches.any (fun b => b.status ≠ .fetched || b.generationTaskId ≠ none) then
          .error batchesUnavailable
        else
          let claimedRecordCount := (batches.map fun b => max b.recordCount 0).sum
          if args.inputRecordCount ≠ claimedRecordCount then .error batchesUnavailable
          else
            match db.generations.insert (args.row claimedRecordCount) with
            | none => .error .integrityError
            | some generations =>
              .ok (args.row claimedRecordCount, recountPending { db with
                generations := generations
                batches := db.batches.updateWhere
                  (fun b => b.taskId = args.taskId && b.userId = args.userId &&
                    b.batchId ∈ args.inputBatchIds)
                  fun b => { b with
                    status := .generationQueued
                    generationTaskId := some args.generationTaskId
                    datasetId := args.datasetId } } args.taskId)

structure GenerationCompletion where
  trackingFound : Bool := false
  completed : Bool := false
  alreadyCompleted : Bool := false
  taskId : Option String := none
  completedBatchCount : Nat := 0
  creditedSampleCount : Int := 0
  creditedTargetCount : Nat := 0
  parentStatusUpdated : Bool := false
  usesTrainingTargets : Bool := false

def inputBatches (db : Database) (g : ExternalSyncGeneration) : List ExternalSyncBatch :=
  db.batches.select fun b => b.taskId = g.taskId && b.batchId ∈ g.inputBatchIds

/-- A batch that `complete` accepts: queued for this generation, of its user. -/
def ownsQueued (g : ExternalSyncGeneration) (b : ExternalSyncBatch) : Bool :=
  b.userId = g.userId && b.generationTaskId = some g.generationTaskId &&
    b.status = .generationQueued

/-- The parent goes back from `GENERATING` to `IDLE`. -/
def ExternalSyncTask.leaveGenerating (t : ExternalSyncTask) : ExternalSyncTask :=
  if t.status = .generating then { t with status := .idle } else t

theorem ExternalSyncTask.leaveGenerating_taskId (t : ExternalSyncTask) :
    t.leaveGenerating.taskId = t.taskId := by
  unfold ExternalSyncTask.leaveGenerating
  split <;> rfl

/-- The writes of a completion, after its checks. -/
def consumeBatches (now : DateTime) (g : ExternalSyncGeneration) (outputDatasetId : Option String)
    (sampleCount : Int) (db : Database) : Database :=
  let db := { db with
    generations := db.generations.update g.generationTaskId fun g => { g with
      status := .completed
      outputDatasetId := outputDatasetId
      outputSampleCount := sampleCount
      completedAt := some now }
    batches := db.batches.updateWhere
      (fun b => b.taskId = g.taskId && b.batchId ∈ g.inputBatchIds)
      fun b => { b with status := .generationDone } }
  let db := creditFinalOutput g.taskId outputDatasetId sampleCount db
  let db := creditQaOutput g.taskId g.qaDatasetId (max g.qaSampleCount 0) db
  { db with tasks := (db.tasks.update g.taskId ExternalSyncTask.leaveGenerating
      ExternalSyncTask.leaveGenerating_taskId) }

def completeGenerationAndConsumeBatches (now : DateTime) (generationTaskId : String)
    (outputDatasetId : Option String) (outputSampleCount : Int) (db : Database) :
    Outcome GenerationCompletion :=
  let sampleCount := max outputSampleCount 0
  match db.generations.lookup generationTaskId with
  | none => .ok ({}, db)
  | some g =>
    let result : GenerationCompletion := { trackingFound := true, taskId := some g.taskId }
    if g.status ≠ .pending then
      .ok ({ result with alreadyCompleted := g.status = .completed }, db)
    else if g.inputBatchIds = [] ∨ ¬ g.inputBatchIds.Nodup then .ok (result, db)
    else
      let batches := inputBatches db g
      if ¬ foundAll batches g.inputBatchIds ∨ ¬ batches.all (ownsQueued g) then .ok (result, db)
      else
        let targets := db.targetsOf g.taskId
        let creditedTargets :=
          if truthy outputDatasetId ∧ sampleCount > 0 then
            targets.filter (·.isEligible g.taskId "final")
          else []
        let credited := (truthy outputDatasetId && sampleCount > 0) &&
          (creditedTargets ≠ [] || (targets = [] && (db.tasks.lookup g.taskId).isSome))
        .ok ({ result with
          completed := true
          completedBatchCount := batches.length
          creditedSampleCount := if credited then sampleCount else 0
          creditedTargetCount := creditedTargets.length
          parentStatusUpdated := (db.tasks.lookup g.taskId).any fun t => t.status = .generating
          usesTrainingTargets := targets ≠ [] },
          consumeBatches now g outputDatasetId sampleCount db)

/-- The result of `fail_generation_and_restore_batches`. -/
structure GenerationRecovery where
  trackingFound : Bool := false
  recovered : Bool := false
  alreadyRecovered : Bool := false
  reconciled : Bool := false
  taskId : Option String := none
  userId : Option String := none
  restoredBatchCount : Nat := 0
  restoredRecordCount : Int := 0
  parentStatusUpdated : Bool := false

/-- A batch that `fail` accepts: queued for this generation, or fetched and not owned by another. -/
def isRestorable (g : ExternalSyncGeneration) (b : ExternalSyncBatch) : Bool :=
  b.userId = g.userId &&
    ((b.status = .generationQueued && b.generationTaskId = some g.generationTaskId) ||
      (b.status = .fetched &&
        (b.generationTaskId = none || b.generationTaskId = some g.generationTaskId)))

/-- The parent of a failed generation goes back from `GENERATING` to `IDLE` and keeps the reason. -/
def ExternalSyncTask.failGenerating (reason : String) (t : ExternalSyncTask) : ExternalSyncTask :=
  if t.status = .generating then { t with status := .idle, errorMessage := some reason } else t

theorem ExternalSyncTask.failGenerating_taskId (reason : String) (t : ExternalSyncTask) :
    (t.failGenerating reason).taskId = t.taskId := by
  unfold ExternalSyncTask.failGenerating
  split <;> rfl

/-- The writes of a failure, after its checks. -/
def restoreBatches (now : DateTime) (g : ExternalSyncGeneration) (reason : String)
    (db : Database) : Database :=
  let db := recountPending { db with
    batches := db.batches.updateWhere
      (fun b => b.batchId ∈ g.inputBatchIds && b.taskId = g.taskId)
      fun b => { b with status := .fetched, generationTaskId := none, datasetId := none }
    generations := db.generations.update g.generationTaskId fun g => { g with
      status := .failed
      completedAt := some now } } g.taskId
  { db with tasks := (db.tasks.update g.taskId (·.failGenerating reason)
      (ExternalSyncTask.failGenerating_taskId reason)) }

def failGenerationAndRestoreBatches (now : DateTime) (generationTaskId reason : String)
    (db : Database) : Outcome GenerationRecovery :=
  match db.generations.lookup generationTaskId with
  | none => .ok ({}, db)
  | some g =>
    let result : GenerationRecovery :=
      { trackingFound := true, taskId := some g.taskId, userId := some g.userId }
    if g.inputBatchIds = [] ∨ ¬ g.inputBatchIds.Nodup then .ok (result, db)
    else
      let batches := inputBatches db g
      if g.status = .failed then
        if batches.any (fun b => b.generationTaskId = some generationTaskId) then .ok (result, db)
        else .ok ({ result with alreadyRecovered := true, reconciled := true }, db)
      else if g.status ≠ .pending then .ok (result, db)
      else if ¬ foundAll batches g.inputBatchIds ∨ ¬ batches.all (isRestorable g) then
        .ok (result, db)
      else
        let queued := batches.filter fun b => b.status = .generationQueued
        let failureReason := strip (if reason = "" then "Generation failed" else reason)
        .ok ({ result with
          recovered := true
          reconciled := true
          restoredBatchCount := queued.length
          restoredRecordCount := (queued.map fun b => max b.recordCount 0).sum
          parentStatusUpdated := (db.tasks.lookup g.taskId).any fun t => t.status = .generating },
          restoreBatches now g failureReason db)

/-! ## Disabling and enabling -/

structure ToggleResult where
  generation : ExternalSyncGeneration
  resetBatchCount : Nat := 0
  resetRecordCount : Int := 0
  restoreBatchCount : Nat := 0
  restoreRecordCount : Int := 0

def isResettable (g : ExternalSyncGeneration) (b : ExternalSyncBatch) : Bool :=
  b.batchId ∈ g.inputBatchIds && b.generationTaskId = some g.generationTaskId &&
    b.status = .generationDone

/-- The batches an enabled generation takes back: those that nobody has claimed in between. -/
def isRetakable (g : ExternalSyncGeneration) (b : ExternalSyncBatch) : Bool :=
  b.batchId ∈ g.inputBatchIds && b.generationTaskId = none && b.status = .fetched

theorem key_refetched (b : ExternalSyncBatch) :
    Keyed.key { b with status := .fetched, generationTaskId := none } = Keyed.key b := rfl

def moveToggledBatches (settings : Settings) (g : ExternalSyncGeneration) (disabled : Bool)
    (db : Database) : Outcome (List ExternalSyncBatch) :=
  if g.status = .completed ∧ g.inputBatchIds ≠ [] then
    if disabled then
      let moved := db.batches.select (isResettable g)
      match assertPendingBatchCapacity settings db g.taskId moved.length
          (moved.map fun b => max b.recordCount 0).sum with
      | .error e => .error e
      | .ok () =>
        .ok (moved, { db with
          batches := db.batches.updateWhere (isResettable g)
            (fun b => { b with status := .fetched, generationTaskId := none }) key_refetched })
    else
      .ok (db.batches.select (isRetakable g),
        { db with batches := db.batches.updateWhere (isRetakable g) fun b =>
          { b with status := .generationDone, generationTaskId := some g.generationTaskId } })
  else .ok ([], db)

def ExternalSyncGeneration.finalCount (g : ExternalSyncGeneration) : Int :=
  if truthy g.outputDatasetId then max g.outputSampleCount 0 else 0

def ExternalSyncGeneration.qaCount (g : ExternalSyncGeneration) : Int :=
  if truthy g.qaDatasetId then max g.qaSampleCount 0 else 0

/-- Move both sample counters of a target by `delta`, not below zero. -/
def ExternalSyncTrainingTarget.shift (delta : Int) (t : ExternalSyncTrainingTarget) :
    ExternalSyncTrainingTarget :=
  { t with
    pendingTrainingSamples := max (t.pendingTrainingSamples + delta) 0
    totalTrainingSamples := max (t.totalTrainingSamples + delta) 0 }

/-- Move both sample counters of a task by `delta`, not below zero. -/
def ExternalSyncTask.shift (delta : Int) (t : ExternalSyncTask) : ExternalSyncTask :=
  { t with
    pendingTrainingSamples := max (t.pendingTrainingSamples + delta) 0
    totalTrainingSamples := max (t.totalTrainingSamples + delta) 0 }

def ExternalSyncGeneration.countFor (g : ExternalSyncGeneration)
    (t : ExternalSyncTrainingTarget) : Int :=
  if t.dataPhase = "final" then g.finalCount else if t.dataPhase = "qa" then g.qaCount else 0

def shiftCounters (g : ExternalSyncGeneration) (disabled : Bool) (db : Database) : Database :=
  let direction : Int := if disabled then -1 else 1
  if db.targetsOf g.taskId ≠ [] then
    let shifted (t : ExternalSyncTrainingTarget) : Bool :=
      t.taskId = g.taskId && t.isActive && g.countFor t > 0
    { db with targets :=
        db.targets.updateWhere shifted fun t => t.shift (direction * g.countFor t) }
  else if g.finalCount > 0 then
    { db with tasks := db.tasks.update g.taskId (·.shift (direction * g.finalCount)) }
  else db

/-- `toggle_generation_disabled`, without the best-effort status change of the output dataset. -/
def toggleGenerationDisabled (settings : Settings) (generationTaskId : String) (disabled : Bool)
    (db : Database) : Outcome (Option ToggleResult) :=
  match db.generations.lookup generationTaskId with
  | none => .ok (none, db)
  | some g =>
    if g.disabled = disabled then .ok (some { generation := g }, db)
    else
      let db := { db with generations := db.generations.update generationTaskId fun g =>
        { g with disabled := disabled } }
      match moveToggledBatches settings g disabled db with
      | .error e => .error e
      | .ok (moved, db) =>
        let db := if moved ≠ [] then recountPending db g.taskId else db
        let db := if g.status = .completed then shiftCounters g disabled db else db
        let records := (moved.map ExternalSyncBatch.recordCount).sum
        .ok (some {
          generation := { g with disabled := disabled }
          resetBatchCount := if disabled then moved.length else 0
          resetRecordCount := if disabled then records else 0
          restoreBatchCount := if disabled then 0 else moved.length
          restoreRecordCount := if disabled then 0 else records }, db)

/-! ## QA output and recalculation -/

structure QaRecording where
  trackingFound : Bool := false
  recorded : Bool := false
  alreadyRecorded : Bool := false
  conflict : Bool := false
  taskId : Option String := none
  generationStatus : Option SyncGenerationStatus := none
  creditedSampleCount : Int := 0
  creditedTargetCount : Nat := 0
  scheduleTraining : Bool := false

/-- Recording a QA output credits its samples at once if the generation is completed; a pending
generation is credited by its completion. -/
def creditsQa (g : ExternalSyncGeneration) (qaDatasetId : Option String) (sampleCount : Int) :
    Bool :=
  g.status = .completed && truthy qaDatasetId && sampleCount > 0

def recordQaOutput (g : ExternalSyncGeneration) (qaDatasetId : Option String) (sampleCount : Int)
    (db : Database) : Database :=
  let db := { db with generations := db.generations.update g.generationTaskId fun g => { g with
    qaDatasetId := qaDatasetId
    qaSampleCount := sampleCount } }
  if creditsQa g qaDatasetId sampleCount then creditTargets g.taskId "qa" sampleCount db else db

def updateGenerationQaOutput (generationTaskId : String) (qaDatasetId : Option String)
    (qaSampleCount : Int) (db : Database) : Outcome QaRecording :=
  let sampleCount := max qaSampleCount 0
  match db.generations.lookup generationTaskId with
  | none => .ok ({}, db)
  | some g =>
    let result : QaRecording :=
      { trackingFound := true, taskId := some g.taskId, generationStatus := some g.status }
    if g.qaDatasetId ≠ none then
      .ok ({ result with
        alreadyRecorded := true
        conflict := g.qaDatasetId ≠ qaDatasetId || g.qaSampleCount ≠ sampleCount }, db)
    else if g.status = .failed then .ok (result, db)
    else
      let creditedTargets :=
        if creditsQa g qaDatasetId sampleCount then
          db.targets.select (·.isEligible g.taskId "qa")
        else []
      .ok ({ result with
        recorded := true
        creditedSampleCount := if creditedTargets = [] then 0 else sampleCount
        creditedTargetCount := creditedTargets.length
        scheduleTraining := creditedTargets ≠ [] },
        recordQaOutput g qaDatasetId sampleCount db)

/-- The generations whose samples `recalculate_sample_counters` sums up. -/
def isRecounted (taskId : String) (g : ExternalSyncGeneration) : Bool :=
  g.taskId = taskId && !g.disabled && g.status = .completed && g.outputSampleCount > 0

def recalculatedTotal (db : Database) (taskId : String) : Int :=
  db.generations.sumBy fun g => if isRecounted taskId g then g.outputSampleCount else 0

def lastTrainingAt (db : Database) (taskId : String) : Option DateTime :=
  ((db.trainings.select fun t => t.taskId = taskId).map ExternalSyncTraining.createdAt).max?

/-- The pending count that `recalculate_sample_counters` writes: the samples of the generations that
completed after the last training was created. -/
def recalculatedPending (db : Database) (taskId : String) : Int :=
  match lastTrainingAt db taskId with
  | none => recalculatedTotal db taskId
  | some since => db.generations.sumBy fun g =>
    if isRecounted taskId g && g.completedAt.getD g.createdAt > since then g.outputSampleCount
    else 0

def recalculateSampleCounters (taskId : String) (db : Database) :
    Outcome (Option (Int × Int × Int × Int)) :=
  match db.tasks.lookup taskId with
  | none => .ok (none, db)
  | some task =>
    let newTotal := recalculatedTotal db taskId
    let newPending := recalculatedPending db taskId
    .ok (some (task.totalTrainingSamples, newTotal, task.pendingTrainingSamples, newPending),
      { db with tasks := db.tasks.update taskId fun t => { t with
        totalTrainingSamples := newTotal
        pendingTrainingSamples := newPending } })

end Sync
