import TrainFactory.Sync.Operations
import TrainFactory.Sync.Proofs.GenerationsProofs
import TrainFactory.Sync.Proofs.TasksProofs

/-!
# Proofs: what one operation does

`Effect` lists what an operation can leave, with the guards that it has checked; the invariants of
runs are derived from it by cases. Of the operations that do not set a cursor back, only a few write
batches or generations: `BatchMove` says what they write, and `TrainingMove` what becomes of the
trainings.
-/

namespace Sync

open Lib

def Op.creates (op : Op) (args : CreateBatch) : Prop := ∃ fileSha256, op = .createBatch fileSha256 args

theorem key_disabled (disabled : Bool) (g : ExternalSyncGeneration) :
    Keyed.key { g with disabled := disabled } = Keyed.key g := rfl

/-- The database after a toggle: the moved batches are recounted, and the counters shifted if the
generation is completed. -/
def toggled (g : ExternalSyncGeneration) (disabled : Bool) (db : Database) : Database :=
  let moved := movedBatches g disabled { db with
    generations := db.generations.update g.generationTaskId
      (fun g => { g with disabled := disabled }) (key_disabled disabled) }
  let counted :=
    if toggledBatches g disabled db ≠ [] then recountPending moved g.taskId else moved
  if g.status = .completed then shiftCounters g disabled counted else counted

/-- What an operation can leave, with the guards that it has checked. -/
inductive Effect (env : Env) (db : Database) : Op → Database → Prop
  | stay (op : Op) : Effect env db op db
  | create (fileSha256 : String → Option String) (args : CreateBatch) (task : ExternalSyncTask)
      (batches : Table ExternalSyncBatch) (huuid : args.uuid ∉ db.uuids)
      (htask : db.tasks.lookup args.taskId = some task) (hguard : task.status.isDeleting = false)
      (hstatus : args.initialStatus.isReclaimable = true)
      (hins : db.batches.insert args.row = some batches) :
      Effect env db (.createBatch fileSha256 args)
        { db with batches := batches, uuids := args.uuid :: db.uuids }
  | promote (batch : ExternalSyncBatch) (userId : String) (hbatch : batch ∈ db.batches)
      (hstatus : batch.status = .registered) :
      Effect env db (.promoteBatchToFetched batch.taskId batch.batchId userId) { db with
        batches := db.batches.update batch.batchId fun b => { b with status := .fetched }
        tasks := db.tasks.update batch.taskId fun t => { t with
          pendingRecordCount := t.pendingRecordCount + max batch.recordCount 0
          totalRecordCount := t.totalRecordCount + max batch.recordCount 0 } }
  | reset (taskId : String) :
      Effect env db (.resetCompletedBatches taskId) (recountPending { db with
        batches := db.batches.updateWhere
          (fun b => b.taskId = taskId && b.status = .generationDone)
          fun b => { b with status := .fetched, generationTaskId := none } } taskId)
  | reconcile (task : ExternalSyncTask) (hmem : task ∈ db.tasks)
      (hlt : task.pendingRecordCount < db.fetchedRecords task.taskId) :
      Effect env db (.reconcilePendingRecords task.taskId) { db with
        tasks := db.tasks.update task.taskId fun t => { t with
          pendingRecordCount := db.fetchedRecords task.taskId
          totalRecordCount := t.totalRecordCount +
            (db.fetchedRecords task.taskId - task.pendingRecordCount) } }
  | claim (args : CreateGeneration) (task : ExternalSyncTask) (n : Int)
      (generations : Table ExternalSyncGeneration)
      (htask : db.tasks.lookup args.taskId = some task) (hgen : task.status = .generating)
      (hne : args.inputBatchIds ≠ [])
      (hpending : ∀ g ∈ db.generations, g.taskId = args.taskId → g.status ≠ .pending)
      (hfetched : ∀ id ∈ args.inputBatchIds, ∃ b ∈ db.batches, b.batchId = id ∧
        b.taskId = args.taskId ∧ b.userId = args.userId ∧ b.status = .fetched ∧
        b.generationTaskId = none)
      (hins : db.generations.insert (args.row n) = some generations) :
      Effect env db (.createGenerationAndClaimBatches args) (claimBatches args generations db)
  | complete (now : DateTime) (g : ExternalSyncGeneration) (outputDatasetId : Option String)
      (outputSampleCount : Int) (hg : g ∈ db.generations) (hpending : g.status = .pending)
      (howns : ∀ b ∈ db.batches, b.taskId = g.taskId → b.batchId ∈ g.inputBatchIds →
        ownsQueued g b = true) :
      Effect env db (.completeGenerationAndConsumeBatches now g.generationTaskId outputDatasetId
        outputSampleCount) (consumeBatches now g outputDatasetId (max outputSampleCount 0) db)
  | fail (now : DateTime) (g : ExternalSyncGeneration) (reason reason' : String)
      (hg : g ∈ db.generations) (hpending : g.status = .pending) :
      Effect env db (.failGenerationAndRestoreBatches now g.generationTaskId reason)
        (restoreBatches now g reason' db)
  | toggle (g : ExternalSyncGeneration) (disabled : Bool) (hg : g ∈ db.generations)
      (hdisabled : g.disabled = !disabled) :
      Effect env db (.toggleGenerationDisabled g.generationTaskId disabled)
        (toggled g disabled db)
  | recordQa (g : ExternalSyncGeneration) (qaDatasetId : Option String) (qaSampleCount : Int)
      (hg : g ∈ db.generations) (hnone : g.qaDatasetId = none) :
      Effect env db (.updateGenerationQaOutput g.generationTaskId qaDatasetId qaSampleCount)
        (recordQaOutput g qaDatasetId (max qaSampleCount 0) db)
  | recalculate (taskId : String) :
      Effect env db (.recalculateSampleCounters taskId) { db with
        tasks := db.tasks.update taskId fun t => { t with
          totalTrainingSamples := recalculatedTotal db taskId
          pendingTrainingSamples := recalculatedPending db taskId } }
  | claimForTask (args : CreateTraining) (task : ExternalSyncTask)
      (trainings : Table ExternalSyncTraining)
      (htask : db.tasks.lookup args.taskId = some task) (hguard : task.status.isDeleting = false)
      (htruthy : truthy args.targetId = false)
      (hins : db.trainings.insert (args.row task task.asClaim) = some trainings) :
      Effect env db (.createTrainingWithClaim args) (claimedForTask args trainings db)
  | claimForTarget (args : CreateTraining) (task : ExternalSyncTask)
      (target : ExternalSyncTrainingTarget) (trainings : Table ExternalSyncTraining)
      (htask : db.tasks.lookup args.taskId = some task) (hguard : task.status.isDeleting = false)
      (htruthy : truthy args.targetId = true) (htarget : target ∈ db.targets)
      (hid : some target.targetId = args.targetId)
      (hins : db.trainings.insert (args.row task (target.asClaim task)) = some trainings) :
      Effect env db (.createTrainingWithClaim args)
        (claimedForTarget args target.targetId trainings db)
  | consume (now : DateTime) (training : ExternalSyncTraining) (hmem : training ∈ db.trainings)
      (hopen : training.isOpen = true) :
      Effect env db (.completeTrainingClaim now training.trainingTaskId)
        (consumeClaim now training db)
  | restore (now : DateTime) (training : ExternalSyncTraining) (reason : String)
      (hmem : training ∈ db.trainings) (hopen : training.isOpen = true)
      (hown : claimOwned db training = true) :
      Effect env db (.failTrainingAndRestoreClaim now training.trainingTaskId reason)
        (restoreClaim now training reason db)
  | writeTraining (now : DateTime) (training : ExternalSyncTraining) (status : SyncTrainingStatus)
      (output : TrainingOutput) (hmem : training ∈ db.trainings)
      (hstatus : training.status = status ∨ status ∈ trainingStatusTransitions training.status) :
      Effect env db (.updateTrainingStatus now training.trainingTaskId status output) { db with
        trainings := db.trainings.update training.trainingTaskId (output.write now status) }
  | unload (taskId : String) (filter : UnloadFilter) :
      Effect env db (.markAllTrainingsAdapterUnloaded taskId filter) { db with
        trainings := db.trainings.updateWhere (filter.selects taskId) ExternalSyncTraining.unload }
  | updateTask (verdict : DependencyVerdict) (args : UpdateTask) (task : ExternalSyncTask)
      (final : Option (List TargetValues)) (written : Table ExternalSyncTrainingTarget)
      (htask : db.tasks.lookup args.taskId = some task) (hguard : task.status.isDeleting = false)
      (hfinal : finalTargets args.trainingTargets = .ok final)
      (hwritten : replaceTargets env.legacyTrainingTargetId final task (db.targetsOf args.taskId)
        db = .ok written) :
      Effect env db (.updateTask verdict args) { (writeTask env.legacyTrainingTargetId args.patch
        final task (db.targetsOf args.taskId) db).2 with targets := written }
  | compareAndSet (expectedStatus status : SyncStatus) (errorMessage : Option String)
      (task : ExternalSyncTask) (hmem : task ∈ db.tasks)
      (hvalid : task.status = status ∨ status ∈ taskStatusTransitions task.status) :
      Effect env db (.compareAndSetTaskStatus task.taskId expectedStatus status errorMessage)
        { db with tasks := db.tasks.update task.taskId fun t => { t with
          status := status
          errorMessage := if errorMessage = none then t.errorMessage else errorMessage } }
  | transition (expectedStatus : Option SyncStatus) (status : SyncStatus)
      (errorMessage : Option String) (task : ExternalSyncTask) (hmem : task ∈ db.tasks)
      (hvalid : task.status = status ∨ status ∈ taskStatusTransitions task.status) :
      Effect env db (.transitionTaskIfNoPendingGeneration task.taskId status errorMessage
        expectedStatus) { db with tasks := db.tasks.update task.taskId fun t =>
          { t with status := status, errorMessage := errorMessage } }
  | beginDeletion (cascade : Bool) (expectedUserId : String) (task : ExternalSyncTask)
      (hmem : task ∈ db.tasks) (hguard : task.status.isDeleting = false) :
      Effect env db (.beginTaskDeletion task.taskId cascade expectedUserId) { db with
        tasks := db.tasks.update task.taskId fun t => { t with
          status := if cascade then .deletingCascade else .deleting
          isActive := false
          errorMessage := none } }
  | createTarget (verdict : DependencyVerdict) (args : CreateTarget) (task : ExternalSyncTask)
      (targets : Table ExternalSyncTrainingTarget)
      (htask : db.tasks.lookup args.taskId = some task) (hguard : task.status.isDeleting = false)
      (hins : db.targets.insert (args.stored.row args.taskId 0) = some targets) :
      Effect env db (.createTrainingTarget verdict args) { db with targets := targets }
  | migrate (verdict : DependencyVerdict) (args : CreateTarget) (task : ExternalSyncTask)
      (targets : Table ExternalSyncTrainingTarget)
      (htask : db.tasks.lookup args.taskId = some task) (hguard : task.status.isDeleting = false)
      (htargets : (∃ id, targets = db.targets.update id (·.credit task.pendingTrainingSamples)) ∨
        db.targets.insert (args.stored.row args.taskId task.pendingTrainingSamples) =
          some targets) :
      Effect env db (.migrateLegacyTrainingTarget verdict args) { db with
        targets := targets
        tasks := db.tasks.update args.taskId ExternalSyncTask.clearLegacyTrainingSources }
  | updateTarget (verdict : DependencyVerdict) (args : UpdateTarget) :
      Effect env db (.updateTrainingTarget verdict args)
        { db with targets := db.targets.update args.targetId args.patch.apply }

theorem Op.effect (env : Env) (db : Database) (op : Op) : Effect env db op (op.apply env db) := by
  cases op with
  | createBatch fileSha256 args =>
    by_cases huuid : args.uuid ∈ db.uuids
    · simp only [Op.apply, huuid, ↓reduceIte]
      exact .stay _
    · simp only [Op.apply, huuid, ↓reduceIte]
      rcases createBatch_commit db env.settings fileSha256 args with
        h | ⟨task, batches, htask, hguard, hstatus, hins, h⟩ <;> rw [h]
      · exact .stay _
      · exact .create fileSha256 args task batches huuid htask hguard hstatus hins
  | promoteBatchToFetched taskId batchId userId =>
    simp only [Op.apply]
    rcases promoteBatchToFetched_commit db taskId batchId userId with
      h | ⟨task, batch, -, hbatch, rfl, hstatus, h⟩ <;> rw [h]
    · exact .stay _
    · obtain ⟨hmem, rfl⟩ := Table.lookup_eq_some.mp hbatch
      exact .promote batch userId hmem hstatus
  | resetCompletedBatches taskId =>
    simp only [Op.apply]
    rcases resetCompletedBatches_commit db env.settings taskId with h | ⟨-, h⟩ <;> rw [h]
    · exact .stay _
    · exact .reset taskId
  | reconcilePendingRecords taskId =>
    simp only [Op.apply]
    rcases reconcilePendingRecords_commit db taskId with h | ⟨task, htask, hlt, h⟩ <;> rw [h]
    · exact .stay _
    · obtain ⟨hmem, rfl⟩ := Table.lookup_eq_some.mp htask
      exact .reconcile task hmem hlt
  | createGenerationAndClaimBatches args =>
    simp only [Op.apply]
    rcases createGenerationAndClaimBatches_commit db args with
      h | ⟨task, n, generations, htask, hgen, hne, -, hpending, hfetched, hins, h⟩ <;> rw [h]
    · exact .stay _
    · exact .claim args task n generations htask hgen hne hpending hfetched hins
  | completeGenerationAndConsumeBatches now generationTaskId outputDatasetId outputSampleCount =>
    simp only [Op.apply]
    rcases completeGeneration_cases db now generationTaskId outputDatasetId outputSampleCount with
      ⟨r, h, -⟩ | ⟨r, g, h, -, hg, hpending, -, -, howns⟩ <;> rw [h]
    · exact .stay _
    · obtain ⟨hmem, rfl⟩ := Table.lookup_eq_some.mp hg
      exact .complete now g outputDatasetId outputSampleCount hmem hpending howns
  | failGenerationAndRestoreBatches now generationTaskId reason =>
    simp only [Op.apply]
    rcases failGeneration_cases db now generationTaskId reason with
      ⟨r, h, -⟩ | ⟨r, g, reason', h, -, hg, hpending, -, -, -⟩ <;> rw [h]
    · exact .stay _
    · obtain ⟨hmem, rfl⟩ := Table.lookup_eq_some.mp hg
      exact .fail now g reason reason' hmem hpending
  | toggleGenerationDisabled generationTaskId disabled =>
    simp only [Op.apply]
    rcases toggleGenerationDisabled_commit db env.settings generationTaskId disabled with
      h | ⟨g, hg, hdisabled, h⟩ <;> rw [h]
    · exact .stay _
    · obtain ⟨hmem, rfl⟩ := Table.lookup_eq_some.mp hg
      exact .toggle g disabled hmem hdisabled
  | updateGenerationQaOutput generationTaskId qaDatasetId qaSampleCount =>
    simp only [Op.apply]
    rcases updateGenerationQaOutput_cases db generationTaskId qaDatasetId qaSampleCount with
      ⟨r, h, -⟩ | ⟨r, g, h, -, hg, hnone, -⟩ <;> rw [h]
    · exact .stay _
    · obtain ⟨hmem, rfl⟩ := Table.lookup_eq_some.mp hg
      exact .recordQa g qaDatasetId qaSampleCount hmem hnone
  | recalculateSampleCounters taskId =>
    simp only [Op.apply]
    rcases recalculateSampleCounters_commit db taskId with h | h <;> rw [h]
    · exact .stay _
    · exact .recalculate taskId
  | createTrainingWithClaim args =>
    simp only [Op.apply]
    rcases createTrainingWithClaim_commit db args with
      h | ⟨task, htask, hguard, -, ⟨trainings, htruthy, hins, h⟩ |
        ⟨target, trainings, htruthy, htarget, hid, -, -, -, hins, h⟩⟩ <;> rw [h]
    · exact .stay _
    · exact .claimForTask args task trainings htask hguard htruthy hins
    · exact .claimForTarget args task target trainings htask hguard htruthy htarget hid hins
  | completeTrainingClaim now trainingTaskId =>
    simp only [Op.apply]
    rcases completeTrainingClaim_cases db now trainingTaskId with
      ⟨r, h, -⟩ | ⟨r, training, h, -, -, htr, hopen, -⟩ <;> rw [h]
    · exact .stay _
    · obtain ⟨hmem, rfl⟩ := Table.lookup_eq_some.mp htr
      exact .consume now training hmem hopen
  | failTrainingAndRestoreClaim now trainingTaskId reason =>
    simp only [Op.apply]
    rcases failTrainingAndRestoreClaim_cases db now trainingTaskId reason with
      ⟨r, h, -⟩ | ⟨r, training, h, -, htr, hopen, hown⟩ <;> rw [h]
    · exact .stay _
    · obtain ⟨hmem, rfl⟩ := Table.lookup_eq_some.mp htr
      exact .restore now training reason hmem hopen hown
  | updateTrainingStatus now trainingTaskId status output =>
    simp only [Op.apply]
    rcases updateTrainingStatus_commit db now trainingTaskId status output with
      h | ⟨training, htr, hstatus, h⟩ <;> rw [h]
    · exact .stay _
    · obtain ⟨hmem, rfl⟩ := Table.lookup_eq_some.mp htr
      exact .writeTraining now training status output hmem hstatus
  | markAllTrainingsAdapterUnloaded taskId filter =>
    simp only [Op.apply]
    rcases markAllTrainingsAdapterUnloaded_commit db taskId filter with h | h <;> rw [h]
    · exact .stay _
    · exact .unload taskId filter
  | updateTask verdict args =>
    simp only [Op.apply]
    rcases updateTask_commit db env.legacyTrainingTargetId verdict args with
      h | ⟨task, final, written, htask, hguard, -, hfinal, hwritten, h⟩ <;> rw [h]
    · exact .stay _
    · exact .updateTask verdict args task final written htask hguard hfinal hwritten
  | compareAndSetTaskStatus taskId expectedStatus status errorMessage =>
    simp only [Op.apply]
    rcases compareAndSetTaskStatus_commit db taskId expectedStatus status errorMessage with
      h | ⟨task, htask, hvalid, -, h⟩ <;> rw [h]
    · exact .stay _
    · obtain ⟨hmem, rfl⟩ := Table.lookup_eq_some.mp htask
      exact .compareAndSet expectedStatus status errorMessage task hmem hvalid
  | transitionTaskIfNoPendingGeneration taskId status errorMessage expectedStatus =>
    simp only [Op.apply]
    rcases transitionTaskIfNoPendingGeneration_commit db taskId status errorMessage expectedStatus
      with h | ⟨task, htask, hvalid, h⟩ <;> rw [h]
    · exact .stay _
    · obtain ⟨hmem, rfl⟩ := Table.lookup_eq_some.mp htask
      exact .transition expectedStatus status errorMessage task hmem hvalid
  | beginTaskDeletion taskId cascade expectedUserId =>
    simp only [Op.apply]
    rcases beginTaskDeletion_commit db taskId cascade expectedUserId with
      h | ⟨task, htask, hguard, h⟩ <;> rw [h]
    · exact .stay _
    · obtain ⟨hmem, rfl⟩ := Table.lookup_eq_some.mp htask
      exact .beginDeletion cascade expectedUserId task hmem hguard
  | createTrainingTarget verdict args =>
    simp only [Op.apply]
    rcases createTrainingTarget_commit db verdict args with
      h | ⟨task, targets, htask, hguard, hins, h⟩ <;> rw [h]
    · exact .stay _
    · exact .createTarget verdict args task targets htask hguard hins
  | migrateLegacyTrainingTarget verdict args =>
    simp only [Op.apply]
    rcases migrateLegacyTrainingTarget_commit db verdict args with
      h | ⟨task, targets, htask, hguard, htargets, h⟩ <;> rw [h]
    · exact .stay _
    · exact .migrate verdict args task targets htask hguard htargets
  | updateTrainingTarget verdict args =>
    simp only [Op.apply]
    rcases updateTrainingTarget_commit db verdict args with
      h | ⟨task, target, -, -, -, -, -, h⟩ <;> rw [h]
    · exact .stay _
    · exact .updateTarget verdict args

/-- What an operation that keeps the cursor does to the batches, the generations and the values that
`uuid4` has handed out; `creates` holds of the batches it may create. -/
inductive BatchMove (creates : CreateBatch → Prop) (db : Database) :
    Table ExternalSyncBatch → Table ExternalSyncGeneration → List String → Prop
  | stay : BatchMove creates db db.batches db.generations db.uuids
  | create (args : CreateBatch) (batches : Table ExternalSyncBatch) (hargs : creates args)
      (huuid : args.uuid ∉ db.uuids) (hstatus : args.initialStatus.isReclaimable = true)
      (hins : db.batches.insert args.row = some batches) :
      BatchMove creates db batches db.generations (args.uuid :: db.uuids)
  | promote (batch : ExternalSyncBatch) (hbatch : batch ∈ db.batches)
      (hstatus : batch.status = .registered) :
      BatchMove creates db (db.batches.update batch.batchId fun b => { b with status := .fetched })
        db.generations db.uuids
  | reset (taskId : String) :
      BatchMove creates db (db.batches.updateWhere
        (fun b => b.taskId = taskId && b.status = .generationDone)
        fun b => { b with status := .fetched, generationTaskId := none }) db.generations db.uuids
  | claim (args : CreateGeneration) (n : Int) (generations : Table ExternalSyncGeneration)
      (hne : args.inputBatchIds ≠ [])
      (hpending : ∀ g ∈ db.generations, g.taskId = args.taskId → g.status ≠ .pending)
      (hfetched : ∀ id ∈ args.inputBatchIds, ∃ b ∈ db.batches, b.batchId = id ∧
        b.taskId = args.taskId ∧ b.userId = args.userId ∧ b.status = .fetched ∧
        b.generationTaskId = none)
      (hins : db.generations.insert (args.row n) = some generations) :
      BatchMove creates db (claimBatches args generations db).batches generations db.uuids
  | complete (now : DateTime) (g : ExternalSyncGeneration) (outputDatasetId : Option String)
      (sampleCount : Int) (hg : g ∈ db.generations) (hpending : g.status = .pending)
      (howns : ∀ b ∈ db.batches, b.taskId = g.taskId → b.batchId ∈ g.inputBatchIds →
        ownsQueued g b = true) :
      BatchMove creates db (consumeBatches now g outputDatasetId sampleCount db).batches
        (consumeBatches now g outputDatasetId sampleCount db).generations db.uuids
  | fail (now : DateTime) (g : ExternalSyncGeneration) (reason : String)
      (hg : g ∈ db.generations) (hpending : g.status = .pending) :
      BatchMove creates db (restoreBatches now g reason db).batches
        (restoreBatches now g reason db).generations db.uuids
  | toggle (g : ExternalSyncGeneration) (disabled : Bool) (hg : g ∈ db.generations) :
      BatchMove creates db (movedBatches g disabled db).batches
        (db.generations.update g.generationTaskId fun g => { g with disabled := disabled })
        db.uuids
  | recordQa (g : ExternalSyncGeneration) (qaDatasetId : Option String) (qaSampleCount : Int)
      (hg : g ∈ db.generations) (hnone : g.qaDatasetId = none) :
      BatchMove creates db db.batches (db.generations.update g.generationTaskId fun g =>
        { g with qaDatasetId := qaDatasetId, qaSampleCount := qaSampleCount }) db.uuids

section BatchMove

variable {env : Env} {db : Database}

theorem movedBatches_batches (g : ExternalSyncGeneration) (disabled : Bool)
    (generations : Table ExternalSyncGeneration) :
    (movedBatches g disabled { db with generations := generations }).batches =
      (movedBatches g disabled db).batches := by
  unfold movedBatches
  split <;> [split <;> rfl; rfl]

@[simp] theorem movedBatches_tasks (g : ExternalSyncGeneration) (disabled : Bool) (db : Database) :
    (movedBatches g disabled db).tasks = db.tasks := by
  unfold movedBatches
  split <;> [split <;> rfl; rfl]

@[simp] theorem movedBatches_targets (g : ExternalSyncGeneration) (disabled : Bool)
    (db : Database) : (movedBatches g disabled db).targets = db.targets := by
  unfold movedBatches
  split <;> [split <;> rfl; rfl]

@[simp] theorem movedBatches_generations (g : ExternalSyncGeneration) (disabled : Bool) :
    (movedBatches g disabled db).generations = db.generations := by
  unfold movedBatches
  split <;> [split <;> rfl; rfl]

@[simp] theorem movedBatches_uuids (g : ExternalSyncGeneration) (disabled : Bool) :
    (movedBatches g disabled db).uuids = db.uuids := by
  unfold movedBatches
  split <;> [split <;> rfl; rfl]

@[simp] theorem shiftCounters_uuids (g : ExternalSyncGeneration) (disabled : Bool) :
    (shiftCounters g disabled db).uuids = db.uuids := by
  unfold shiftCounters
  simp only []
  split <;> [rfl; (split <;> rfl)]

@[simp] theorem shiftCounters_batches (g : ExternalSyncGeneration) (disabled : Bool) :
    (shiftCounters g disabled db).batches = db.batches := by
  unfold shiftCounters
  simp only []
  split <;> [rfl; (split <;> rfl)]

@[simp] theorem movedBatches_trainings (g : ExternalSyncGeneration) (disabled : Bool) :
    (movedBatches g disabled db).trainings = db.trainings := by
  unfold movedBatches
  split <;> [split <;> rfl; rfl]

@[simp] theorem shiftCounters_trainings (g : ExternalSyncGeneration) (disabled : Bool) :
    (shiftCounters g disabled db).trainings = db.trainings := by
  unfold shiftCounters
  simp only []
  split <;> [rfl; (split <;> rfl)]

@[simp] theorem shiftCounters_generations (g : ExternalSyncGeneration) (disabled : Bool) :
    (shiftCounters g disabled db).generations = db.generations := by
  unfold shiftCounters
  simp only []
  split <;> [rfl; (split <;> rfl)]

theorem shiftCounters_tasks (g : ExternalSyncGeneration) (disabled : Bool) :
    (shiftCounters g disabled db).tasks =
      if db.targetsOf g.taskId = [] ∧ g.finalCount > 0 then
        db.tasks.update g.taskId (·.shift ((if disabled then -1 else 1) * g.finalCount))
      else db.tasks := by
  unfold shiftCounters
  simp only []
  generalize (if disabled then -1 else 1 : Int) = direction
  by_cases ht : db.targetsOf g.taskId = []
  · by_cases hc : g.finalCount > 0
    · rw [if_neg (not_not.mpr ht), if_pos hc, if_pos ⟨ht, hc⟩]
    · rw [if_neg (not_not.mpr ht), if_neg hc, if_neg fun h => hc h.2]
  · rw [if_pos ht, if_neg fun h => ht h.1]

/-- Every operation that keeps the cursor is one of the moves. -/
theorem apply_batchMove {op : Op} (hop : op.resetsPosition = false) :
    BatchMove op.creates db (op.apply env db).batches (op.apply env db).generations
      (op.apply env db).uuids := by
  have heffect := op.effect env db
  generalize op.apply env db = db' at heffect ⊢
  cases heffect with
  | create fileSha256 args task batches huuid htask hguard hstatus hins =>
    exact .create args batches ⟨fileSha256, rfl⟩ huuid hstatus hins
  | promote batch userId hbatch hstatus => exact .promote batch hbatch hstatus
  | reset taskId => exact .reset taskId
  | claim args task n generations htask hgen hne hpending hfetched hins =>
    exact .claim args n generations hne hpending hfetched hins
  | complete now g outputDatasetId outputSampleCount hg hpending howns =>
    rw [consumeBatches_uuids]
    exact .complete now g outputDatasetId (max outputSampleCount 0) hg hpending howns
  | fail now g reason reason' hg hpending => exact .fail now g reason' hg hpending
  | toggle g disabled hg hdisabled =>
    have hmove : BatchMove (Op.creates (.toggleGenerationDisabled g.generationTaskId disabled)) db
        _ _ _ := .toggle g disabled hg
    rw [← movedBatches_batches g disabled (db.generations.update g.generationTaskId fun g =>
      { g with disabled := disabled })] at hmove
    unfold toggled
    split <;> split <;> simpa using hmove
  | recordQa g qaDatasetId qaSampleCount hg hnone =>
    unfold recordQaOutput
    split <;> exact .recordQa g qaDatasetId (max qaSampleCount 0) hg hnone
  | updateTask verdict args task final written htask hguard hfinal hwritten =>
    have hnot : isPositionReset args.patch task = false := by
      simp only [Op.resetsPosition, decide_eq_false_iff_not] at hop
      simp [isPositionReset, hop]
    rw [writeTask_of_not_reset hnot]
    exact .stay
  | _ => exact .stay

end BatchMove

/-! ## What one operation does to trainings -/

inductive TrainingMove (db : Database) : Table ExternalSyncTraining → Prop
  | stay : TrainingMove db db.trainings
  | claim (args : CreateTraining) (task : ExternalSyncTask) (claim : Claim)
      (trainings : Table ExternalSyncTraining)
      (hins : db.trainings.insert (args.row task claim) = some trainings) :
      TrainingMove db trainings
  | reconcile (now : DateTime) (status : SyncTrainingStatus) (training : ExternalSyncTraining)
      (hmem : training ∈ db.trainings) (hopen : training.isOpen = true) :
      TrainingMove db (db.trainings.update training.trainingTaskId (·.reconcile now status))
  | write (now : DateTime) (training : ExternalSyncTraining) (status : SyncTrainingStatus)
      (output : TrainingOutput) (hmem : training ∈ db.trainings)
      (hstatus : training.status = status ∨ status ∈ trainingStatusTransitions training.status) :
      TrainingMove db (db.trainings.update training.trainingTaskId (output.write now status))
  | unload (taskId : String) (filter : UnloadFilter) :
      TrainingMove db (db.trainings.updateWhere (filter.selects taskId) ExternalSyncTraining.unload)

theorem apply_trainingMove (env : Env) (db : Database) (op : Op) :
    TrainingMove db (op.apply env db).trainings := by
  have heffect := op.effect env db
  generalize op.apply env db = db' at heffect ⊢
  cases heffect with
  | complete =>
    rw [consumeBatches_trainings]
    exact .stay
  | toggle g disabled hg hdisabled =>
    have hmove : TrainingMove db db.trainings := .stay
    unfold toggled
    split <;> split <;> simpa using hmove
  | recordQa =>
    unfold recordQaOutput
    split <;> exact .stay
  | claimForTask args task trainings htask hguard htruthy hins =>
    exact .claim args task _ trainings hins
  | claimForTarget args task target trainings htask hguard htruthy htarget hid hins =>
    exact .claim args task _ trainings hins
  | consume now training hmem hopen => exact .reconcile now .completed training hmem hopen
  | restore now training reason hmem hopen hown => exact .reconcile now .failed training hmem hopen
  | writeTraining now training status output hmem hstatus =>
    exact .write now training status output hmem hstatus
  | unload taskId filter => exact .unload taskId filter
  | updateTask => simpa using @TrainingMove.stay db
  | _ => exact .stay

end Sync
