import TrainFactory.Sync.Generations

/-!
# Training transactions

`create_training_with_claim`, `complete_training_claim`, `fail_training_and_restore_claim`,
`update_training_status` and `mark_all_trainings_adapter_unloaded` of `ExternalSyncService`: a claim
takes the pending samples of a target (or of the task) into a training row, and is reconciled once,
by consuming or by restoring them.
-/

namespace Sync

open Lib

/-- A parent that is `TRAINING` or `LOADING_ADAPTER` refuses a new claim. -/
def SyncStatus.isBusy : SyncStatus → Bool
  | .training | .loadingAdapter => true
  | _ => false

/-- A target that is `TRAINING` or `LOADING_ADAPTER` refuses every claim of its task. -/
def TrainingTargetStatus.isBusy : TrainingTargetStatus → Bool
  | .training | .loadingAdapter => true
  | _ => false

/-- `eligible_statuses`: a manual claim may also start from `ERROR`. -/
def TrainingTargetStatus.isEligible (requireThreshold : Bool) : TrainingTargetStatus → Bool
  | .idle | .ready => true
  | .error => !requireThreshold
  | _ => false

/-! ## Claiming -/

structure CreateTraining where
  now : DateTime
  taskId : String
  trainingTaskId : String
  userId : String
  inputDatasetIds : List String
  totalSamples : Int := 0
  trainingRound : Int := 1
  targetId : Option String := none
  requireThreshold : Bool := false

/-- What a claim takes, and the state its failure goes back to. -/
structure Claim where
  claimedSampleCount : Int
  previousTrainingTaskId : Option String
  previousTargetStatus : Option TrainingTargetStatus
  targetConfigSnapshot : TargetConfigSnapshot

def CreateTraining.row (args : CreateTraining) (task : ExternalSyncTask) (claim : Claim) :
    ExternalSyncTraining where
  trainingTaskId := args.trainingTaskId
  taskId := args.taskId
  userId := args.userId
  targetId := args.targetId
  inputDatasetIds := args.inputDatasetIds
  totalSamples := args.totalSamples
  trainingRound := args.trainingRound
  previousTrainingTaskId := claim.previousTrainingTaskId
  claimedSampleCount := claim.claimedSampleCount
  previousTargetStatus := claim.previousTargetStatus
  previousParentStatus := some task.status
  targetConfigSnapshot := claim.targetConfigSnapshot
  createdAt := args.now

def orEmptyObject (config : Json) : Json := if config.truthy then config else .obj []

def ExternalSyncTask.snapshot (task : ExternalSyncTask) : TargetConfigSnapshot where
  targetId := none
  taskId := task.taskId
  baseDeploymentId := task.baseDeploymentId
  baseDeploymentReplicaId := task.baseDeploymentReplicaId

def ExternalSyncTrainingTarget.snapshot (target : ExternalSyncTrainingTarget)
    (task : ExternalSyncTask) : TargetConfigSnapshot where
  targetId := some target.targetId
  taskId := target.taskId
  baseDeploymentId :=
    if truthy target.baseDeploymentId then target.baseDeploymentId else task.baseDeploymentId
  baseDeploymentReplicaId :=
    if truthy target.baseDeploymentId then target.baseDeploymentReplicaId
    else task.baseDeploymentReplicaId
  targetName := some target.targetName
  modelType := some target.modelType
  dataPhase := some target.dataPhase
  trainingMethod := some target.trainingMethod
  trainingConfig := some (orEmptyObject target.trainingConfig)
  baseModelPath := some target.baseModelPath

def ExternalSyncTask.asClaim (task : ExternalSyncTask) : Claim where
  claimedSampleCount := max task.pendingTrainingSamples 0
  previousTrainingTaskId := task.currentTrainingId
  previousTargetStatus := none
  targetConfigSnapshot := task.snapshot

def ExternalSyncTrainingTarget.asClaim (target : ExternalSyncTrainingTarget)
    (task : ExternalSyncTask) : Claim where
  claimedSampleCount := max target.pendingTrainingSamples 0
  previousTrainingTaskId := target.currentTrainingId
  previousTargetStatus := some target.status
  targetConfigSnapshot := target.snapshot task

def ExternalSyncTrainingTarget.claim (trainingTaskId : String) (t : ExternalSyncTrainingTarget) :
    ExternalSyncTrainingTarget :=
  { t with
    status := .training
    pendingTrainingSamples := 0
    currentTrainingId := some trainingTaskId }

def ExternalSyncTask.claim (trainingTaskId : String) (t : ExternalSyncTask) : ExternalSyncTask :=
  { t with
    status := .training
    currentTrainingId := some trainingTaskId
    errorMessage := none }

def belowThreshold (requireThreshold : Bool) (trainingThreshold claimedSampleCount : Int) : Bool :=
  let threshold := max trainingThreshold 0
  requireThreshold && (threshold ≤ 0 || claimedSampleCount < threshold)

/-- The last steps of a claim: check the transition, move the parent, add the training row. -/
def recordClaim (args : CreateTraining) (task : ExternalSyncTask) (claim : Claim)
    (db : Database) : Outcome (Option ExternalSyncTraining) :=
  match validateTransition taskStatusTransitions "sync task" task.status .training with
  | .error e => .error e
  | .ok () =>
    match db.trainings.insert (args.row task claim) with
    | none => .error .integrityError
    | some trainings =>
      .ok (some (args.row task claim), { db with
        trainings := trainings
        tasks := db.tasks.update args.taskId (·.claim args.trainingTaskId) })

def claimForTask (args : CreateTraining) (task : ExternalSyncTask) (db : Database) :
    Outcome (Option ExternalSyncTraining) :=
  if belowThreshold args.requireThreshold task.trainingThreshold
      task.asClaim.claimedSampleCount then .ok (none, db)
  else
    recordClaim args task task.asClaim { db with
      tasks := db.tasks.update args.taskId fun t => { t with pendingTrainingSamples := 0 } }

def activeTargets (db : Database) (taskId : String) : List ExternalSyncTrainingTarget :=
  db.targets.select fun t => t.taskId = taskId && t.isActive

def claimForTarget (args : CreateTraining) (task : ExternalSyncTask) (db : Database) :
    Outcome (Option ExternalSyncTraining) :=
  let targets := activeTargets db args.taskId
  if targets.any fun t => t.status.isBusy then .ok (none, db)
  else
    match targets.find? fun t => some t.targetId = args.targetId with
    | none => .ok (none, db)
    | some target =>
      if ¬ target.status.isEligible args.requireThreshold then .ok (none, db)
      else if belowThreshold args.requireThreshold target.trainingThreshold
          (target.asClaim task).claimedSampleCount then .ok (none, db)
      else
        recordClaim args task (target.asClaim task) { db with
          targets := db.targets.update target.targetId (·.claim args.trainingTaskId) }

/-- `create_training_with_claim`: the training row, or `none` if nothing can be claimed now. -/
def createTrainingWithClaim (args : CreateTraining) (db : Database) :
    Outcome (Option ExternalSyncTraining) :=
  match db.trainings.lookup args.trainingTaskId with
  | some existing => .ok (some existing, db)
  | none =>
    match db.tasks.lookup args.taskId with
    | none => .ok (none, db)
    | some task =>
      if task.userId ≠ args.userId then
        .error (.permissionError "External sync task ownership mismatch")
      else if task.status.isDeleting then
        .error (.valueError "Sync task deletion is in progress")
      else if task.status.isBusy then .ok (none, db)
      else if truthy args.targetId then claimForTarget args task db
      else claimForTask args task db

/-! ## Reconciling -/

def claimTarget (db : Database) (training : ExternalSyncTraining) :
    Option ExternalSyncTrainingTarget :=
  (db.targetsOf training.taskId).find? fun t => some t.targetId = training.targetId

/-- `claim_owned`: the task, and the target of a target training, still point to the training. -/
def claimOwned (db : Database) (training : ExternalSyncTraining) : Bool :=
  (db.tasks.lookup training.taskId).any (fun t =>
    t.currentTrainingId = some training.trainingTaskId) &&
  (!truthy training.targetId || (claimTarget db training).any fun t =>
    t.taskId = training.taskId && t.currentTrainingId = some training.trainingTaskId)

def deletionPending (db : Database) (taskId : String) : Bool :=
  (db.tasks.lookup taskId).any fun t => t.status.isDeleting

structure ClaimCompletion where
  trackingFound : Bool
  completed : Bool := false
  alreadyCompleted : Bool := false
  claimOwnerMismatch : Bool := false
  deletionPending : Bool := false

def ExternalSyncTraining.reconcile (now : DateTime) (status : SyncTrainingStatus)
    (t : ExternalSyncTraining) : ExternalSyncTraining :=
  { t with
    status := status
    claimReconciled := true
    completedAt := some now }

/-- The writes of a consumed claim: the adapter is loaded next, unless the task is being deleted. -/
def consumeClaim (now : DateTime) (training : ExternalSyncTraining) (db : Database) : Database :=
  let deleting := deletionPending db training.taskId
  { db with
    tasks := if deleting then db.tasks else db.tasks.update training.taskId fun t =>
      { t with status := .loadingAdapter, errorMessage := none }
    targets :=
      if !deleting && truthy training.targetId then
        db.targets.updateWhere
          (fun t => t.taskId = training.taskId && some t.targetId = training.targetId)
          fun t => { t with status := .loadingAdapter }
      else db.targets
    trainings := db.trainings.update training.trainingTaskId (·.reconcile now .completed) }

def completeTrainingClaim (now : DateTime) (trainingTaskId : String) (db : Database) :
    Outcome ClaimCompletion :=
  match db.trainings.lookup trainingTaskId with
  | none => .ok ({ trackingFound := false }, db)
  | some training =>
    if training.claimReconciled then
      .ok ({ trackingFound := true, alreadyCompleted := training.status ≠ .failed }, db)
    else if training.status ≠ .pending then .ok ({ trackingFound := true }, db)
    else if ¬ claimOwned db training then
      .ok ({ trackingFound := true, claimOwnerMismatch := true }, db)
    else
      .ok ({ trackingFound := true, completed := true
             deletionPending := deletionPending db training.taskId },
        consumeClaim now training db)

structure ClaimRecovery where
  trackingFound : Bool
  recovered : Bool := false
  alreadyRecovered : Bool := false
  claimOwnerMismatch : Bool := false
  restoredSampleCount : Int := 0
  deletionPending : Bool := false

/-- The target of a failed claim goes back to where it was claimed. -/
def ExternalSyncTrainingTarget.restore (training : ExternalSyncTraining)
    (t : ExternalSyncTrainingTarget) : ExternalSyncTrainingTarget :=
  { t with
    pendingTrainingSamples :=
      max t.pendingTrainingSamples 0 + max training.claimedSampleCount 0
    status := training.previousTargetStatus.getD .idle
    currentTrainingId := training.previousTrainingTaskId }

/-- The parent of a failed claim; it takes the samples back if the claim had no target. -/
def ExternalSyncTask.restore (training : ExternalSyncTraining) (reason : String)
    (t : ExternalSyncTask) : ExternalSyncTask :=
  { t with
    pendingTrainingSamples :=
      if truthy training.targetId then t.pendingTrainingSamples
      else max t.pendingTrainingSamples 0 + max training.claimedSampleCount 0
    currentTrainingId := training.previousTrainingTaskId
    status := if t.status.isDeleting then t.status else .error
    errorMessage := if t.status.isDeleting then t.errorMessage else some reason }

def restoreClaim (now : DateTime) (training : ExternalSyncTraining) (reason : String)
    (db : Database) : Database :=
  { db with
    tasks := db.tasks.update training.taskId (·.restore training reason)
    targets :=
      if truthy training.targetId then
        db.targets.updateWhere
          (fun t => t.taskId = training.taskId && some t.targetId = training.targetId)
          (·.restore training)
      else db.targets
    trainings := db.trainings.update training.trainingTaskId (·.reconcile now .failed) }

def failTrainingAndRestoreClaim (now : DateTime) (trainingTaskId reason : String)
    (db : Database) : Outcome ClaimRecovery :=
  match db.trainings.lookup trainingTaskId with
  | none => .ok ({ trackingFound := false }, db)
  | some training =>
    if training.claimReconciled then
      .ok ({ trackingFound := true, alreadyRecovered := training.status = .failed }, db)
    else if training.status ≠ .pending then .ok ({ trackingFound := true }, db)
    else if ¬ claimOwned db training then
      .ok ({ trackingFound := true, claimOwnerMismatch := true }, db)
    else
      .ok ({ trackingFound := true, recovered := true
             restoredSampleCount := max training.claimedSampleCount 0
             deletionPending := deletionPending db training.taskId },
        restoreClaim now training reason db)

/-! ## Adapter bookkeeping -/

/-- The optional columns `update_training_status` writes when they are given. -/
structure TrainingOutput where
  outputAdapterPath : Option String := none
  outputModelRegistryId : Option String := none
  loadedAdapterName : Option String := none
  loadedAdapterId : Option String := none

def ifTruthy (value previous : Option String) : Option String :=
  if truthy value then value else previous

def TrainingOutput.write (output : TrainingOutput) (now : DateTime) (status : SyncTrainingStatus)
    (t : ExternalSyncTraining) : ExternalSyncTraining :=
  { t with
    status := status
    outputAdapterPath := ifTruthy output.outputAdapterPath t.outputAdapterPath
    outputModelRegistryId := ifTruthy output.outputModelRegistryId t.outputModelRegistryId
    loadedAdapterName := ifTruthy output.loadedAdapterName t.loadedAdapterName
    loadedAdapterId := ifTruthy output.loadedAdapterId t.loadedAdapterId
    completedAt :=
      if status ∈ [.completed, .adapterLoaded, .failed, .adapterLoadFailed] then some now
      else t.completedAt }

def updateTrainingStatus (now : DateTime) (trainingTaskId : String) (status : SyncTrainingStatus)
    (output : TrainingOutput) (db : Database) : Outcome Unit :=
  match db.trainings.lookup trainingTaskId with
  | none => .ok ((), db)
  | some training =>
    match validateTransition trainingStatusTransitions "sync training" training.status status with
    | .error e => .error e
    | .ok () =>
      .ok ((), { db with
        trainings := db.trainings.update trainingTaskId (output.write now status) })

structure UnloadFilter where
  excludeTrainingTaskId : Option String := none
  targetIds : Option (List (Option String)) := none
  loadedAdapterId : Option String := none
  loadedAdapterName : Option String := none

/-- The `WHERE` clause of `mark_all_trainings_adapter_unloaded`. -/
def UnloadFilter.selects (filter : UnloadFilter) (taskId : String) (t : ExternalSyncTraining) :
    Bool :=
  t.taskId = taskId && t.status = .adapterLoaded &&
  (!truthy filter.excludeTrainingTaskId ||
    some t.trainingTaskId ≠ filter.excludeTrainingTaskId) &&
  (!truthy filter.loadedAdapterId || t.loadedAdapterId = filter.loadedAdapterId) &&
  (!truthy filter.loadedAdapterName || t.loadedAdapterName = filter.loadedAdapterName) &&
  (match filter.targetIds with
    | none => true
    | some ids => ids.any fun id => t.targetId = id)

/-- The row that `mark_all_trainings_adapter_unloaded` writes. -/
def ExternalSyncTraining.unload (t : ExternalSyncTraining) : ExternalSyncTraining :=
  { t with status := .adapterUnloaded }

def markAllTrainingsAdapterUnloaded (taskId : String) (filter : UnloadFilter) (db : Database) :
    Outcome Nat :=
  if filter.targetIds = some [] then .ok (0, db)
  else
    .ok ((db.trainings.select (filter.selects taskId)).length,
      { db with trainings :=
          db.trainings.updateWhere (filter.selects taskId) ExternalSyncTraining.unload })

end Sync
