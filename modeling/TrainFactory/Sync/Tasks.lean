import TrainFactory.Sync.Trainings

/-!
# Task and target writers

`update_task`, `compare_and_set_task_status`, `transition_task_if_no_pending_generation`,
`begin_task_deletion`, and the writers of training targets: `create_training_target`,
`update_training_target` and `migrate_legacy_training_target`.
-/

namespace Sync

open Lib

/-! ## The writer scope -/

/-- What the deployment service answers a writer: whether its runtime dependencies could be locked,
and whether the deployment bindings it changes are valid. -/
structure DependencyVerdict where
  lock : Except SyncError Unit := .ok ()
  binding : Except SyncError Unit := .ok ()

def foreignTarget (db : Database) (taskId : String) (requestedTargetIds : List String) :
    Option String :=
  let foreign := db.targets.select fun t => t.targetId ∈ requestedTargetIds && t.taskId ≠ taskId
  ((foreign.map ExternalSyncTrainingTarget.targetId).mergeSort (· ≤ ·)).head?

/-- `_lock_writer_scope`: the task and its targets, `none` if the task does not exist. -/
def lockWriterScope (verdict : DependencyVerdict) (taskId : String)
    (expectedUserId : Option String) (requestedTargetIds : List String) (db : Database) :
    Except SyncError (Option (ExternalSyncTask × List ExternalSyncTrainingTarget)) :=
  match db.tasks.lookup taskId with
  | none => .ok none
  | some task =>
    if truthy expectedUserId ∧ some task.userId ≠ expectedUserId then
      .error (.dependency "Runtime dependency is unavailable")
    else
      match verdict.lock with
      | .error e => .error e
      | .ok () =>
        if expectedUserId ≠ none ∧ some task.userId ≠ expectedUserId then
          .error (.valueError "Sync task ownership mismatch during update")
        else if task.status.isDeleting then
          .error (.valueError "Sync task deletion is in progress")
        else
          match foreignTarget db taskId requestedTargetIds with
          | some targetId =>
            .error (.valueError ("Training target belongs to another sync task: " ++ targetId))
          | none => .ok (some (task, db.targetsOf taskId))

def validateReplicaBindingPair (baseDeploymentId baseDeploymentReplicaId : Option String) :
    Except SyncError Unit :=
  if truthy baseDeploymentReplicaId ∧ ¬ truthy baseDeploymentId then
    .error (.valueError "base_deployment_replica_id requires base_deployment_id")
  else .ok ()

def SyncTrainingStatus.isBindingActive : SyncTrainingStatus → Bool
  | .pending | .completed | .adapterLoaded => true
  | _ => false

def bindingIsFrozen (db : Database) (task : ExternalSyncTask)
    (targets : List ExternalSyncTrainingTarget) : Bool :=
  task.status.isBusy || truthy task.currentAdapterId || truthy task.currentAdapterName ||
  (db.trainings.select fun t => t.taskId = task.taskId && t.status.isBindingActive) ≠ [] ||
  targets.any fun t => t.status.isBusy || truthy t.currentAdapterId || truthy t.currentAdapterName

def bindingFrozen : SyncError :=
  .valueError "Deployment binding cannot change while training or an adapter is active"

/-! ## Replacing the targets of a task -/

/-- The editable fields of a target, with the defaults of `update_task`. -/
structure TargetValues where
  targetId : String
  targetName : String
  modelType : String := "embedding"
  dataPhase : String := "final"
  trainingMethod : String := "sft"
  trainingConfig : Json := .obj []
  baseModelPath : String := ""
  baseDeploymentId : Option String := none
  baseDeploymentReplicaId : Option String := none
  trainingThreshold : Int := 1000
  priority : Int := 0
  sortOrder : Int := 0

def normalizeTargets (seen : List String) :
    List TargetValues → Except SyncError (List TargetValues)
  | [] => .ok []
  | raw :: rest =>
    let targetId := strip raw.targetId
    let targetName := strip raw.targetName
    if targetId = "" then .error (.valueError "Each training target requires target_id")
    else if targetId.length > 36 then
      .error (.valueError "training target_id must be at most 36 characters")
    else if targetId ∈ seen then
      .error (.valueError ("Duplicate training target_id: " ++ targetId))
    else if targetName = "" then
      .error (.valueError "Each training target requires target_name")
    else
      match validateReplicaBindingPair raw.baseDeploymentId raw.baseDeploymentReplicaId with
      | .error e => .error e
      | .ok () =>
        match normalizeTargets (targetId :: seen) rest with
        | .error e => .error e
        | .ok values => .ok ({ raw with
            targetId := targetId
            targetName := targetName
            trainingConfig := orEmptyObject raw.trainingConfig } :: values)

def TargetValues.edit (v : TargetValues) (t : ExternalSyncTrainingTarget) :
    ExternalSyncTrainingTarget :=
  { t with
    targetName := v.targetName
    modelType := v.modelType
    dataPhase := v.dataPhase
    trainingMethod := v.trainingMethod
    trainingConfig := v.trainingConfig
    baseModelPath := v.baseModelPath
    baseDeploymentId := v.baseDeploymentId
    baseDeploymentReplicaId := v.baseDeploymentReplicaId
    trainingThreshold := v.trainingThreshold
    priority := v.priority
    sortOrder := v.sortOrder }

def TargetValues.row (v : TargetValues) (taskId : String) (pending : Int) :
    ExternalSyncTrainingTarget :=
  v.edit { targetId := v.targetId, taskId := taskId, targetName := v.targetName
           pendingTrainingSamples := pending, totalTrainingSamples := pending }

/-- The samples that the parent hands over to the target `legacyTarget`, and to no other. -/
def legacyShare (legacyTarget : Option String) (pending : Int) (targetId : String) : Int :=
  if legacyTarget = some targetId then pending else 0

def writeTargets (taskId : String) (share : String → Int) :
    List TargetValues → Table ExternalSyncTrainingTarget →
    Except SyncError (Table ExternalSyncTrainingTarget)
  | [], targets => .ok targets
  | v :: vs, targets =>
    match targets.lookup v.targetId with
    | some _ => writeTargets taskId share vs (targets.update v.targetId v.edit)
    | none =>
      match targets.insert (v.row taskId (share v.targetId)) with
      | none => .error .integrityError
      | some targets => writeTargets taskId share vs targets

/-! ## Updating a task -/

/-- The keyword arguments of `update_task` that are given, by column. -/
structure TaskPatch where
  status : Option SyncStatus := none
  isActive : Option Bool := none
  errorMessage : Option (Option String) := none
  lastSyncAt : Option (Option DateTime) := none
  lastSyncBoundaryIds : Option (List String) := none
  externalApiConfigId : Option (Option String) := none
  externalApiUrl : Option String := none
  generationThreshold : Option Int := none
  trainingThreshold : Option Int := none
  trainingConfig : Option (Option Json) := none
  baseDeploymentId : Option (Option String) := none
  baseDeploymentReplicaId : Option (Option String) := none
  milvusCollectionName : Option (Option String) := none
  totalTrainings : Option Int := none
  currentAdapterName : Option (Option String) := none
  currentAdapterId : Option (Option String) := none
  currentTrainingId : Option (Option String) := none

/-- `setattr` for every given argument, as the row reads back after the commit. -/
def TaskPatch.apply (p : TaskPatch) (t : ExternalSyncTask) : ExternalSyncTask :=
  { t with
    status := p.status.getD t.status
    isActive := p.isActive.getD t.isActive
    errorMessage := p.errorMessage.getD t.errorMessage
    lastSyncAt := (p.lastSyncAt.map (Option.map datetimeColumn)).getD t.lastSyncAt
    lastSyncBoundaryIds := p.lastSyncBoundaryIds.getD t.lastSyncBoundaryIds
    externalApiConfigId := p.externalApiConfigId.getD t.externalApiConfigId
    externalApiUrl := p.externalApiUrl.getD t.externalApiUrl
    generationThreshold := p.generationThreshold.getD t.generationThreshold
    trainingThreshold := p.trainingThreshold.getD t.trainingThreshold
    trainingConfig := p.trainingConfig.getD t.trainingConfig
    baseDeploymentId := p.baseDeploymentId.getD t.baseDeploymentId
    baseDeploymentReplicaId := p.baseDeploymentReplicaId.getD t.baseDeploymentReplicaId
    milvusCollectionName := p.milvusCollectionName.getD t.milvusCollectionName
    totalTrainings := p.totalTrainings.getD t.totalTrainings
    currentAdapterName := p.currentAdapterName.getD t.currentAdapterName
    currentAdapterId := p.currentAdapterId.getD t.currentAdapterId
    currentTrainingId := p.currentTrainingId.getD t.currentTrainingId }

def ExternalSyncTask.clearLegacyTrainingSources (t : ExternalSyncTask) : ExternalSyncTask :=
  { t with
    trainingConfig := none
    trainingThreshold := 0
    pendingTrainingSamples := 0 }

def bindingsChanged (p : TaskPatch) (task : ExternalSyncTask)
    (targets : List ExternalSyncTrainingTarget) (final : Option (List TargetValues)) : Bool :=
  p.baseDeploymentId.getD task.baseDeploymentId ≠ task.baseDeploymentId ||
  p.baseDeploymentReplicaId.getD task.baseDeploymentReplicaId ≠ task.baseDeploymentReplicaId ||
  match final with
  | none => false
  | some values => targets.any fun t =>
    match values.find? fun v => v.targetId = t.targetId with
    | none => true
    | some v => v.baseDeploymentId ≠ t.baseDeploymentId ||
      v.baseDeploymentReplicaId ≠ t.baseDeploymentReplicaId

def sourceIdentityChanged (p : TaskPatch) (task : ExternalSyncTask) : Bool :=
  p.externalApiConfigId.any (fun id =>
    strip (id.getD "") ≠ strip (task.externalApiConfigId.getD "")) ||
  p.externalApiUrl.any fun url => strip url ≠ strip task.externalApiUrl

def hasPersistedHistory (db : Database) (task : ExternalSyncTask) : Bool :=
  task.lastSyncAt ≠ none || task.lastSyncBoundaryIds ≠ [] || task.pendingRecordCount ≠ 0 ||
  task.pendingTrainingSamples ≠ 0 || task.totalRecordCount ≠ 0 ||
  task.totalTrainingSamples ≠ 0 || task.totalTrainings ≠ 0 || truthy task.milvusCollectionName ||
  db.batches.rows.any (fun b => b.taskId = task.taskId) ||
  db.generations.rows.any (fun g => g.taskId = task.taskId) ||
  db.trainings.rows.any fun t => t.taskId = task.taskId

def removedTargets (targets : List ExternalSyncTrainingTarget)
    (final : Option (List TargetValues)) : List ExternalSyncTrainingTarget :=
  match final with
  | none => []
  | some values => targets.filter fun t => !values.any fun v => v.targetId = t.targetId

def targetInUse (db : Database) (t : ExternalSyncTrainingTarget) : Bool :=
  t.status.isBusy || db.trainings.rows.any fun tr =>
    tr.taskId = t.taskId && tr.status = .pending && tr.targetId = some t.targetId

/-- `isinstance(training_config, dict) and int(training_threshold or 0) > 0`. -/
def hasLegacySources (trainingConfig : Option Json) (trainingThreshold : Int) : Bool :=
  trainingConfig.any Json.isObj && trainingThreshold > 0

def checkTaskUpdate (verdict : DependencyVerdict) (p : TaskPatch)
    (final : Option (List TargetValues)) (task : ExternalSyncTask)
    (targets : List ExternalSyncTrainingTarget) (db : Database) : Except SyncError Unit :=
  if bindingsChanged p task targets final ∧ bindingIsFrozen db task targets then
    .error bindingFrozen
  else
    match verdict.binding with
    | .error e => .error e
    | .ok () =>
      if sourceIdentityChanged p task ∧ (hasPersistedHistory db task ∨
          ¬ (task.status = .idle ∨ task.status = .error)) then
        .error (.valueError ("Cannot change sync source after data ingestion has started; " ++
          "create a new sync task"))
      else
        match validateTransition taskStatusTransitions "sync task" task.status
            (p.status.getD task.status) with
        | .error e => .error e
        | .ok () =>
          if (removedTargets targets final).any (targetInUse db) then
            .error (.valueError "Training target has an active training and cannot be deleted")
          else .ok ()

def legacyTargetToCreate (legacyTrainingTargetId : String → String) (task : ExternalSyncTask)
    (targets : List ExternalSyncTrainingTarget) (final : Option (List TargetValues)) :
    Option String :=
  match final with
  | none => none
  | some values =>
    let syntheticTargetId := legacyTrainingTargetId task.taskId
    if targets = [] ∧ hasLegacySources task.trainingConfig task.trainingThreshold ∧
        values.any (fun v => v.targetId = syntheticTargetId) then some syntheticTargetId
    else none

def deletesAllLegacyTargets (p : TaskPatch) (task : ExternalSyncTask)
    (final : Option (List TargetValues)) : Bool :=
  match final with
  | some [] => hasLegacySources task.trainingConfig task.trainingThreshold ||
    hasLegacySources (p.trainingConfig.getD task.trainingConfig)
      (p.trainingThreshold.getD task.trainingThreshold)
  | _ => false

/-- The task row after `update_task`, before a position reset touches its pending counter. -/
def patchedTask (legacyTrainingTargetId : String → String) (p : TaskPatch)
    (final : Option (List TargetValues)) (targets : List ExternalSyncTrainingTarget)
    (task : ExternalSyncTask) : ExternalSyncTask :=
  if (legacyTargetToCreate legacyTrainingTargetId task targets final).isSome ||
      deletesAllLegacyTargets p task final then
    (p.apply task).clearLegacyTrainingSources
  else p.apply task

theorem patchedTask_taskId (legacyTrainingTargetId : String → String) (p : TaskPatch)
    (final : Option (List TargetValues)) (targets : List ExternalSyncTrainingTarget)
    (task : ExternalSyncTask) :
    (patchedTask legacyTrainingTargetId p final targets task).taskId = task.taskId := by
  unfold patchedTask
  split <;> rfl

/-- The update sets a cursor back to the beginning. -/
def isPositionReset (p : TaskPatch) (task : ExternalSyncTask) : Bool :=
  p.lastSyncAt = some none && task.lastSyncAt ≠ none

/-- What `update_task` returns: the row, and the batches whose files are cleaned up next. -/
structure TaskUpdate where
  task : ExternalSyncTask
  invalidatedBatches : List ExternalSyncBatch := []

def writeTask (legacyTrainingTargetId : String → String) (p : TaskPatch)
    (final : Option (List TargetValues)) (task : ExternalSyncTask)
    (targets : List ExternalSyncTrainingTarget) (db : Database) :
    List ExternalSyncBatch × Database :=
  let patch := patchedTask legacyTrainingTargetId p final targets
  let patched := { db with tasks := (db.tasks.update task.taskId patch
      (patchedTask_taskId legacyTrainingTargetId p final targets)) }
  if isPositionReset p task then invalidateFetchedBatches task.taskId patched else ([], patched)

def replaceTargets (legacyTrainingTargetId : String → String)
    (final : Option (List TargetValues)) (task : ExternalSyncTask)
    (targets : List ExternalSyncTrainingTarget) (db : Database) :
    Except SyncError (Table ExternalSyncTrainingTarget) :=
  match final with
  | none => .ok db.targets
  | some values =>
    let removed := (removedTargets targets final).map ExternalSyncTrainingTarget.targetId
    let share := legacyShare (legacyTargetToCreate legacyTrainingTargetId task targets final)
      task.pendingTrainingSamples
    writeTargets task.taskId share (values.mergeSort fun v w => v.targetId ≤ w.targetId)
      (db.targets.deleteWhere fun t => t.taskId = task.taskId && t.targetId ∈ removed)

structure UpdateTask where
  taskId : String
  patch : TaskPatch := {}
  trainingTargets : Option (List TargetValues) := none
  expectedUserId : Option String := none

/-- The `training_targets` argument after its validation, if it is given. -/
def finalTargets (trainingTargets : Option (List TargetValues)) :
    Except SyncError (Option (List TargetValues)) :=
  match trainingTargets with
  | none => .ok none
  | some raw => (normalizeTargets [] raw).map some

def updateTask (legacyTrainingTargetId : String → String) (verdict : DependencyVerdict)
    (args : UpdateTask) (db : Database) : Outcome (Option TaskUpdate) :=
  match finalTargets args.trainingTargets with
  | .error e => .error e
  | .ok final =>
    let requestedTargetIds := (final.getD []).map TargetValues.targetId
    match lockWriterScope verdict args.taskId args.expectedUserId requestedTargetIds db with
    | .error e => .error e
    | .ok none => .ok (none, db)
    | .ok (some (task, targets)) =>
      match checkTaskUpdate verdict args.patch final task targets db with
      | .error e => .error e
      | .ok () =>
        match replaceTargets legacyTrainingTargetId final task targets db with
        | .error e => .error e
        | .ok written =>
          let (invalidated, db) := writeTask legacyTrainingTargetId args.patch final task targets db
          .ok ((db.tasks.lookup task.taskId).map fun t =>
            { task := t, invalidatedBatches := invalidated }, { db with targets := written })

/-! ## Status writers -/

def compareAndSetTaskStatus (taskId : String) (expectedStatus status : SyncStatus)
    (errorMessage : Option String) (db : Database) : Outcome Bool :=
  match validateTransition taskStatusTransitions "sync task" expectedStatus status with
  | .error e => .error e
  | .ok () =>
    if (db.tasks.lookup taskId).any fun t => t.status = expectedStatus then
      .ok (true, { db with tasks := db.tasks.update taskId fun t => { t with
        status := status
        errorMessage := if errorMessage = none then t.errorMessage else errorMessage } })
    else .ok (false, db)

def transitionTaskIfNoPendingGeneration (taskId : String) (status : SyncStatus)
    (errorMessage : Option String) (expectedStatus : Option SyncStatus) (db : Database) :
    Outcome Bool :=
  match db.tasks.lookup taskId with
  | none => .ok (false, db)
  | some task =>
    if expectedStatus ≠ none ∧ some task.status ≠ expectedStatus then .ok (false, db)
    else if db.generations.select (fun g => g.taskId = taskId && g.status = .pending) ≠ [] then
      .ok (false, db)
    else
      match validateTransition taskStatusTransitions "sync task" task.status status with
      | .error e => .error e
      | .ok () => .ok (true, { db with tasks := db.tasks.update taskId fun t =>
          { t with status := status, errorMessage := errorMessage } })

def resetGeneratingTaskIfNoPendingGeneration (taskId : String) (db : Database) : Outcome Bool :=
  transitionTaskIfNoPendingGeneration taskId .idle none (some .generating) db

/-- `begin_task_deletion`: the task row under deletion. -/
def beginTaskDeletion (taskId : String) (cascade : Bool) (expectedUserId : String)
    (db : Database) : Outcome (Option ExternalSyncTask) :=
  let requestedStatus : SyncStatus := if cascade then .deletingCascade else .deleting
  match db.tasks.lookup taskId with
  | none => .ok (none, db)
  | some task =>
    if task.userId ≠ expectedUserId then
      .error (.valueError "Sync task owner changed during deletion")
    else if task.status.isDeleting then
      if task.status ≠ requestedStatus then
        .error (.valueError "Sync task deletion mode cannot change after cleanup starts")
      else .ok (some task, db)
    else
      match validateTransition taskStatusTransitions "sync task" task.status requestedStatus with
      | .error e => .error e
      | .ok () =>
        let tasks := db.tasks.update taskId fun t =>
          { t with status := requestedStatus, isActive := false, errorMessage := none }
        .ok (tasks.lookup taskId, { db with tasks := tasks })

structure CancelTaskDeletion where
  taskId : String
  status : SyncStatus
  isActive : Bool
  expectedUserId : String
  expectedDeletingStatus : SyncStatus

/-- `cancel_task_deletion`: whether the task was there to restore. Only an active task locks its
dependencies, which `_lock_writer_scope` allows while the task is being deleted, and has its
bindings validated. -/
def cancelTaskDeletion (verdict : DependencyVerdict) (args : CancelTaskDeletion)
    (db : Database) : Outcome Bool :=
  if args.status.isDeleting then
    .error (.valueError "Cannot restore a sync task to a deleting status")
  else if ¬ args.expectedDeletingStatus.isDeleting then
    .error (.valueError "Invalid expected sync task deleting status")
  else
    match db.tasks.lookup args.taskId with
    | none => .ok (false, db)
    | some task =>
      match if args.isActive then verdict.lock else .ok () with
      | .error e => .error e
      | .ok () =>
        if task.userId ≠ args.expectedUserId then
          .error (.valueError "Sync task owner changed during deletion rollback")
        else if task.status ≠ args.expectedDeletingStatus then
          .error (.valueError "Sync task deletion mode changed during rollback")
        else
          match if args.isActive then verdict.binding else .ok () with
          | .error e => .error e
          | .ok () =>
            .ok (true, { db with tasks := db.tasks.update args.taskId fun t =>
              { t with status := args.status, isActive := args.isActive } })

/-! ## Target writers -/

/-- The arguments of `create_training_target` and `migrate_legacy_training_target`. -/
structure CreateTarget where
  taskId : String
  values : TargetValues
  expectedUserId : Option String := none

def CreateTarget.stored (args : CreateTarget) : TargetValues :=
  { args.values with trainingConfig := orEmptyObject args.values.trainingConfig }

def taskNotFound : SyncError := .valueError "Sync task not found during target mutation"

/-- `create_training_target`; a caller without an id passes a `uuid4`. -/
def createTrainingTarget (verdict : DependencyVerdict) (args : CreateTarget) (db : Database) :
    Outcome ExternalSyncTrainingTarget :=
  match validateReplicaBindingPair args.values.baseDeploymentId
      args.values.baseDeploymentReplicaId with
  | .error e => .error e
  | .ok () =>
    match lockWriterScope verdict args.taskId args.expectedUserId [args.values.targetId] db with
    | .error e => .error e
    | .ok none => .error taskNotFound
    | .ok (some _) =>
      match verdict.binding with
      | .error e => .error e
      | .ok () =>
        let row := args.stored.row args.taskId 0
        match db.targets.insert row with
        | none => .error .integrityError
        | some targets => .ok (row, { db with targets := targets })

def migrateLegacyTrainingTarget (verdict : DependencyVerdict) (args : CreateTarget)
    (db : Database) : Outcome ExternalSyncTrainingTarget :=
  match validateReplicaBindingPair args.values.baseDeploymentId
      args.values.baseDeploymentReplicaId with
  | .error e => .error e
  | .ok () =>
    match lockWriterScope verdict args.taskId args.expectedUserId [args.values.targetId] db with
    | .error e => .error e
    | .ok none => .error taskNotFound
    | .ok (some (parent, existing :: _)) =>
      if existing.targetId = args.values.targetId then
        .ok (existing.credit parent.pendingTrainingSamples, { db with
          targets := db.targets.update existing.targetId (·.credit parent.pendingTrainingSamples)
          tasks := db.tasks.update args.taskId ExternalSyncTask.clearLegacyTrainingSources })
      else .ok (existing, db)
    | .ok (some (parent, [])) =>
      match verdict.binding with
      | .error e => .error e
      | .ok () =>
        let row := args.stored.row args.taskId parent.pendingTrainingSamples
        match db.targets.insert row with
        | none => .error .integrityError
        | some targets => .ok (row, { db with
            targets := targets
            tasks := db.tasks.update args.taskId ExternalSyncTask.clearLegacyTrainingSources })

/-- The keyword arguments of `update_training_target` that are given, by column. -/
structure TargetPatch where
  targetName : Option String := none
  modelType : Option String := none
  dataPhase : Option String := none
  trainingMethod : Option String := none
  trainingConfig : Option Json := none
  baseModelPath : Option String := none
  baseDeploymentId : Option (Option String) := none
  baseDeploymentReplicaId : Option (Option String) := none
  trainingThreshold : Option Int := none
  priority : Option Int := none
  sortOrder : Option Int := none
  isActive : Option Bool := none
  status : Option TrainingTargetStatus := none
  totalTrainings : Option Int := none
  currentAdapterName : Option (Option String) := none
  currentAdapterId : Option (Option String) := none
  currentTrainingId : Option (Option String) := none

/-- `setattr` for every given argument, as the row reads back after the commit. -/
def TargetPatch.apply (p : TargetPatch) (t : ExternalSyncTrainingTarget) :
    ExternalSyncTrainingTarget :=
  { t with
    targetName := p.targetName.getD t.targetName
    modelType := p.modelType.getD t.modelType
    dataPhase := p.dataPhase.getD t.dataPhase
    trainingMethod := p.trainingMethod.getD t.trainingMethod
    trainingConfig := p.trainingConfig.getD t.trainingConfig
    baseModelPath := p.baseModelPath.getD t.baseModelPath
    baseDeploymentId := p.baseDeploymentId.getD t.baseDeploymentId
    baseDeploymentReplicaId := p.baseDeploymentReplicaId.getD t.baseDeploymentReplicaId
    trainingThreshold := p.trainingThreshold.getD t.trainingThreshold
    priority := p.priority.getD t.priority
    sortOrder := p.sortOrder.getD t.sortOrder
    isActive := p.isActive.getD t.isActive
    status := p.status.getD t.status
    totalTrainings := p.totalTrainings.getD t.totalTrainings
    currentAdapterName := p.currentAdapterName.getD t.currentAdapterName
    currentAdapterId := p.currentAdapterId.getD t.currentAdapterId
    currentTrainingId := p.currentTrainingId.getD t.currentTrainingId }

def TargetPatch.movesBinding (p : TargetPatch) (t : ExternalSyncTrainingTarget) : Bool :=
  p.baseDeploymentId.getD t.baseDeploymentId ≠ t.baseDeploymentId ||
  p.baseDeploymentReplicaId.getD t.baseDeploymentReplicaId ≠ t.baseDeploymentReplicaId

structure UpdateTarget where
  targetId : String
  patch : TargetPatch := {}
  taskId : Option String := none
  expectedUserId : Option String := none

def UpdateTarget.resolvedTaskId (args : UpdateTarget) (db : Database) : Option String :=
  match args.taskId with
  | some taskId => some taskId
  | none => (db.targets.lookup args.targetId).map ExternalSyncTrainingTarget.taskId

def updateTrainingTarget (verdict : DependencyVerdict) (args : UpdateTarget) (db : Database) :
    Outcome (Option ExternalSyncTrainingTarget) :=
  match args.resolvedTaskId db with
  | none => .ok (none, db)
  | some taskId =>
    match lockWriterScope verdict taskId args.expectedUserId [args.targetId] db with
    | .error e => .error e
    | .ok none => .error taskNotFound
    | .ok (some (parent, targets)) =>
      match targets.find? fun t => t.targetId = args.targetId with
      | none => .ok (none, db)
      | some target =>
        if args.patch.movesBinding target ∧ bindingIsFrozen db parent targets then
          .error bindingFrozen
        else
          match verdict.binding with
          | .error e => .error e
          | .ok () =>
            match validateTransition targetStatusTransitions "training_target" target.status
                (args.patch.status.getD target.status) with
            | .error e => .error e
            | .ok () =>
              .ok (some (args.patch.apply target),
                { db with targets := db.targets.update args.targetId args.patch.apply })

end Sync
