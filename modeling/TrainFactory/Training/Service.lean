import TrainFactory.Training.Entities

/-!
# Updates of a training attempt

The conditional updates of `TrainingTaskService`: each is one transaction that reads the row of the
task and writes it only where the conditions of its `UPDATE` still hold.
-/

namespace Training

open Lib

/-- What a transaction raises. -/
inductive TrainingError where
  | valueError (message : String)
  /-- `Invalid status transition`, from the first status to the second. -/
  | invalidTransition (old new : TrainingStatus)
  /-- `ModelDeletionInProgressError`. -/
  | modelDeletionInProgress (message : String)
deriving DecidableEq

/-- What the locks on the models and datasets of a task say: all are available, the registry models
cannot be locked, or a model or dataset is unavailable. -/
inductive References where
  | available
  | lockRaises (message : String)
  | unavailable (message : String)
deriving DecidableEq

/-- What `_lock_registry_models_for_training` raises, if it is called. -/
def References.lockError (references : References) (locks : Bool) : Option TrainingError :=
  match references with
  | .lockRaises message => if locks then some (.modelDeletionInProgress message) else none
  | _ => none

def References.checkError (references : References) (locks : Bool) : Option TrainingError :=
  match references with
  | .unavailable message => if locks then some (.modelDeletionInProgress message) else none
  | _ => none

abbrev Tasks := Table TrainingTask

/-- A result of a transaction and the table after it. -/
abbrev Outcome := Except TrainingError (Bool × Tasks)

def keepId (values : TrainingTask → TrainingTask) (task : TrainingTask) : TrainingTask :=
  { values task with taskId := task.taskId }

theorem key_keepId (values : TrainingTask → TrainingTask) (task : TrainingTask) :
    Keyed.key (keepId values task) = Keyed.key task := rfl

/-- `UPDATE .. WHERE task_id = .. AND ..`, and whether it changed a row. -/
def updateIf (tasks : Tasks) (taskId : String) (conditions : TrainingTask → Bool)
    (values : TrainingTask → TrainingTask) : Bool × Tasks :=
  match tasks.lookup taskId with
  | some task =>
    if conditions task then (true, tasks.update taskId (keepId values) (key_keepId values))
    else (false, tasks)
  | none => (false, tasks)

def hasToken (runToken : Option String) (task : TrainingTask) : Bool :=
  match runToken with
  | none => true
  | some runToken => task.runToken = some runToken

/-- A condition on a column, if one is given. -/
def isExpected {α : Type} [DecidableEq α] (expected : Option α) (value : α) : Bool :=
  match expected with
  | none => true
  | some expected => value = expected

def hasNoProcess (task : TrainingTask) : Bool :=
  task.processPid = none && task.processStatus = none && task.processCreateTime = none

def given : Option String → Bool
  | none => false
  | some s => s ≠ ""

/-! ## Status -/

structure UpdateStatus where
  taskId : String
  status : TrainingStatus
  errorMessage : Option String
  runToken : Option String
  expectedProcessPid : Option (Option Int)
  expectedProcessCreateTime : Option (Option Rat)

def UpdateStatus.identityConditions (args : UpdateStatus) (task : TrainingTask) : Bool :=
  isExpected args.expectedProcessPid task.processPid &&
    isExpected args.expectedProcessCreateTime task.processCreateTime

def lockingStatuses : List TrainingStatus := [.pending, .preparing, .running, .evaluating]

def terminalStatuses : List TrainingStatus := [.succeeded, .failed, .stopped, .cancelled]

def updateTaskStatus (tasks : Tasks) (args : UpdateStatus) (references : References) (now : Nat) :
    Outcome :=
  let locks := lockingStatuses.contains args.status
  match tasks.lookup args.taskId with
  | none => .ok (false, tasks)
  | some task =>
    if ¬ hasToken args.runToken task then .ok (false, tasks)
    else
      match references.lockError locks with
      | some e => .error e
      | none =>
        if ¬ args.identityConditions task then .ok (false, tasks)
        else
          match references.checkError locks with
          | some e => .error e
          | none =>
            let oldStatus := task.status
            if args.status ≠ oldStatus ∧ args.status ∉ validTransitions oldStatus then
              .error (.invalidTransition oldStatus args.status)
            else
              .ok (updateIf tasks args.taskId
                (fun t => t.status = oldStatus && args.identityConditions t &&
                  hasToken args.runToken t)
                fun t => { t with
                  status := args.status
                  updatedAt := now
                  errorMessage := if given args.errorMessage then args.errorMessage
                    else t.errorMessage
                  startedAt := if args.status = .running ∧ t.startedAt = none then some now
                    else t.startedAt
                  completedAt := if args.status ∈ terminalStatuses then some now
                    else t.completedAt })

structure CompleteTask where
  taskId : String
  status : TrainingStatus
  finalModelPath : Option String
  finalMetrics : Json
  errorMessage : Option String
  runToken : Option String

def allowedSources (status : TrainingStatus) : List TrainingStatus :=
  [TrainingStatus.pending, .preparing, .running, .evaluating, .succeeded, .failed, .stopped,
    .cancelled].filter fun source => status ∈ validTransitions source

def completeTask (tasks : Tasks) (args : CompleteTask) (now : Nat) : Outcome :=
  if args.status ∉ terminalStatuses then
    .error (.valueError "Completion status must be one of: cancelled, failed, stopped, succeeded")
  else
    .ok (updateIf tasks args.taskId
      (fun t => t.status ∈ allowedSources args.status && hasToken args.runToken t)
      fun t => { t with
        status := args.status
        updatedAt := now
        completedAt := some now
        errorMessage := if given args.errorMessage then args.errorMessage
          else if args.status = .succeeded then none else t.errorMessage
        finalModelPath := if given args.finalModelPath then args.finalModelPath
          else t.finalModelPath
        finalMetrics := if args.finalMetrics.truthy then args.finalMetrics else t.finalMetrics })

def stopIfActive (tasks : Tasks) (taskId : String) (now : Nat) : Outcome :=
  .ok (updateIf tasks taskId (fun t => t.status ∈ [.pending, .preparing, .running, .evaluating])
    fun t => { t with
      status := .stopped
      processStatus := if hasNoProcess t then none else some "stopping"
      updatedAt := now
      completedAt := some now })

/-! ## Progress, metrics and configuration -/

def updateTaskProgress (tasks : Tasks) (taskId : String) (progress : Rat)
    (runToken : Option String) (now : Nat) : Outcome :=
  .ok (updateIf tasks taskId
    (fun t => runToken = none || hasToken runToken t &&
      t.status ∈ [.preparing, .running, .evaluating])
    fun t => { t with progress := min (max progress 0) 100, updatedAt := now })

def mergeObject (existing new : Json) (key : String) (value : Json) : Json :=
  match existing, new with
  | .obj a, .obj b => .obj ((key, value) :: b ++ a)
  | .obj a, _ => .obj ((key, value) :: a)
  | _, .obj b => .obj ((key, value) :: b)
  | _, _ => .obj [(key, value)]

def updateTaskMetrics (tasks : Tasks) (taskId : String) (metrics : Json) (updatedAt : String)
    (runToken : Option String) (now : Nat) : Outcome :=
  .ok (updateIf tasks taskId
    (fun t => runToken = none || hasToken runToken t &&
      t.status ∈ [.preparing, .running, .evaluating])
    fun t => { t with
      trainingParams := mergeObject t.trainingParams (.obj []) "_runtime_metrics"
        (mergeObject (t.trainingParams.getD "_runtime_metrics" .null) metrics "updated_at"
          (.str updatedAt))
      updatedAt := now })

structure ExecutionConfig where
  taskId : String
  modelPath : Option String
  trainDatasetPath : Option String
  trainingParams : Option Json
  sftCheckpointPath : Option String
  outputDir : Option String
  device : Option String
  runToken : Option String

def withoutRunToken : Json → Json
  | .obj kvs => .obj (kvs.filter fun kv => kv.1 ≠ "_run_token")
  | v => v

def ExecutionConfig.conditions (args : ExecutionConfig) (task : TrainingTask) : Bool :=
  args.runToken = none || hasToken args.runToken task && task.status ∈ [.preparing, .running]

def updateTaskExecutionConfig (tasks : Tasks) (args : ExecutionConfig) (references : References)
    (now : Nat) : Outcome :=
  let membershipChange := args.modelPath.isSome || args.trainingParams.isSome
  match tasks.lookup args.taskId with
  | none => .ok (false, tasks)
  | some task =>
    if ¬ args.conditions task then .ok (false, tasks)
    else
      match (references.lockError membershipChange).or
          (references.checkError membershipChange) with
      | some e => .error e
      | none =>
        .ok (updateIf tasks args.taskId args.conditions fun t => { t with
          updatedAt := now
          baseModelPath := args.modelPath.or t.baseModelPath
          trainDatasetPath := args.trainDatasetPath.or t.trainDatasetPath
          sftCheckpointPath := args.sftCheckpointPath.or t.sftCheckpointPath
          outputDir := args.outputDir.or t.outputDir
          device := args.device.or t.device
          trainingParams := (args.trainingParams.map withoutRunToken).getD t.trainingParams })

/-! ## Processes -/

/-- The conditions of `register_training_process`: the attempt has no process, or this one. -/
def registrationConditions (processPid : Int) (createTime : Rat) (runToken : String)
    (task : TrainingTask) : Bool :=
  hasToken (some runToken) task &&
    (hasNoProcess task || task.processPid = some processPid &&
      task.processCreateTime = some createTime && task.processStatus = some "running")

def registrationValues (processPid : Int) (createTime : Rat) (now : Nat) (task : TrainingTask) :
    TrainingTask :=
  { task with
    processPid := some processPid
    processCreateTime := some createTime
    processStatus := some "running"
    status := .running
    startedAt := task.startedAt.or (some now)
    updatedAt := now }

/-- `register_training_process`; a creation time that is not a finite number is `none`. -/
def registerTrainingProcess (tasks : Tasks) (taskId : String) (processPid : Int)
    (processCreateTime : Option Rat) (runToken : String) (now : Nat) : Outcome :=
  match processCreateTime with
  | none => .ok (false, tasks)
  | some createTime =>
    if runToken = "" ∨ processPid ≤ 0 ∨ createTime ≤ 0 then .ok (false, tasks)
    else
      let registerFrom := fun (previousStatus : TrainingStatus) => updateIf tasks taskId
        (fun t => registrationConditions processPid createTime runToken t &&
          t.status = previousStatus)
        (registrationValues processPid createTime now)
      match registerFrom .preparing with
      | (true, tasks) => .ok (true, tasks)
      | (false, _) => .ok (registerFrom .running)

/-- The arguments of `update_process_info`; a field is `none` where it is not given. -/
structure ProcessInfo where
  taskId : String
  processPid : Option (Option Int)
  processStatus : Option (Option String)
  processCreateTime : Option (Option Rat)
  runToken : Option String
  expectedProcessPid : Option (Option Int)
  expectedProcessCreateTime : Option (Option Rat)

def updateProcessInfo (tasks : Tasks) (args : ProcessInfo) (now : Nat) : Outcome :=
  .ok (updateIf tasks args.taskId
    (fun t => hasToken args.runToken t && isExpected args.expectedProcessPid t.processPid &&
      isExpected args.expectedProcessCreateTime t.processCreateTime)
    fun t => { t with
      updatedAt := now
      processPid := args.processPid.getD t.processPid
      processStatus := args.processStatus.getD t.processStatus
      processCreateTime := args.processCreateTime.getD t.processCreateTime })

/-! ## Attempts -/

def claimPreparing (tasks : Tasks) (taskId runToken : String) (references : References)
    (now : Nat) : Outcome :=
  if runToken = "" then .ok (false, tasks)
  else
    match tasks.lookup taskId with
    | none => .ok (false, tasks)
    | some _ =>
      match references with
      | .lockRaises message => .error (.modelDeletionInProgress message)
      | .unavailable _ => .ok (false, tasks)
      | .available =>
        .ok (updateIf tasks taskId
          (fun t => t.status = .pending && (t.runToken = some runToken || t.runToken = none))
          fun t => { t with
            status := .preparing
            runToken := some runToken
            updatedAt := now })

def resetForResume (tasks : Tasks) (taskId runToken : String) (references : References)
    (now : Nat) : Outcome :=
  if runToken = "" then .ok (false, tasks)
  else
    match tasks.lookup taskId with
    | none => .ok (false, tasks)
    | some _ =>
      match references with
      | .lockRaises message => .error (.modelDeletionInProgress message)
      | .unavailable _ => .ok (false, tasks)
      | .available =>
        .ok (updateIf tasks taskId
          (fun t => t.status ∈ [.failed, .stopped] && hasNoProcess t)
          fun t => { t with
            status := .pending
            errorMessage := none
            progress := 0
            processPid := none
            processStatus := none
            processCreateTime := none
            runToken := some runToken
            startedAt := none
            completedAt := none
            updatedAt := now })

/-! ## Runs -/

/-- A transaction on a training task. -/
inductive Call where
  | claimPreparing (taskId runToken : String) (references : References) (now : Nat)
  | registerTrainingProcess (taskId : String) (processPid : Int) (processCreateTime : Option Rat)
      (runToken : String) (now : Nat)
  | updateTaskStatus (args : UpdateStatus) (references : References) (now : Nat)
  | completeTask (args : CompleteTask) (now : Nat)
  | updateTaskProgress (taskId : String) (progress : Rat) (runToken : Option String) (now : Nat)
  | updateTaskMetrics (taskId : String) (metrics : Json) (updatedAt : String)
      (runToken : Option String) (now : Nat)
  | updateTaskExecutionConfig (args : ExecutionConfig) (references : References) (now : Nat)
  | updateProcessInfo (args : ProcessInfo) (now : Nat)
  | stopIfActive (taskId : String) (now : Nat)
  | resetForResume (taskId runToken : String) (references : References) (now : Nat)

def Call.outcome (tasks : Tasks) : Call → Outcome
  | .claimPreparing taskId runToken references now =>
    Training.claimPreparing tasks taskId runToken references now
  | .registerTrainingProcess taskId processPid processCreateTime runToken now =>
    Training.registerTrainingProcess tasks taskId processPid processCreateTime runToken now
  | .updateTaskStatus args references now => Training.updateTaskStatus tasks args references now
  | .completeTask args now => Training.completeTask tasks args now
  | .updateTaskProgress taskId progress runToken now =>
    Training.updateTaskProgress tasks taskId progress runToken now
  | .updateTaskMetrics taskId metrics updatedAt runToken now =>
    Training.updateTaskMetrics tasks taskId metrics updatedAt runToken now
  | .updateTaskExecutionConfig args references now =>
    Training.updateTaskExecutionConfig tasks args references now
  | .updateProcessInfo args now => Training.updateProcessInfo tasks args now
  | .stopIfActive taskId now => Training.stopIfActive tasks taskId now
  | .resetForResume taskId runToken references now =>
    Training.resetForResume tasks taskId runToken references now

/-- The table after a transaction: one that raises is rolled back. -/
def step (tasks : Tasks) (call : Call) : Tasks :=
  match call.outcome tasks with
  | .ok (_, tasks) => tasks
  | .error _ => tasks

/-- The transaction won: it changed its row. -/
def Call.wins (tasks : Tasks) (call : Call) : Bool :=
  match call.outcome tasks with
  | .ok (won, _) => won
  | .error _ => false

def Call.token : Call → Option String
  | .claimPreparing _ runToken _ _ => some runToken
  | .registerTrainingProcess _ _ _ runToken _ => some runToken
  | .updateTaskStatus args _ _ => args.runToken
  | .completeTask args _ => args.runToken
  | .updateTaskProgress _ _ runToken _ => runToken
  | .updateTaskMetrics _ _ _ runToken _ => runToken
  | .updateTaskExecutionConfig args _ _ => args.runToken
  | .updateProcessInfo args _ => args.runToken
  | .stopIfActive _ _ => none
  | .resetForResume _ runToken _ _ => some runToken

def Call.taskId : Call → String
  | .claimPreparing taskId _ _ _ => taskId
  | .registerTrainingProcess taskId _ _ _ _ => taskId
  | .updateTaskStatus args _ _ => args.taskId
  | .completeTask args _ => args.taskId
  | .updateTaskProgress taskId _ _ _ => taskId
  | .updateTaskMetrics taskId _ _ _ _ => taskId
  | .updateTaskExecutionConfig args _ _ => args.taskId
  | .updateProcessInfo args _ => args.taskId
  | .stopIfActive taskId _ => taskId
  | .resetForResume taskId _ _ _ => taskId

def Call.isReset : Call → Bool
  | .resetForResume .. => true
  | _ => false

end Training
