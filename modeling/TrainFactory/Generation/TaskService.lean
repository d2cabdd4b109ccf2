import TrainFactory.Generation.Entities

/-!
# The lifecycle of a generation task

The transactions of `GenerationTaskService` that move a task between its statuses and hand out the
token of an attempt: the claim of a pending task, the recovery of an orphan, the restart, and
`update_status`. Each is one transaction on the row of the task.
-/

namespace Generation

open Lib
open Dataset (DatasetRow DatasetStatus)

/-- What the transactions depend on besides the rows. -/
structure Host extends Dataset.Host where
  /-- `build_dataset_lineage_edge_key`: a digest of its arguments. -/
  lineageEdgeKey : Option String → String → String → String

/-- A result of a transaction and the database after it; a transaction that raises is rolled back. -/
abbrev Outcome (α : Type) := Except GenerationError (α × Database)

def Outcome.commit {α : Type} (o : Outcome α) (db : Database) : Database :=
  match o with
  | .ok (_, db') => db'
  | .error _ => db

@[simp] theorem Outcome.commit_ok {α : Type} (a : α) (db db' : Database) :
    Outcome.commit (.ok (a, db') : Outcome α) db = db' := rfl

@[simp] theorem Outcome.commit_error {α : Type} (e : GenerationError) (db : Database) :
    Outcome.commit (.error e : Outcome α) db = db := rfl

def keepId (values : GenerationTask → GenerationTask) (task : GenerationTask) : GenerationTask :=
  { values task with taskId := task.taskId }

theorem key_keepId (values : GenerationTask → GenerationTask) (task : GenerationTask) :
    Keyed.key (keepId values task) = Keyed.key task := rfl

def taskWhere (db : Database) (taskId : String) (conditions : GenerationTask → Bool) :
    Option GenerationTask :=
  (db.tasks.lookup taskId).filter conditions

/-- `UPDATE .. WHERE task_id = .. AND ..`, and whether it changed a row. -/
def updateIf (db : Database) (taskId : String) (conditions : GenerationTask → Bool)
    (values : GenerationTask → GenerationTask) : Bool × Database :=
  if (taskWhere db taskId conditions).isSome then
    (true, { db with tasks := db.tasks.update taskId (keepId values) (key_keepId values) })
  else (false, db)

/-- The condition on `run_token`, if one is given; `some none` is `IS NULL`. -/
def hasToken (expectedRunToken : Option (Option String)) (task : GenerationTask) : Bool :=
  match expectedRunToken with
  | none => true
  | some runToken => task.runToken = runToken

def GenerationTask.reset (task : GenerationTask) (outputPath : Option String) : GenerationTask :=
  { task with
    status := .pending
    progress := 0
    totalDocs := 0
    processedDocs := 0
    outputSampleCount := 0
    outputPath := outputPath
    outputDatasetId := none
    filterStats := none
    qaOutputPath := none
    qaDatasetId := none
    qaFilteredPath := none
    qaFilteredDatasetId := none
    deepEvalPath := none
    deepEvalDatasetId := none
    errorMessage := none
    startedAt := none
    completedAt := none }

def isConsumable (db : Database) (collectionName : String) (userId : Option String) : Bool :=
  (db.collections.lookup collectionName).any fun c => c.status = .active && c.userId = userId

def collectionLocked (db : Database) (task : GenerationTask) : Bool :=
  match task.milvusCollection with
  | none => true
  | some name => name = "" || isConsumable db name task.userId

/-! ## Claims -/

/-- `claim_running`. `available` is the answer of the locks on the runtime dependencies;
`legacyRunToken` is the `uuid4` for a row that has no token. -/
def claimRunning (available : Bool) (taskId : String) (expectedRunToken : Option (Option String))
    (legacyRunToken : String) (now : Nat) (db : Database) : Outcome (Option String) :=
  let conditions := fun t : GenerationTask => t.status = .pending && hasToken expectedRunToken t
  if (taskWhere db taskId conditions).isNone ∨ ¬ available then .ok (none, db)
  else
    let (changed, db') := updateIf db taskId conditions fun t =>
      { t with
        status := .running
        runToken := some (t.runToken.getD legacyRunToken)
        startedAt := some now }
    if changed then .ok ((db'.tasks.lookup taskId).bind GenerationTask.runToken, db')
    else .ok (none, db)

def recoverableStatuses : List GenerationStatus :=
  [.pending, .running, .stopping, .publishing, .restarting]

def restartRecoveryMarker : String := "Generation restart recovery owns checkpoint cleanup"

def GenerationTask.recovering (expectedStatus : GenerationStatus) (legacyRecoveryToken : String)
    (t : GenerationTask) : GenerationTask :=
  { t with
    status := .recovering
    runToken := some (t.runToken.getD legacyRecoveryToken)
    completedAt := none
    errorMessage :=
      if expectedStatus = .restarting then some restartRecoveryMarker else t.errorMessage }

def claimOrphanRecovery (taskId : String) (expectedStatus : GenerationStatus)
    (expectedRunToken : Option (Option String)) (legacyRecoveryToken : String) (db : Database) :
    Outcome (Option String) :=
  if expectedStatus ∉ recoverableStatuses then .error (.valueError "Invalid orphan status")
  else
    let (changed, db') := updateIf db taskId
      (fun t => t.status = expectedStatus && hasToken expectedRunToken t)
      (GenerationTask.recovering expectedStatus legacyRecoveryToken)
    if ¬ changed then .ok (none, db)
    else
      let recoveryToken := (db'.tasks.lookup taskId).bind GenerationTask.runToken
      .ok (if truthy recoveryToken then recoveryToken else none, db')

def finishOrphanRecovery (taskId expectedRunToken : String) (terminalStatus : GenerationStatus)
    (errorMessage : Option String) (now : Nat) (db : Database) : Outcome Bool :=
  if terminalStatus ≠ .failed ∧ terminalStatus ≠ .stopped then
    .error (.valueError "Orphan recovery must finish failed or stopped")
  else
    .ok (updateIf db taskId
      (fun t => t.status = .recovering && t.runToken = some expectedRunToken) fun t =>
      { t with status := terminalStatus, errorMessage := errorMessage, completedAt := some now })

/-! ## Restarts -/

def isLowerHex (c : Char) : Bool := ('0' ≤ c && c ≤ '9') || ('a' ≤ c && c ≤ 'f')

/-- The text is what `str(uuid.UUID(text))` prints. -/
def isCanonicalUuid (text : String) : Bool :=
  match (text.toList.splitOn '-') with
  | [a, b, c, d, e] =>
    [a, b, c, d, e].map List.length = [8, 4, 4, 4, 12] && [a, b, c, d, e].all (·.all isLowerHex)
  | _ => false

def GenerationTask.artifactDatasetIds (task : GenerationTask) : List String :=
  [task.outputDatasetId, task.qaDatasetId, task.qaFilteredDatasetId,
    task.deepEvalDatasetId].reduceOption.filter (· ≠ "")

def isProductOf (taskId : String) (d : DatasetRow) : Bool :=
  d.sourceTaskType = some "generation" && d.sourceTaskId = some taskId

def isFenced (d : DatasetRow) : Bool :=
  d.status = .staging || d.status = .deleting || d.deletionOwner ≠ none

def restartDatasets (db : Database) (task : GenerationTask) : List DatasetRow :=
  db.datasets.select fun d => isProductOf task.taskId d ||
    d.datasetId ∈ task.artifactDatasetIds ++ task.sourceDatasetId.toList.filter (· ≠ "")

def beginRestart (available : Bool) (taskId : String) (expectedRunToken : Option (Option String))
    (newRunToken : String) (requireSourceDataset : Bool) (db : Database) :
    Outcome (Option String) :=
  if ¬ isCanonicalUuid newRunToken then .ok (none, db)
  else
    let conditions := fun t : GenerationTask =>
      terminalStatuses.contains t.status && hasToken expectedRunToken t
    match taskWhere db taskId conditions with
    | none => .ok (none, db)
    | some task =>
      let lockedDatasets := restartDatasets db task
      let lockedIds := lockedDatasets.map DatasetRow.datasetId
      if ¬ available then .ok (none, db)
      else if task.runToken = some newRunToken then .ok (none, db)
      else if ¬ task.artifactDatasetIds.all (· ∈ lockedIds) then .ok (none, db)
      else if requireSourceDataset ∧ truthy task.sourceDatasetId ∧
          ¬ task.sourceDatasetId.any (· ∈ lockedIds) then .ok (none, db)
      else if lockedDatasets.any isFenced then .ok (none, db)
      else if ¬ collectionLocked db task then .ok (none, db)
      else
        .ok (some newRunToken, (updateIf db taskId conditions fun t =>
          { t with
            status := .restarting
            runToken := some newRunToken
            completedAt := none }).2)

def finishRestart (taskId expectedRunToken outputPath : String) (db : Database) : Outcome Bool :=
  if outputPath = "" then .ok (false, db)
  else
    .ok (updateIf db taskId
      (fun t => t.status = .restarting && t.runToken = some expectedRunToken)
      fun t => t.reset (some outputPath))

def failRestart (taskId expectedRunToken errorMessage : String) (now : Nat) (db : Database) :
    Outcome Bool :=
  .ok (updateIf db taskId
    (fun t => t.status = .restarting && t.runToken = some expectedRunToken) fun t =>
    { t with status := .failed, errorMessage := some errorMessage, completedAt := some now })

/-! ## Status -/

/-- The sources from which `update_status` moves to a status; `none` for an invalid one. -/
def allowedSources : GenerationStatus → Option (List GenerationStatus)
  | .pending => some [.completed, .failed, .stopped]
  | .running => some [.pending]
  | .stopping => some [.running]
  | .publishing => some [.running]
  | .recovering => some []
  | .completed => some [.publishing]
  | .failed => some [.pending, .running, .stopping, .publishing]
  | .stopped => some [.pending, .stopping, .recovering]
  | .deleting => some [.completed, .failed, .stopped]
  | .deletingCascade => some [.completed, .failed, .stopped]
  | .restarting => none

/-- The arguments of `update_status`, with the `uuid4` a task that is pending again gets. -/
structure UpdateStatus where
  taskId : String
  status : GenerationStatus
  errorMessage : Option String := none
  requireSourceDataset : Bool := false
  expectedRunToken : Option (Option String) := none
  newRunToken : String
  available : Bool := true
  now : Nat

def UpdateStatus.values (args : UpdateStatus) (t : GenerationTask) : GenerationTask :=
  { t with
    status := args.status
    startedAt := if args.status = .running then some args.now else t.startedAt
    completedAt :=
      if args.status = .running then none
      else if args.status ∈ terminalStatuses then some args.now
      else t.completedAt
    errorMessage :=
      if args.errorMessage ≠ none then args.errorMessage
      else if args.status = .completed then none
      else t.errorMessage }

/-- Whether a task may be pending again: none of its products is fenced, and what it consumes is
available. -/
def mayRestart (host : Host) (db : Database) (task : GenerationTask)
    (requireSourceDataset : Bool) : Bool :=
  db.datasets.select (fun d => isProductOf task.taskId d && isFenced d) = [] &&
    (host.lockDatasetsForConsumption db.datasets
      { datasetIds := task.sourceDatasetId.toList.filter (· ≠ "")
        storageRefs := []
        requireAllDatasetIds := requireSourceDataset
        requireAllStorageRefs := false }).toBool &&
    collectionLocked db task

def updateStatus (host : Host) (args : UpdateStatus) (db : Database) : Outcome Bool :=
  match allowedSources args.status with
  | none => .error (.valueError "Invalid status")
  | some sources =>
    let conditions := fun t : GenerationTask =>
      sources.contains t.status && hasToken args.expectedRunToken t
    let activation := taskWhere db args.taskId conditions
    if (args.status = .pending ∨ args.status = .running) ∧
        (activation.isNone ∨ ¬ args.available) then .ok (false, db)
    else if args.status = .pending then
      if activation.any fun task => mayRestart host db task args.requireSourceDataset then
        .ok (updateIf db args.taskId conditions fun t =>
          { t.reset none with runToken := some args.newRunToken })
      else .ok (false, db)
    else .ok (updateIf db args.taskId conditions args.values)

end Generation
