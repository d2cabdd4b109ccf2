import TrainFactory.Sync.Items
import TrainFactory.Sync.Operations

/-!
# Sync cycles

`run_once` of `sync_worker.py` from the fetch on: the records of a page that are in the window and
not in the boundary are written to a batch file, `create_batch` adds its row or finds the row it
duplicates, and the cursor and the boundary of the task move. File, row and cursor are written one
after the other, so a cycle that is cut off leaves what it has written so far.
-/

namespace Sync

open Lib

/-- The database, and the batch files by path, each as the documents it holds. -/
structure World where
  db : Database
  files : String → Option (List Json)

/-- Where a cycle is cut off: after the file is written, after `create_batch`, after the removal of
a duplicate file, or after the promotion. -/
inductive AbortPoint where
  | saved | created | removed | promoted
deriving DecidableEq

/-- What a cycle meets: the response to the fetch, the clock, what the storage answers, the names its
`uuid4` calls give to file and row, whether the pre-index makes the batch ready, and where the cycle
is cut off, if it is. -/
structure CycleInput where
  response : Except SyncError Json
  now : DateTime
  storage : Except SyncError Unit := .ok ()
  batchFile : String
  batchId : String
  readyForGeneration : Bool := true
  verdict : DependencyVerdict := {}
  abort : Option AbortPoint := none

/-- What a cycle that found new records writes. -/
structure CyclePlan where
  items : List Json
  sinceTime : Option DateTime
  untilTime : Option DateTime
  boundaryIds : List String

/-- How a cycle ends. `recorded` is a cycle that got a batch from `create_batch`; `advanced` tells
whether it moved the cursor. -/
inductive CycleOutcome where
  | raised (error : SyncError)
  | fetchFailed (error : SyncError)
  | idle
  | cutOff
  | recorded (plan : CyclePlan) (batch : ExternalSyncBatch) (isNew advanced : Bool)

/-- The cycle got a batch from `create_batch`. -/
def CycleOutcome.isRecorded : CycleOutcome → Bool
  | .recorded .. => true
  | _ => false

/-! ## Planning -/

variable (py : Stdlib)

/-- `since`: the query starts `boundary_rollback_seconds` before the cursor. -/
def ExternalSyncTask.since (config : ExternalSyncTask) : Except SyncError (Option DateTime) :=
  match config.lastSyncAt with
  | none => .ok none
  | some cursor =>
    match rollBack cursor config.boundaryRollbackSeconds with
    | .error e => .error e
    | .ok since => .ok (some since)

/-- The records of a page that the boundary does not match and that are in the window. -/
def newItems (config : ExternalSyncTask) (since : Option DateTime) (items : List Json) :
    List Json :=
  let items := items.filter fun item => !itemMatchesBoundary py item config.lastSyncBoundaryIds
  match since with
  | none => items
  | some since => items.filter fun item => itemIsAfter py item since

/-- `until_time`: the latest time of the new records, but not before the cursor. -/
def untilTimeOf (config : ExternalSyncTask) (items : List Json) : Option DateTime :=
  let fetchedMaxTime := getMaxTime py items none
  match config.lastSyncAt with
  | none => fetchedMaxTime
  | some cursor => if fetchedMaxTime.all fun t => t < cursor then some cursor else fetchedMaxTime

/-- The part of `run_once` between the validated page and the batch file; `none` if there is nothing
new. -/
def planCycle (settings : Settings) (config : ExternalSyncTask) (since : Option DateTime)
    (validatedItems : List Json) : Except SyncError (Option CyclePlan) :=
  let items := newItems py config since validatedItems
  if items.isEmpty then .ok none
  else
    let untilTime := untilTimeOf py config items
    match mergeBoundaryIds py settings config.lastSyncBoundaryIds validatedItems config.lastSyncAt
        untilTime config.boundaryRollbackSeconds with
    | .error e => .error e
    | .ok boundaryIds =>
      .ok (some { items := items, sinceTime := since, untilTime := untilTime
                  boundaryIds := boundaryIds })

def CyclePlan.documents (plan : CyclePlan) : List Json := plan.items.map (batchDocument py)

def saveBatch (settings : Settings) (input : CycleInput) (plan : CyclePlan)
    (files : String → Option (List Json)) : Except SyncError (String → Option (List Json)) :=
  if settings.syncPendingMaxRecordsPerTask < plan.items.length then
    .error (.resourceLimit "External sync pending record quota exceeded")
  else if plan.items.any fun item =>
      settings.syncMaxRecordBytes < (serializeBatchItem py item).utf8ByteSize then
    .error recordTooLong
  else
    match input.storage with
    | .error e => .error e
    | .ok () =>
      -- `open(batch_file, "x")`
      if (files input.batchFile).isSome then .error (.osError "File exists")
      else .ok (Function.update files input.batchFile (some (plan.documents py)))

/-! ## Recording -/

variable (env : Env)

def writePosition (input : CycleInput) (taskId : String) (patch : TaskPatch) (db : Database) :
    Except SyncError Database :=
  (updateTask env.legacyTrainingTargetId input.verdict { taskId := taskId, patch := patch } db).map
    Prod.snd

/-- The last `update_task` of a cycle: the cursor and the boundary move. -/
def advancePosition (input : CycleInput) (plan : CyclePlan) : TaskPatch where
  lastSyncAt := some (some (plan.untilTime.getD input.now))
  lastSyncBoundaryIds := some plan.boundaryIds
  status := some .idle

def promoteBatch (input : CycleInput) (config : ExternalSyncTask) (batch : ExternalSyncBatch)
    (db : Database) : Except SyncError Database :=
  if batch.status ≠ .registered ∨ batch.batchId = "" ∨ batch.storagePath = "" ∨
      ¬ input.readyForGeneration then .ok db
  else (promoteBatchToFetched config.taskId batch.batchId config.userId db).map Prod.snd

def finishNew (input : CycleInput) (config : ExternalSyncTask) (plan : CyclePlan)
    (batch : ExternalSyncBatch) (w : World) : CycleOutcome × World :=
  match promoteBatch input config batch w.db with
  | .error _ => (.recorded plan batch true false, w)
  | .ok db =>
    if input.abort = some .promoted then (.recorded plan batch true false, { w with db := db })
    else
      match writePosition env input config.taskId (advancePosition input plan) db with
      | .error _ => (.recorded plan batch true false, { w with db := db })
      | .ok db => (.recorded plan batch true true, { w with db := db })

def removeDuplicate (input : CycleInput) (batch : ExternalSyncBatch)
    (files : String → Option (List Json)) : String → Option (List Json) :=
  if input.batchFile ≠ "" ∧ batch.storagePath ≠ "" ∧ input.batchFile ≠ batch.storagePath then
    Function.update files input.batchFile none
  else files

/-- The end of a cycle with a duplicate: move the position, then promote the batch or backfill the
pending counter. What the last step raises changes nothing any more. -/
def finishDuplicate (input : CycleInput) (config : ExternalSyncTask) (plan : CyclePlan)
    (batch : ExternalSyncBatch) (w : World) : CycleOutcome × World :=
  let w := { w with files := removeDuplicate input batch w.files }
  if input.abort = some .removed then (.recorded plan batch false false, w)
  else
    match writePosition env input config.taskId (advancePosition input plan) w.db with
    | .error _ => (.recorded plan batch false false, w)
    | .ok db =>
      let db :=
        if batch.status = .registered then (promoteBatch input config batch db).toOption.getD db
        else (reconcilePendingRecords config.taskId db).commit db
      (.recorded plan batch false true, { w with db := db })

def CyclePlan.createBatch (plan : CyclePlan) (input : CycleInput) (config : ExternalSyncTask) :
    CreateBatch where
  uuid := input.batchId
  now := input.now
  taskId := config.taskId
  userId := config.userId
  recordCount := plan.items.length
  storagePath := input.batchFile
  sinceTime := plan.sinceTime
  untilTime := plan.untilTime
  initialStatus := .registered

def fileSha256 (files : String → Option (List Json)) (path : String) : Option String :=
  (files path).map (documentsSha256 py)

/-- The part of `run_once` that writes the batch file, its row and the position. -/
def recordBatch (input : CycleInput) (config : ExternalSyncTask) (plan : CyclePlan) (w : World) :
    CycleOutcome × World :=
  match saveBatch py env.settings input plan w.files with
  | .error e => (.raised e, w)
  | .ok files =>
    if input.abort = some .saved then (.cutOff, { w with files := files })
    else
      match Sync.createBatch env.settings (fileSha256 py files) (plan.createBatch input config)
          w.db with
      | .error e => (.raised e, { w with files := Function.update files input.batchFile none })
      | .ok ((batch, isNew), db) =>
        let w := { db := db, files := files }
        if input.abort = some .created then (.recorded plan batch isNew false, w)
        else if isNew then finishNew env input config plan batch w
        else finishDuplicate env input config plan batch w

/-- One cycle of `run_once`, from the fetch on, of the task as the worker reads it. -/
def runCycle (taskId : String) (input : CycleInput) (w : World) : CycleOutcome × World :=
  match w.db.tasks.lookup taskId with
  | none => (.raised (.valueError "Sync task not found"), w)
  | some config =>
    match config.since with
    | .error e => (.raised e, w)
    | .ok since =>
      match writePosition env input taskId { status := some .syncing, errorMessage := some none }
          w.db with
      | .error e => (.raised e, w)
      | .ok db =>
        let w := { w with db := db }
        match input.response.bind (validateAndDeduplicateItems py env.settings input.now) with
        | .error e => (.fetchFailed e,
            { w with db := (writePosition env input taskId
                { status := some .error
                  errorMessage := some (some ("Fetch or validation failed: " ++ e.message)) }
                db).toOption.getD db })
        | .ok items =>
          match planCycle py env.settings config since items with
          | .error e => (.raised e, w)
          | .ok none => (.idle,
              { w with db := (writePosition env input taskId { status := some .idle }
                  db).toOption.getD db })
          | .ok (some plan) => recordBatch py env input config plan w

/-! ## Runs -/

/-- A run of a task: its cycles, and between them any other transaction of the service. -/
inductive CycleStep where
  | cycle (input : CycleInput)
  | service (op : Op)

def World.step (taskId : String) (w : World) : CycleStep → World
  | .cycle input => (runCycle py env taskId input w).2
  | .service op => { w with db := op.apply env w.db }

def Op.keepsPosition : Op → Prop
  | .updateTask _ args => args.patch.lastSyncAt = none ∧ args.patch.lastSyncBoundaryIds = none
  | _ => True

def CycleOutcome.savedItems : CycleOutcome → List Json
  | .recorded plan _ _ _ => plan.items
  | _ => []

def World.saves (taskId : String) (w : World) : CycleStep → List Json
  | .cycle input => (runCycle py env taskId input w).1.savedItems
  | .service _ => []

/-- The cycle ran to its end: nothing was new, or a batch was recorded and the cursor moved. -/
def CycleOutcome.isComplete : CycleOutcome → Bool
  | .idle => true
  | .recorded _ _ _ advanced => advanced
  | _ => false

def CycleOutcome.isQuiet : CycleOutcome → Bool
  | .raised _ | .fetchFailed _ | .cutOff => true
  | _ => false

def CycleOutcome.isInterrupted : CycleOutcome → Bool
  | .cutOff => true
  | .recorded _ _ _ advanced => !advanced
  | _ => false

/-! ## One record -/

/-- `json.dumps` of a string without characters to escape. -/
def quoted : Json → String
  | .str s => "\"" ++ s ++ "\""
  | _ => ""

/-- The library functions on one record, without a session and a document. -/
def oneRecord : Stdlib where
  repr _ := ""
  dumps
    | .obj [("content", text), ("metadata", .obj metadata)] =>
      "\x7b\"content\": " ++ quoted text ++ ", \"metadata\": \x7b" ++
        ", ".intercalate (metadata.map fun (k, v) => quoted (.str k) ++ ": " ++ quoted v) ++
        "\x7d\x7d"
    | _ => ""
  dumpsAscii := quoted
  dumpsCanonical
    | .obj [("business_keys", .arr keys)] =>
      "\x7b\"business_keys\":[" ++ ",".intercalate (keys.map quoted) ++ "]\x7d"
    | .obj [("external_id", externalId), ("session_id", sessionId), ("doc_id", docId)] =>
      "\x7b\"doc_id\":" ++ quoted docId ++ ",\"external_id\":" ++ quoted externalId ++
        ",\"session_id\":" ++ quoted sessionId ++ "\x7d"
    | _ => ""
  sha256 text :=
    if text = "\x7b\"business_keys\":[\"a1\",\"\",\"\"]\x7d" then
      "eaa376740cd96148bbfb03b6ba282109eb5f3367200d28861645d8ac01aa3d38"
    else "6ec7ba145c4e5df300994014c0619b8967b5e3d7660b567dec6b3e395d966efd"
  sha256_isHashedKey text := by split <;> decide
  fromIsoFormat text :=
    if text = "2024-01-01T00:00:00+00:00" then some 63839664000000000 else none

def helloRecord : Json :=
  .obj [("id", .str "a1"), ("text", .str "hello"), ("created_at", .str "2024-01-01T00:00:00Z")]

def newTask : ExternalSyncTask where
  taskId := "task"
  userId := "user"

def newWorld : World where
  db := Database.ofTask newTask
  files _ := none

def fetchHello (batchFile batchId : String) : CycleStep :=
  .cycle { response := .ok (.arr [helloRecord]), now := 63839664001000000
           batchFile := batchFile, batchId := batchId }

end Sync
