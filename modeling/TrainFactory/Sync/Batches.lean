import TrainFactory.Sync.Entities

/-!
# Batch transactions

`create_batch`, `promote_batch_to_fetched`, `reset_completed_batches`, `reconcile_pending_records`
and `_invalidate_fetched_batches` of `ExternalSyncService`. Each is one transaction: it returns its
result with the committed database, or raises and leaves the database as it was.
-/

namespace Sync

open Lib

def BatchStatus.isUnconsumed : BatchStatus → Bool
  | .registered | .fetched | .generationQueued => true
  | .generationDone => false

/-- The statuses of a batch that a re-fetch of its window may duplicate: `FETCHED`, `REGISTERED`. -/
def BatchStatus.isReclaimable : BatchStatus → Bool
  | .fetched | .registered => true
  | _ => false

def pendingBatchTotals (db : Database) (taskId : String) : Int × Int :=
  let rows := db.batches.select fun b => b.taskId = taskId && b.status.isUnconsumed
  (rows.length, (rows.map ExternalSyncBatch.recordCount).sum)

def assertPendingBatchCapacity (settings : Settings) (db : Database) (taskId : String)
    (additionalBatches additionalRecords : Int) : Except SyncError Unit :=
  let totals := pendingBatchTotals db taskId
  if totals.1 + max additionalBatches 0 > settings.syncPendingMaxBatchesPerTask then
    .error (.valueError "External sync pending batch quota exceeded")
  else if totals.2 + max additionalRecords 0 > settings.syncPendingMaxRecordsPerTask then
    .error (.valueError "External sync pending record quota exceeded")
  else .ok ()

def ExternalSyncTask.setPending (count : Int) (t : ExternalSyncTask) : ExternalSyncTask :=
  { t with pendingRecordCount := count }

@[simp] theorem ExternalSyncTask.setPending_taskId (count : Int) (t : ExternalSyncTask) :
    (t.setPending count).taskId = t.taskId := rfl

@[simp] theorem ExternalSyncTask.setPending_setPending (count count' : Int)
    (t : ExternalSyncTask) : (t.setPending count').setPending count = t.setPending count := rfl

/-- Set `pending_record_count` to the records of the `FETCHED` batches, as every transaction does
that moves batches in bulk. -/
def recountPending (db : Database) (taskId : String) : Database :=
  { db with tasks := db.tasks.update taskId (·.setPending (db.fetchedRecords taskId)) }

/-- The rows `create_batch` compares a new file with: unconsumed batches of the same window. The
columns are compared with the exact times, so a time with a fraction has none. -/
def duplicateCandidates (db : Database) (taskId : String) (sinceTime untilTime : Option DateTime) :
    List ExternalSyncBatch :=
  db.batches.select fun b => b.taskId = taskId && b.status.isReclaimable &&
    b.sinceTime = sinceTime && b.untilTime = untilTime

def isDuplicate (fileSha256 : String → Option String) (recordCount : Int) (storagePath : String)
    (existing : ExternalSyncBatch) : Bool :=
  existing.storagePath = storagePath ||
    (existing.recordCount = recordCount && (fileSha256 existing.storagePath).isSome &&
      truthy (fileSha256 storagePath) &&
      fileSha256 existing.storagePath = fileSha256 storagePath)

/-- The arguments of `create_batch`, with the `uuid4` and the clock reading its row takes. -/
structure CreateBatch where
  uuid : String
  now : DateTime
  taskId : String
  userId : String
  recordCount : Int
  storagePath : String
  sinceTime : Option DateTime
  untilTime : Option DateTime := none
  initialStatus : BatchStatus := .fetched

/-- The row `create_batch` inserts, as it reads back. -/
def CreateBatch.row (args : CreateBatch) : ExternalSyncBatch where
  batchId := args.uuid
  taskId := args.taskId
  userId := args.userId
  recordCount := args.recordCount
  storagePath := args.storagePath
  sinceTime := args.sinceTime.map datetimeColumn
  untilTime := args.untilTime.map datetimeColumn
  fetchedAt := datetimeColumn args.now
  status := args.initialStatus

/-- `create_batch`: the batch and whether it is new. `fileSha256` is `_file_sha256` on the files as
they are during the call. -/
def createBatch (settings : Settings) (fileSha256 : String → Option String) (args : CreateBatch)
    (db : Database) : Outcome (ExternalSyncBatch × Bool) :=
  match db.tasks.lookup args.taskId with
  | none => .error (.valueError "External sync task ownership mismatch")
  | some task =>
    if task.userId ≠ args.userId then
      .error (.valueError "External sync task ownership mismatch")
    else if task.status.isDeleting then
      .error (.valueError "Sync task deletion is in progress")
    else
      match (duplicateCandidates db args.taskId args.sinceTime args.untilTime).find?
          (isDuplicate fileSha256 args.recordCount args.storagePath) with
      | some existing => .ok ((existing, false), db)
      | none =>
        if ¬ args.initialStatus.isReclaimable then
          .error (.valueError ("Invalid initial batch status: " ++
            StatusValue.value args.initialStatus ++ ". Allowed: ('registered', 'fetched')"))
        else
          match assertPendingBatchCapacity settings db args.taskId 1 args.recordCount with
          | .error e => .error e
          | .ok () =>
            match db.batches.insert args.row with
            | none => .error .integrityError
            | some batches =>
              .ok ((args.row, true),
                { db with batches := batches, uuids := args.uuid :: db.uuids })

def promoteBatchToFetched (taskId batchId userId : String) (db : Database) : Outcome Bool :=
  match (db.tasks.lookup taskId).filter fun t => t.userId = userId,
    (db.batches.lookup batchId).filter fun b => b.taskId = taskId ∧ b.userId = userId with
  | some _, some batch =>
    if batch.status = .fetched then .ok (false, db)
    else if batch.status ≠ .registered then
      .error (.valueError "Sync batch is no longer available")
    else
      let recordCount := max batch.recordCount 0
      .ok (true, { db with
        batches := db.batches.update batchId fun b => { b with status := .fetched }
        tasks := db.tasks.update taskId fun t =>
          { t with
            pendingRecordCount := t.pendingRecordCount + recordCount
            totalRecordCount := t.totalRecordCount + recordCount } })
  | _, _ => .error (.valueError "Sync batch is no longer available")

/-- `reset_completed_batches`: the number of batches reset. -/
def resetCompletedBatches (settings : Settings) (taskId : String) (db : Database) : Outcome Nat :=
  match db.tasks.lookup taskId with
  | none => .ok (0, db)
  | some _ =>
    let batches := db.batches.select fun b => b.taskId = taskId && b.status = .generationDone
    if batches = [] then .ok (0, db)
    else
      let totalRecords := (batches.map fun b => max b.recordCount 0).sum
      match assertPendingBatchCapacity settings db taskId batches.length totalRecords with
      | .error e => .error e
      | .ok () =>
        .ok (batches.length, recountPending { db with
          batches := db.batches.updateWhere
            (fun b => b.taskId = taskId && b.status = .generationDone)
            fun b => { b with status := .fetched, generationTaskId := none } } taskId)

/-- `reconcile_pending_records`: the number of records backfilled. -/
def reconcilePendingRecords (taskId : String) (db : Database) : Outcome Int :=
  match db.tasks.lookup taskId with
  | none => .ok (0, db)
  | some task =>
    let expectedPending := db.fetchedRecords taskId
    if expectedPending ≤ task.pendingRecordCount then .ok (0, db)
    else
      let backfill := expectedPending - task.pendingRecordCount
      .ok (backfill, { db with tasks := db.tasks.update taskId fun t =>
        { t with
          pendingRecordCount := expectedPending
          totalRecordCount := t.totalRecordCount + backfill } })

/-- `_invalidate_fetched_batches`: delete the unconsumed batches of a task and take their records
off the pending counter. Returns the deleted rows. -/
def invalidateFetchedBatches (taskId : String) (db : Database) :
    List ExternalSyncBatch × Database :=
  let unconsumed := db.batches.select fun b => b.taskId = taskId && b.status.isReclaimable
  if unconsumed = [] then ([], db)
  else
    let totalRecords := (unconsumed.map ExternalSyncBatch.recordCount).sum
    (unconsumed, { db with
      batches := db.batches.deleteWhere fun b => b.taskId = taskId && b.status.isReclaimable
      tasks := db.tasks.update taskId fun t =>
        t.setPending (max (t.pendingRecordCount - totalRecords) 0) })

/-- The batches that a generation can claim: `FETCHED`, and owned by none. -/
def claimableBatches (db : Database) (taskId : String) : List ExternalSyncBatch :=
  db.batches.select fun b => b.taskId = taskId && b.status = .fetched && b.generationTaskId = none

/-- The Level-1 test of `_check_thresholds`. -/
def levelOneReached (task : ExternalSyncTask) : Bool :=
  task.generationThreshold > 0 && task.pendingRecordCount ≥ task.generationThreshold

end Sync
