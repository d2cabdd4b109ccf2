import TrainFactory.Lib.Dict
import TrainFactory.Sync.Batches

/-!
# Retrying registered batches

`_promote_registered_batches` of `sync_worker.py`: each cycle takes a page of the registered batches
of a task, at an offset that it keeps between the cycles, and tries to promote them.
-/

namespace Sync

open Lib

/-- `list_batches`: the page and the number of all batches. The rows of the table are in the order of
their primary keys. -/
def listBatches (db : Database) (taskId : String) (status : Option BatchStatus)
    (limit offset : Nat) (oldestFirst : Bool) : List ExternalSyncBatch × Nat :=
  let rows := db.batches.select fun b => b.taskId = taskId && status.all fun s => b.status = s
  let oldest := rows.mergeSort fun b b' => b.fetchedAt ≤ b'.fetchedAt
  let ordered := if oldestFirst then oldest else oldest.reverse
  ((ordered.drop offset).take limit, rows.length)

def maxBatchesPerCycle : Nat := 50

structure RecoveryState where
  db : Database
  offsets : Dict String Nat

def promoteRegistered (config : ExternalSyncTask) (ready : Bool) (batch : ExternalSyncBatch)
    (db : Database) : Outcome Bool :=
  if batch.status ≠ .registered then .ok (batch.status = .fetched, db)
  else if batch.batchId = "" ∨ batch.storagePath = "" then .ok (false, db)
  else if !ready then .ok (false, db)
  else promoteBatchToFetched config.taskId batch.batchId config.userId db

/-- What the loop over a page has done: the batches that it has tried, the records that it promoted,
and the error that ended it. -/
structure Promotions where
  attempted : List ExternalSyncBatch := []
  promotedRecords : Int := 0
  raised : Option SyncError := none
  db : Database

def promoteBatches (config : ExternalSyncTask) (ready : ExternalSyncBatch → Bool) :
    List ExternalSyncBatch → Database → Promotions
  | [], db => { db := db }
  | batch :: batches, db =>
    match promoteRegistered config (ready batch) batch db with
    | .error e => { attempted := [batch], raised := some e, db := db }
    | .ok (promoted, db) =>
      let more := promoteBatches config ready batches db
      { more with
        attempted := batch :: more.attempted
        promotedRecords := (if promoted then batch.recordCount else 0) + more.promotedRecords }

def registeredPage (db : Database) (taskId : String) (offset : Nat) :
    Nat × List ExternalSyncBatch × Nat :=
  let page := listBatches db taskId (some .registered) maxBatchesPerCycle offset true
  if page.1.isEmpty ∧ 0 < page.2 ∧ 0 < offset then
    (0, listBatches db taskId (some .registered) maxBatchesPerCycle 0 true)
  else (offset, page)

def storeOffset (offsets : Dict String Nat) (taskId : String) (total nextOffset : Nat) :
    Dict String Nat :=
  if total = 0 ∨ total ≤ nextOffset then offsets.erase taskId
  else offsets.insert taskId nextOffset

def promoteRegisteredBatches (config : ExternalSyncTask) (ready : ExternalSyncBatch → Bool)
    (s : RecoveryState) : Promotions × RecoveryState :=
  let offset := (s.offsets.lookup config.taskId).getD 0
  let (start, page, total) := registeredPage s.db config.taskId offset
  let offsets := storeOffset s.offsets config.taskId total (start + page.length)
  let promotions := promoteBatches config ready page s.db
  (promotions, { db := promotions.db, offsets := offsets })

/-- The state after `t` cycles, where the pre-index answers as `ready` says for each cycle. -/
def recoveryAfter (config : ExternalSyncTask) (ready : Nat → ExternalSyncBatch → Bool)
    (s : RecoveryState) : Nat → RecoveryState
  | 0 => s
  | t + 1 => (promoteRegisteredBatches config (ready t) (recoveryAfter config ready s t)).2

def attemptedIn (config : ExternalSyncTask) (ready : Nat → ExternalSyncBatch → Bool)
    (s : RecoveryState) (t : Nat) : List ExternalSyncBatch :=
  (promoteRegisteredBatches config (ready t) (recoveryAfter config ready s t)).1.attempted

def registeredBatches (db : Database) (taskId : String) : List ExternalSyncBatch :=
  db.batches.select fun b => b.taskId = taskId && b.status = .registered

end Sync
