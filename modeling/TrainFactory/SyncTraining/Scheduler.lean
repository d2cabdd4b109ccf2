import TrainFactory.Lib.StableSort
import TrainFactory.SyncTraining.TargetDatasets

/-!
# The training scheduler

`_schedule_next_training` of `level2_handler.py` picks the next target of a sync task and hands it
to `_launch_training_for_target`; `claim_training_target` of `ExternalSyncService` picks one by its
own order and reserves it. A launch that fails after its claim restores it.
-/

namespace SyncTraining

open Lib Sync

/-! ## Listing and picking -/

/-- `ORDER BY sort_order`: the rows of one sort order come as the database happens to read them. -/
structure SortOrder where
  list : List ExternalSyncTrainingTarget → List ExternalSyncTrainingTarget
  perm : ∀ rows, (list rows).Perm rows
  sorted : ∀ rows, (list rows).Pairwise fun t u => t.sortOrder ≤ u.sortOrder

def listTrainingTargetsRaw (order : SortOrder) (taskId : String) (db : Database) :
    List ExternalSyncTrainingTarget :=
  order.list (activeTargets db taskId)

def reachesThreshold (t : ExternalSyncTrainingTarget) : Bool :=
  0 < t.trainingThreshold && t.trainingThreshold ≤ t.pendingTrainingSamples

/-- `idle` or `ready`, with a threshold that is reached. -/
def isSchedulable (t : ExternalSyncTrainingTarget) : Bool :=
  t.status.isEligible true && reachesThreshold t

def nextTarget (targets : List ExternalSyncTrainingTarget) : Option ExternalSyncTrainingTarget :=
  if targets.any fun t => t.status.isBusy then none
  else targets.find? isSchedulable

/-! ## The claim order -/

/-- The autoincremented `id` of a target row, by its `target_id`. -/
structure TargetKeys (db : Database) where
  id : String → Int
  injective : Function.Injective id
  /-- An empty `target_id` is replaced by a `uuid4`. -/
  nonempty : ∀ t ∈ db.targets, t.targetId ≠ ""

/-- `ORDER BY priority, sort_order, id`. -/
def claimsBefore (id : String → Int) (t u : ExternalSyncTrainingTarget) : Prop :=
  t.priority < u.priority ∨ t.priority = u.priority ∧
    (t.sortOrder < u.sortOrder ∨ t.sortOrder = u.sortOrder ∧ id t.targetId ≤ id u.targetId)

instance (id : String → Int) : DecidableRel (claimsBefore id) := fun t u =>
  inferInstanceAs (Decidable (t.priority < u.priority ∨ t.priority = u.priority ∧
    (t.sortOrder < u.sortOrder ∨ t.sortOrder = u.sortOrder ∧ id t.targetId ≤ id u.targetId)))

def isCandidate (targetId : Option String) (requireThreshold : Bool)
    (t : ExternalSyncTrainingTarget) : Bool :=
  t.status.isEligible requireThreshold && (targetId.isNone || targetId = some t.targetId) &&
    (!requireThreshold || reachesThreshold t)

def reserve (t : ExternalSyncTrainingTarget) : ExternalSyncTrainingTarget :=
  { t with status := .training, pendingTrainingSamples := 0 }

def claimTrainingTarget (id : String → Int) (taskId : String) (targetId : Option String)
    (requireThreshold : Bool) (db : Database) : Option ExternalSyncTrainingTarget × Database :=
  match db.tasks.lookup taskId with
  | none => (none, db)
  | some _ =>
    let targets := (activeTargets db taskId).insertionSort (claimsBefore id)
    if targets.any fun t => t.status.isBusy then (none, db)
    else
      match targets.filter (isCandidate targetId requireThreshold) with
      | [] => (none, db)
      | selected :: _ =>
        (some { selected with status := .training },
          { db with targets := db.targets.update selected.targetId reserve })

/-! ## Launching -/

structure Call where
  order : SortOrder
  /-- `uuid.uuid4()`. -/
  trainingTaskId : String
  now : DateTime
  /-- The datasets of a target and their samples; `none` if the launch returns or raises before its
  claim, for want of a base model, of a dataset or of a valid path. -/
  prepare : ExternalSyncTrainingTarget → Option (List String × Int)
  /-- What raises behind the claim, and when the claim is restored. -/
  failure : ExternalSyncTrainingTarget → Option (String × DateTime)

def Call.claim (call : Call) (configId : String) (task : ExternalSyncTask)
    (target : ExternalSyncTrainingTarget) (datasets : List String × Int) : CreateTraining where
  now := call.now
  taskId := configId
  trainingTaskId := call.trainingTaskId
  userId := task.userId
  inputDatasetIds := datasets.1
  totalSamples := datasets.2
  trainingRound := target.totalTrainings + 1
  targetId := some target.targetId
  requireThreshold := true

def launchFrom (call : Call) (configId : String) (target : ExternalSyncTrainingTarget)
    (db : Database) : Bool × Database :=
  match db.tasks.lookup configId with
  | none => (false, db)
  | some task =>
    match call.prepare target with
    | none => (false, db)
    | some datasets =>
      match createTrainingWithClaim (call.claim configId task target datasets) db with
      | .error _ => (false, db)
      | .ok (none, db') => (false, db')
      | .ok (some _, db') =>
        match call.failure target with
        | none => (true, db')
        | some (reason, now) =>
          (false, (failTrainingAndRestoreClaim now call.trainingTaskId reason db').commit db')

/-- What a scheduling call does: the target it launches, and whether the launch succeeds. -/
structure Scheduled where
  tried : Option ExternalSyncTrainingTarget
  started : Bool
  db : Database

def scheduleNextTraining (call : Call) (configId : String) (db : Database) : Scheduled :=
  match nextTarget (listTrainingTargetsRaw call.order configId db) with
  | none => { tried := none, started := false, db := db }
  | some target =>
    { tried := some target
      started := (launchFrom call configId target db).1
      db := (launchFrom call configId target db).2 }

/-- Scheduling calls, one after the other; `uuid4` returns no value twice. -/
structure Calls (db : Database) where
  call : Nat → Call
  injective : Function.Injective fun n => (call n).trainingTaskId
  fresh : ∀ n, ∀ t ∈ db.trainings, t.trainingTaskId ≠ (call n).trainingTaskId

def afterCalls (call : Nat → Call) (configId : String) (db : Database) : Nat → Database
  | 0 => db
  | n + 1 => (scheduleNextTraining (call n) configId (afterCalls call configId db n)).db

def scheduledAt (call : Nat → Call) (configId : String) (db : Database) (n : Nat) : Scheduled :=
  scheduleNextTraining (call n) configId (afterCalls call configId db n)

end SyncTraining
