import TrainFactory.Lib.PosixPath
import TrainFactory.Sync.Operations

/-!
# The output directories of sync trainings

`_launch_training_for_target` names the directory of a training by the counter of its target, which
it reads before it claims the target. `on_training_completed` advances the counter, after the adapter
of the training has been loaded.
-/

namespace SyncTraining

open Lib Sync

def buildSyncTargetOutputDir (outputRoot configId targetId : String) (trainingRound : Int) :
    String :=
  let normalizedOutputRoot := replaceChar outputRoot '\\' "/"
  purePath (joinPath (joinPath (joinPath (joinPath normalizedOutputRoot "sync") configId) targetId)
    ("round_" ++ intText trainingRound))

/-- A call of `_launch_training_for_target` on its way: what it has read, and whether it holds the
claim. The identifiers are texts of UUIDs. -/
structure Launch where
  configId : PlainName
  targetId : PlainName
  /-- The `total_trainings` of the row that the call was given. -/
  totalTrainings : Int
  /-- The identifier of the new training task. -/
  taskId : String
  userId : String
  inputDatasetIds : List String
  totalSamples : Int
  requireThreshold : Bool
  claimed : Bool := false

def Launch.trainingRound (launch : Launch) : Int := launch.totalTrainings + 1

def Launch.claimArgs (launch : Launch) (now : DateTime) : CreateTraining where
  now := now
  taskId := launch.configId.name
  trainingTaskId := launch.taskId
  userId := launch.userId
  inputDatasetIds := launch.inputDatasetIds
  totalSamples := launch.totalSamples
  trainingRound := launch.trainingRound
  targetId := some launch.targetId.name
  requireThreshold := launch.requireThreshold

structure CreatedTask where
  launch : Launch
  outputDir : String

/-- The sync service, the launches on their way, and the training tasks created so far. -/
structure Launches where
  sync : Database
  launches : List Launch := []
  created : List CreatedTask := []

def Launches.launch (s : Launches) (taskId : String) : Option Launch :=
  s.launches.find? fun launch => launch.taskId = taskId

def Launches.claimedLaunch (s : Launches) (taskId : String) : Option Launch :=
  (s.launch taskId).filter Launch.claimed

def Launches.finish (s : Launches) (taskId : String) : Launches :=
  { s with launches := s.launches.filter fun launch => launch.taskId ≠ taskId }

/-- A step of a launch, a callback of a training, or a transaction of anything else. -/
inductive LaunchAction where
  /-- A launch is given the row of its target. -/
  | readTarget (launch : Launch)
  | claim (taskId : String) (now : DateTime)
  /-- `create_task`, after the checks on the parent task. -/
  | createTask (taskId : String)
  /-- The launch returns or raises; it restores a claim that it holds, unless that raises too. -/
  | abort (taskId reason : String) (now : DateTime) (restores : Bool)
  /-- `on_training_completed`: the adapter is loaded by the transactions `writes`, and the load
  `returns` or raises. -/
  | onTrainingCompleted (taskId : String) (now : DateTime) (verdict : DependencyVerdict)
      (writes : List Op) (returns : Bool)
  /-- `on_training_failed`, and the exit of a launch whose thread does not start. -/
  | onTrainingFailed (taskId reason : String) (now : DateTime)
  /-- Another transaction, such as those of a retry of the adapter load. -/
  | sync (op : Op)

/-- The counter of a target is advanced: `update_training_target` of the row read before. -/
def advanceCounter (verdict : DependencyVerdict) (targetId : String) (db : Database) : Database :=
  match db.targets.lookup targetId with
  | none => db
  | some target =>
    (updateTrainingTarget verdict
      { targetId := targetId
        patch := { status := some .idle, totalTrainings := some (target.totalTrainings + 1) } }
      db).commit db

/-- `on_training_completed`, up to the next launch. -/
def onTrainingCompleted (env : Env) (taskId : String) (now : DateTime)
    (verdict : DependencyVerdict) (writes : List Op) (returns : Bool) (db : Database) : Database :=
  match db.trainings.lookup taskId with
  | none => db
  | some training =>
    match completeTrainingClaim now taskId db with
    | .error _ => db
    | .ok (completion, db) =>
      if !completion.completed && !completion.alreadyCompleted then db
      else if completion.deletionPending then db
      else if !returns then db.run env writes
      else
        match training.targetId with
        | none => db.run env writes
        | some targetId =>
          if targetId = "" then db.run env writes
          else advanceCounter verdict targetId (db.run env writes)

variable (env : Env) (outputRoot : String)

def launchStep (s : Launches) : LaunchAction → Launches
  | .readTarget launch =>
    match s.sync.targets.lookup launch.targetId.name with
    | none => s
    | some target =>
      if target.taskId ≠ launch.configId.name then s
      else
        { s with
          launches := s.launches ++
            [{ launch with totalTrainings := target.totalTrainings, claimed := false }] }
  | .claim taskId now =>
    match s.launch taskId with
    | none => s
    | some launch =>
      match createTrainingWithClaim (launch.claimArgs now) s.sync with
      | .ok (some _, db) =>
        { s with
          sync := db
          launches := s.launches.map fun other =>
            if other.taskId = taskId then { other with claimed := true } else other }
      | .ok (none, _) => s.finish taskId
      | .error _ => s.finish taskId
  | .createTask taskId =>
    match s.claimedLaunch taskId with
    | none => s
    | some launch =>
      { s.finish taskId with
        created := s.created ++
          [{ launch := launch
             outputDir := buildSyncTargetOutputDir outputRoot launch.configId.name
               launch.targetId.name launch.trainingRound }] }
  | .abort taskId reason now restores =>
    match s.launch taskId with
    | none => s
    | some launch =>
      { s.finish taskId with
        sync :=
          if launch.claimed && restores then
            (failTrainingAndRestoreClaim now taskId reason s.sync).commit s.sync
          else s.sync }
  | .onTrainingCompleted taskId now verdict writes returns =>
    { s with sync := onTrainingCompleted env taskId now verdict writes returns s.sync }
  | .onTrainingFailed taskId reason now =>
    { s with sync := (failTrainingAndRestoreClaim now taskId reason s.sync).commit s.sync }
  | .sync op => { s with sync := op.apply env s.sync }

/-! ## One target -/

def Launches.ofTarget : Launches where
  sync :=
    { Database.ofTask generatingTask with
      targets := ⟨[{ targetId := "target", taskId := "task", targetName := "Target"
                     pendingTrainingSamples := 5 }], List.nodup_singleton _⟩ }

def launchOfTarget (taskId : String) : Launch where
  configId := ⟨"task", by decide⟩
  targetId := ⟨"target", by decide⟩
  totalTrainings := 0
  taskId := taskId
  userId := "user"
  inputDatasetIds := ["dataset"]
  totalSamples := 5
  requireThreshold := false

def launching (taskId : String) : List LaunchAction :=
  [.readTarget (launchOfTarget taskId), .claim taskId 1, .createTask taskId]

end SyncTraining
