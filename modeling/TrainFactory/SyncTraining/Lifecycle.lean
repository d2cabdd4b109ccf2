import TrainFactory.Sync.Trainings
import TrainFactory.Training.Service

/-!
# The deletion of training tasks

The row of a training task and the row that tracks its claim are in two subsystems. `delete_task` of
the training routes checks the training task only; `TrainingTaskService.delete_task` then deletes
its row in one transaction and the tracking row in another, whose errors are logged.
-/

namespace SyncTraining

open Lib Sync Training

/-- Both subsystems, and the delete requests on their way. -/
structure State where
  training : Tasks
  sync : Database
  /-- The tasks whose delete request has passed its checks. -/
  deleting : List String := []
  /-- The tasks whose row a delete request has deleted, and not yet the tracking row. -/
  deleted : List String := []
  /-- The history: the trainings whose claim was taken, and neither consumed nor restored. -/
  openClaims : List String := []

/-- A step of one of the subsystems. -/
inductive Action where
  | createTrainingWithClaim (args : CreateTraining)
  | completeTrainingClaim (now : DateTime) (trainingTaskId : String)
  | failTrainingAndRestoreClaim (now : DateTime) (trainingTaskId reason : String)
  | createTask (task : TrainingTask)
  | updateTaskStatus (args : UpdateStatus) (references : References) (now : Nat)
  | stopIfActive (taskId : String) (now : Nat)
  | completeTask (args : CompleteTask) (now : Nat)
  /-- The checks of the route; `verdict` is that of the owner, the deletion guard and the
  dependencies. -/
  | deleteRoute (taskId : String) (verdict : Bool)
  | deleteTask (taskId : String)
  /-- The end of `delete_task`; it may raise. -/
  | deleteTrainingTracking (taskId : String) (raises : Bool)

def isTracked (db : Database) (trainingTaskId : String) : Bool :=
  (db.trainings.lookup trainingTaskId).isSome

def deleteTrainingTracking (trainingTaskId : String) (db : Database) : Database :=
  { db with trainings := db.trainings.deleteWhere fun t => Keyed.key t = trainingTaskId }

def isDeletable (task : TrainingTask) : Bool :=
  task.status ∉ lockingStatuses && hasNoProcess task

def committed (tasks : Tasks) : Training.Outcome → Tasks
  | .ok (_, tasks) => tasks
  | .error _ => tasks

def step (s : State) : Action → State
  | .createTrainingWithClaim args =>
    let db := (createTrainingWithClaim args s.sync).commit s.sync
    { s with
      sync := db
      openClaims :=
        if !isTracked s.sync args.trainingTaskId && isTracked db args.trainingTaskId then
          args.trainingTaskId :: s.openClaims
        else s.openClaims }
  | .completeTrainingClaim now trainingTaskId =>
    match completeTrainingClaim now trainingTaskId s.sync with
    | .ok (r, db) =>
      { s with
        sync := db
        openClaims :=
          if r.completed then s.openClaims.filter (· ≠ trainingTaskId) else s.openClaims }
    | .error _ => s
  | .failTrainingAndRestoreClaim now trainingTaskId reason =>
    match failTrainingAndRestoreClaim now trainingTaskId reason s.sync with
    | .ok (r, db) =>
      { s with
        sync := db
        openClaims :=
          if r.recovered then s.openClaims.filter (· ≠ trainingTaskId) else s.openClaims }
    | .error _ => s
  | .createTask task =>
    { s with training := (s.training.insert { task with status := .pending }).getD s.training }
  | .updateTaskStatus args references now =>
    { s with training := committed s.training (updateTaskStatus s.training args references now) }
  | .stopIfActive taskId now =>
    { s with training := committed s.training (stopIfActive s.training taskId now) }
  | .completeTask args now =>
    { s with training := committed s.training (completeTask s.training args now) }
  | .deleteRoute taskId verdict =>
    if (s.training.lookup taskId).any isDeletable && verdict then
      { s with deleting := taskId :: s.deleting }
    else s
  | .deleteTask taskId =>
    if taskId ∈ s.deleting then
      if (s.training.lookup taskId).isSome then
        { s with
          training := s.training.deleteWhere fun t => Keyed.key t = taskId
          deleting := s.deleting.erase taskId
          deleted := taskId :: s.deleted }
      else { s with deleting := s.deleting.erase taskId }
    else s
  | .deleteTrainingTracking taskId raises =>
    if taskId ∈ s.deleted then
      { s with
        sync := if raises then s.sync else deleteTrainingTracking taskId s.sync
        deleted := s.deleted.erase taskId }
    else s

end SyncTraining
