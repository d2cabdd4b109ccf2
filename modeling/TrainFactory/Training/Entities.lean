import TrainFactory.Lib.Json
import TrainFactory.Lib.Table

/-!
# Training tasks

The row `TrainingTaskDB` and the enumeration `TrainingStatus` with its transition table.
-/

namespace Training

open Lib

inductive TrainingStatus where
  | pending | preparing | running | evaluating | succeeded | failed | stopped | cancelled
deriving DecidableEq

/-- `VALID_TRANSITIONS`: the statuses a status may change to. -/
def validTransitions : TrainingStatus → List TrainingStatus
  | .pending => [.preparing, .running, .failed, .stopped, .cancelled]
  | .preparing => [.running, .failed, .stopped]
  | .running => [.evaluating, .succeeded, .failed, .stopped]
  | .evaluating => [.succeeded, .failed, .stopped]
  | .succeeded => []
  | .failed => [.pending]
  | .stopped => [.pending]
  | .cancelled => []

/-- A row of `training_tasks`. -/
structure TrainingTask where
  taskId : String
  userId : Option String
  status : TrainingStatus
  progress : Rat
  errorMessage : Option String
  baseModelPath : Option String
  trainDatasetPath : Option String
  sftCheckpointPath : Option String
  outputDir : Option String
  device : Option String
  trainingParams : Json
  finalModelPath : Option String
  finalMetrics : Json
  runToken : Option String
  processPid : Option Int
  processStatus : Option String
  processCreateTime : Option Rat
  startedAt : Option Nat
  completedAt : Option Nat
  updatedAt : Nat

instance : Keyed TrainingTask String := ⟨TrainingTask.taskId⟩

@[simp] theorem key_trainingTask (t : TrainingTask) : Keyed.key t = t.taskId := rfl

end Training
