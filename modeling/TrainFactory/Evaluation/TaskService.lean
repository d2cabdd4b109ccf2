import Mathlib.Algebra.Order.Ring.Rat
import TrainFactory.Lib.Json

/-!
# The evaluation task service

The row of an MTEB evaluation task, and the transactions that claim, cancel, complete and resume it
or save its results. Each is one step on the row.
-/

namespace Evaluation

open Lib

inductive EvaluationStatus where
  | pending
  | running
  | succeeded
  | completed
  | failed
  | cancelled
  deriving DecidableEq

/-- `EvaluationTaskDB`, of an MTEB task. A JSON column without a value is `null`. -/
structure EvaluationTask where
  modelConfigs : Json
  datasetConfigs : Json
  status : EvaluationStatus
  /-- The fence of the execution attempt. -/
  runToken : Option String
  progress : Rat
  currentModel : Option String
  currentDataset : Option String
  errorMessage : Option String
  modelProgress : Json
  results : Json
  resultsPath : Option String
  updatedAt : Nat
  startedAt : Option Nat
  completedAt : Option Nat

inductive EvalError where
  | valueError (message : String)
  | typeError

/-- The row after a transaction that returns true, or `none` where it returns false. -/
abbrev Outcome := Except EvalError (Option EvaluationTask)

/-! ## Results -/

def isSuccessfulResult : Option Json → Bool
  | some (.obj kvs) => (kvs.lookup "error").isNone
  | _ => false

/-- `matrix.get(model, {}).get(dataset)`, of the entries that are dicts. -/
def pairEntry (matrix : Json) (model dataset : String) : Option Json :=
  (matrix.get? model).bind fun datasets => datasets.get? dataset

/-- One dataset of `_merge_evaluation_results`: an error does not replace a success. -/
def mergeDataset (existing : List (String × Json)) (incoming : String × Json) :
    List (String × Json) :=
  if isSuccessfulResult (existing.lookup incoming.1) && !isSuccessfulResult (some incoming.2) then
    existing
  else Json.setEntry existing incoming.1 incoming.2

/-- One model of `_merge_evaluation_results`: a value that is no dict replaces what there is. -/
def mergeModel (merged : List (String × Json)) (incoming : String × Json) : List (String × Json) :=
  match incoming.2 with
  | .obj datasets =>
    let existing := ((merged.lookup incoming.1).getD .null).entries
    Json.setEntry merged incoming.1 (.obj (datasets.foldl mergeDataset existing))
  | raw => Json.setEntry merged incoming.1 raw

def mergeEvaluationResults (existing incoming : Json) : Except EvalError Json :=
  match incoming with
  | .null => .ok (.obj existing.entries)
  | .obj models => .ok (.obj (models.foldl mergeModel existing.entries))
  | _ => .error (.valueError "Evaluation results must be an object")

/-! ## Progress -/

/-- `float(value)`, of a number. -/
def toRat? : Json → Option Rat
  | .bool b => some (if b then 1 else 0)
  | .int n => some n
  | .float q => some q
  | _ => none

def pairProgress (modelProgress : Json) : List Rat :=
  modelProgress.entries.flatMap fun model => model.2.entries.filterMap fun dataset =>
    match dataset.2 with
    | .obj kvs => toRat? ((kvs.lookup "progress").getD (.int 0))
    | _ => none

def overallProgress (modelProgress : Json) : Rat :=
  let values := pairProgress modelProgress
  if values.isEmpty then 0 else values.sum / values.length

def progressEntry (progress : Rat) (status : String) : Json :=
  .obj [("progress", .float progress), ("status", .str status)]

def reconciledEntry (completed : Bool) : Json :=
  if completed then progressEntry 100 "completed" else progressEntry 0 "pending"

def reconcileModel (storedResults storedProgress : Json) : Json :=
  let datasetKeys := (storedProgress.entries.map Prod.fst ++
    (storedResults.entries.map Prod.fst).filter (· ≠ "_error")).dedup
  .obj (datasetKeys.map fun dataset =>
    (dataset, reconciledEntry (isSuccessfulResult (storedResults.entries.lookup dataset))))

def reconcileModelProgress (results modelProgress : Json) : Json :=
  let modelKeys := (modelProgress.entries.map Prod.fst ++ results.entries.map Prod.fst).dedup
  .obj (modelKeys.map fun model =>
    (model, reconcileModel ((results.get? model).getD .null)
      ((modelProgress.get? model).getD .null)))

/-! ## Transactions -/

section Transactions

variable (now : Nat) (task : EvaluationTask)

/-- `claim_running`, under the verdict of the dependency locks. -/
def claimRunning (available : Bool) (runToken : Option String) (legacyRunToken : String) :
    Outcome :=
  if task.status = .pending ∧ available then
    .ok (some { task with
      status := .running
      runToken := some (runToken.getD (task.runToken.getD legacyRunToken))
      startedAt := some (task.startedAt.getD now)
      completedAt := none
      updatedAt := now })
  else .ok none

def cancelTask : Outcome :=
  if task.status = .pending ∨ task.status = .running then
    .ok (some { task with status := .cancelled, completedAt := some now, updatedAt := now })
  else .ok none

def validTransitions : EvaluationStatus → List EvaluationStatus
  | .pending => [.running, .failed, .cancelled]
  | .running => [.succeeded, .completed, .failed, .cancelled]
  | .succeeded | .completed => []
  | .failed | .cancelled => [.pending, .running]

def EvaluationTask.updateStatus (status : EvaluationStatus) (errorMessage : Option String) :
    Outcome :=
  if status ∉ validTransitions task.status ∧ status ≠ task.status then
    .error (.valueError "Invalid status transition")
  else
    .ok (some { task with
      status := status
      updatedAt := now
      errorMessage := if truthy errorMessage then errorMessage else task.errorMessage
      startedAt :=
        if status = .running then some (task.startedAt.getD now) else task.startedAt
      completedAt :=
        if status ∈ [.succeeded, .completed, .failed, .cancelled] then some now
        else task.completedAt })

/-- `update_status`, with a run token. -/
def updateStatus (available : Bool) (status : EvaluationStatus)
    (errorMessage runToken : Option String) :
    Outcome :=
  if task.runToken ≠ runToken then .ok none
  else if status = .running then
    if (task.status = .pending ∨ task.status = .running) ∧ available then
      .ok (some { task with
        status := .running
        startedAt := some (task.startedAt.getD now)
        updatedAt := now })
    else .ok none
  else task.updateStatus now status errorMessage

def isCurrentAttempt (runToken : Option String) : Bool :=
  task.status = .running && task.runToken = runToken

def setPairProgress (modelProgress : Json) (model dataset : String) (progress : Rat)
    (status : String) : Except EvalError Json :=
  let entry := progressEntry (min (max progress 0) 100) status
  match modelProgress with
  | .null => .ok (.obj [(model, .obj [(dataset, entry)])])
  | .obj models =>
    match models.lookup model with
    | none => .ok (.obj (Json.setEntry models model (.obj [(dataset, entry)])))
    | some (.obj datasets) =>
      .ok (.obj (Json.setEntry models model (.obj (Json.setEntry datasets dataset entry))))
    | some _ => .error .typeError
  | _ => .error .typeError

/-- `str(value or name)[:255]`. -/
def shown (value : Option String) (name : String) : String :=
  String.ofList ((if truthy value then value.getD name else name).toList.take 255)

def updateModelProgress (model dataset : String) (progress : Rat) (status : String)
    (currentModel currentDataset runToken : Option String) : Outcome :=
  if isCurrentAttempt task runToken then do
    let completed := isSuccessfulResult (pairEntry task.results model dataset)
    let status := if completed then "completed" else status
    let modelProgress ← setPairProgress task.modelProgress model dataset
      (if completed then 100 else progress) status
    pure (some { task with
      modelProgress := modelProgress
      progress := overallProgress modelProgress
      currentModel := if status = "running" then some
        (shown currentModel model) else task.currentModel
      currentDataset :=
        if status = "running" then some (shown currentDataset dataset) else task.currentDataset
      updatedAt := now })
  else .ok none

/-- `matrix[model][dataset] = entry`, where what is no dict is replaced. -/
def setPair (matrix : Json) (model dataset : String) (entry : Json) : Json :=
  let datasets := ((matrix.entries.lookup model).getD .null).entries
  .obj (Json.setEntry matrix.entries model (.obj (Json.setEntry datasets dataset entry)))

def saveModelDatasetResult (model dataset : String) (result : Json) (runToken : Option String) :
    Outcome :=
  if ¬ isSuccessfulResult (some result) then
    .error (.valueError "Only successful pair results can be durably committed")
  else if isCurrentAttempt task runToken then
    let modelProgress := setPair task.modelProgress model dataset (progressEntry 100 "completed")
    .ok (some { task with
      results := setPair task.results model dataset result
      modelProgress := modelProgress
      progress := overallProgress modelProgress
      updatedAt := now })
  else .ok none

/-- `results`, merged into those of the row unless they are `None`. -/
def withResults (results : Json) : Except EvalError EvaluationTask :=
  match results with
  | .null => .ok task
  | _ => do
    let merged ← mergeEvaluationResults task.results results
    pure { task with results := merged, updatedAt := now }

def savePartialResults (results : Json) (runToken : Option String) : Outcome :=
  if (task.status = .running ∨ task.status = .cancelled) ∧ task.runToken = runToken then do
    let task ← withResults now task results
    pure (some task)
  else .ok none

def completeTask (status : EvaluationStatus) (results : Json)
    (reportPath errorMessage runToken : Option String) : Outcome :=
  if status ≠ .succeeded ∧ status ≠ .failed then
    .error (.valueError "MTEB completion status must be succeeded or failed")
  else if isCurrentAttempt task runToken then do
    let task ← withResults now task results
    pure (some { task with
      status := status
      updatedAt := now
      completedAt := some now
      resultsPath := reportPath <|> task.resultsPath
      errorMessage :=
        if errorMessage.isSome then errorMessage
        else if status = .succeeded then none else task.errorMessage
      progress := if errorMessage.isNone ∧ status = .succeeded then 100 else task.progress })
  else .ok none

/-! ## `reset_for_resume` -/

/-- The success of the row in a pair of the supplied matrix. -/
def lateSuccess (results : Json) (model dataset : String) : Option (String × Json) :=
  match pairEntry results model dataset with
  | some candidate =>
    if isSuccessfulResult (some candidate) then some (dataset, candidate) else none
  | none => none

def lateDatasets (results : Json) (model : String) (datasets : Json) : List (String × Json) :=
  datasets.entries.filterMap fun dataset => lateSuccess results model dataset.1

/-- `late_successes`: the successes of the row in the pairs of the supplied matrix. -/
def lateSuccesses (results : Json) (modelProgress : Json) : List (String × Json) :=
  modelProgress.entries.filterMap fun model =>
    let late := lateDatasets results model.1 model.2
    if late.isEmpty then none else some (model.1, .obj late)

def resumeResults (results snapshotResults snapshotProgress : Json) : Except EvalError Json :=
  let late := lateSuccesses results snapshotProgress
  if late.isEmpty then .ok snapshotResults
  else mergeEvaluationResults snapshotResults (.obj late)

def resumeProgress (modelProgress : Json) : Rat :=
  let pairs := modelProgress.entries.flatMap fun model => model.2.entries.map Prod.snd
  let completed := pairs.filter fun entry =>
    match entry.get? "status" with
    | some (.str status) => status = "completed"
    | _ => false
  if pairs.isEmpty then 0
  else (completed.map fun entry => (toRat? (entry.getD "progress" (.int 100))).getD 0).sum /
    pairs.length

/-- `arg`, or the value of the row where it is `None`. -/
def orStored (arg : Option Json) (stored : Json) : Json := arg.getD stored

def resetForResume (available : Bool)
    (modelConfigs datasetConfigs results modelProgress : Option Json)
    (newRunToken : String) : Outcome :=
  if (task.status = .failed ∨ task.status = .cancelled) ∧ available then do
    let snapshotProgress := orStored modelProgress task.modelProgress
    let results ← resumeResults task.results (orStored results task.results) snapshotProgress
    let reconciled := reconcileModelProgress results snapshotProgress
    pure (some { task with
      status := .pending
      runToken := some newRunToken
      errorMessage := none
      currentModel := none
      currentDataset := none
      startedAt := none
      completedAt := none
      updatedAt := now
      modelConfigs := orStored modelConfigs task.modelConfigs
      datasetConfigs := orStored datasetConfigs task.datasetConfigs
      results := results
      modelProgress := reconciled
      progress := resumeProgress reconciled })
  else .ok none

end Transactions

/-! ## Runs -/

/-- The transactions, with the verdicts of the locks and the time. -/
inductive Op where
  | claimRunning (available : Bool) (runToken : Option String) (legacyRunToken : String)
  | updateStatus (available : Bool) (status : EvaluationStatus)
      (errorMessage runToken : Option String)
  | updateModelProgress (model dataset : String) (progress : Rat) (status : String)
      (currentModel currentDataset runToken : Option String)
  | saveModelDatasetResult (model dataset : String) (result : Json) (runToken : Option String)
  | savePartialResults (results : Json) (runToken : Option String)
  | completeTask (status : EvaluationStatus) (results : Json)
      (reportPath errorMessage runToken : Option String)
  | cancelTask
  | resetForResume (available : Bool)
      (modelConfigs datasetConfigs results modelProgress : Option Json) (newRunToken : String)

/-- What a transaction does to the row. -/
def Op.run (now : Nat) (task : EvaluationTask) : Op → Outcome
  | .claimRunning available runToken legacyRunToken =>
    Evaluation.claimRunning now task available runToken legacyRunToken
  | .updateStatus available status errorMessage runToken =>
    Evaluation.updateStatus now task available status errorMessage runToken
  | .updateModelProgress model dataset progress status currentModel currentDataset runToken =>
    Evaluation.updateModelProgress now task model dataset progress status currentModel
      currentDataset runToken
  | .saveModelDatasetResult model dataset result runToken =>
    Evaluation.saveModelDatasetResult now task model dataset result runToken
  | .savePartialResults results runToken => Evaluation.savePartialResults now task results runToken
  | .completeTask status results reportPath errorMessage runToken =>
    Evaluation.completeTask now task status results reportPath errorMessage runToken
  | .cancelTask => Evaluation.cancelTask now task
  | .resetForResume available modelConfigs datasetConfigs results modelProgress newRunToken =>
    Evaluation.resetForResume now task available modelConfigs datasetConfigs results modelProgress
      newRunToken

/-- The row after a transaction; one that raises or returns false leaves it as it is. -/
def step (task : EvaluationTask) (op : Nat × Op) : EvaluationTask :=
  match op.2.run op.1 task with
  | .ok (some task') => task'
  | _ => task

end Evaluation
