import TrainFactory.Dataset.Service

/-!
# The statuses of a dataset and the end of its deletion

The transactions of `dataset_service.py` that change the status of a row, undo its deletion or delete
it.
-/

namespace Dataset

open Lib

/-- The columns that `update_status` writes. -/
def withStatus (status : DatasetStatus) (errorMessage : Option String) (d : DatasetRow) :
    DatasetRow :=
  { d with
    status := status
    errorMessage := if truthy errorMessage then errorMessage else d.errorMessage }

theorem key_withStatus (status : DatasetStatus) (errorMessage : Option String) (d : DatasetRow) :
    Keyed.key (withStatus status errorMessage d) = Keyed.key d := rfl

def updateStatus (rows : Datasets) (datasetId : String) (status : DatasetStatus)
    (errorMessage : Option String) : Except DatasetError (Bool × Datasets) :=
  match rows.lookup datasetId with
  | none => .ok (false, rows)
  | some d =>
    match d.updateStatus status with
    | .error e => .error e
    | .ok _ => .ok (true, rows.update datasetId (withStatus status errorMessage)
        (key_withStatus status errorMessage))

structure UpdateDataset where
  datasetId : String
  expectedUserId : Option String
  expectedStatus : DatasetStatus
  expectedDeletionOwner : Option String
  status : Option DatasetStatus

def blockedStatuses : List DatasetStatus :=
  [.deleting, .staging, .uploading, .downloading, .processing]

/-- The validation of the new status against the expected one. -/
def UpdateDataset.isInvalid (args : UpdateDataset) : Bool :=
  match args.status with
  | none => false
  | some status => status ∉ validTransitions args.expectedStatus ∧ status ≠ args.expectedStatus

def UpdateDataset.conditions (args : UpdateDataset) (d : DatasetRow) : Bool :=
  d.datasetId = args.datasetId && d.userId = args.expectedUserId &&
    d.status = args.expectedStatus && d.deletionOwner = args.expectedDeletionOwner &&
    d.status ∉ blockedStatuses

def UpdateDataset.values (args : UpdateDataset) (d : DatasetRow) : DatasetRow :=
  { d with status := args.status.getD d.status }

theorem UpdateDataset.key_values (args : UpdateDataset) (d : DatasetRow) :
    Keyed.key (args.values d) = Keyed.key d := rfl

def updateDataset (rows : Datasets) (args : UpdateDataset) : Except DatasetError Datasets :=
  if args.isInvalid then
    .error (.invalidTransition args.expectedStatus (args.status.getD args.expectedStatus))
  else .ok (rows.updateWhere args.conditions args.values args.key_values)

/-! ## The end of a deletion -/

/-- The columns that `restore_from_deleting` writes. -/
def restored (status : DatasetStatus) (d : DatasetRow) : DatasetRow :=
  { d with status := status, deletionOwner := none }

theorem key_restored (status : DatasetStatus) (d : DatasetRow) :
    Keyed.key (restored status d) = Keyed.key d := rfl

def restoreFromDeleting (rows : Datasets) (datasetId : String) (deletionOwner : Option String)
    (status : DatasetStatus) (userId : Option String) : Except DatasetError (Bool × Datasets) :=
  match requireDatasetDeletionOwner deletionOwner with
  | .error e => .error e
  | .ok owner =>
    if status = .deleting then .error (.valueError "Cannot restore dataset to deleting")
    else
      match rows.lookup datasetId with
      | none => .ok (false, rows)
      | some d =>
        if d.status ≠ .deleting then .ok (false, rows)
        else if truthy userId ∧ d.userId ≠ userId then
          .error (.permissionError "Dataset owner changed during restore")
        else
          match assertDatasetDeletionOwner d owner with
          | .error e => .error e
          | .ok _ => .ok (true, rows.update datasetId (restored status) (key_restored status))

def deleteDataset (rows : Datasets) (datasetId : String) (deletionOwner userId : Option String) :
    Except DatasetError (Bool × Datasets) :=
  match requireDatasetDeletionOwner deletionOwner with
  | .error e => .error e
  | .ok owner =>
    match rows.lookup datasetId with
    | none => .ok (false, rows)
    | some d =>
      if truthy userId ∧ d.userId ≠ userId then
        .error (.permissionError "Dataset owner changed during deletion")
      else if d.status ≠ .deleting then .error (.runtimeError "Dataset is not fenced for deletion")
      else
        match assertDatasetDeletionOwner d owner with
        | .error e => .error e
        | .ok _ => .ok (true, rows.deleteWhere fun d => d.datasetId = datasetId)

end Dataset
