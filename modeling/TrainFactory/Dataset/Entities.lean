import Mathlib.Data.List.Sort
import TrainFactory.Lib.Table

/-!
# Datasets

The rows of `datasets` and the transitions between their statuses.
-/

namespace Dataset

open Lib

inductive DatasetStatus where
  | registered | uploading | downloading | processing | staging | ready | error | archived | deleting
deriving DecidableEq

def validTransitions : DatasetStatus → List DatasetStatus
  | .registered => [.uploading, .downloading, .processing, .ready, .error, .deleting]
  | .uploading => [.processing, .ready, .error, .deleting]
  | .downloading => [.processing, .ready, .error, .deleting]
  | .processing => [.ready, .error, .deleting]
  | .staging => [.ready, .error, .deleting]
  | .ready => [.archived, .deleting]
  | .error => [.registered, .uploading, .downloading, .processing, .deleting]
  | .archived => [.ready, .deleting]
  | .deleting => []

/-- `DatasetDB`. -/
structure DatasetRow where
  datasetId : String
  storageBackend : String
  storagePath : Option String
  storagePathHash : Option String
  storageUri : Option String
  status : DatasetStatus
  deletionOwner : Option String
  errorMessage : Option String
  userId : Option String
  sourceTaskType : Option String
  sourceTaskId : Option String
  /-- The generation attempt that owns a staging row. -/
  generationRunToken : Option String
deriving DecidableEq

instance : Keyed DatasetRow String := ⟨DatasetRow.datasetId⟩

@[simp] theorem key_dataset (d : DatasetRow) : Keyed.key d = d.datasetId := rfl

abbrev Datasets := Table DatasetRow

inductive DatasetError where
  | valueError (message : String)
  /-- `Invalid status transition`, from the first status to the second. -/
  | invalidTransition (old new : DatasetStatus)
  | permissionError (message : String)
  | runtimeError (message : String)
  /-- `DatasetDeletionOwnerConflictError`. -/
  | deletionOwnerConflict (message : String)
  /-- `DatasetReferenceUnavailableError`. -/
  | referenceUnavailable (message : String)
  /-- `DatasetDeletionInProgressError`. -/
  | deletionInProgress (message : String)
  /-- `DatasetConsumptionUnavailableError`. -/
  | consumptionUnavailable (message : String)
deriving DecidableEq

def DatasetRow.updateStatus (d : DatasetRow) (status : DatasetStatus) :
    Except DatasetError DatasetRow :=
  if status ∉ validTransitions d.status ∧ status ≠ d.status then
    .error (.invalidTransition d.status status)
  else .ok { d with status := status }

def DatasetRow.references (d : DatasetRow) : List String :=
  d.storagePath.toList ++ d.storageUri.toList

end Dataset
