import TrainFactory.Dataset.Entities
import TrainFactory.Lib.Run
import Mathlib.Tactic.Ring

/-!
# Downloads

A download of a model or of a dataset, by the id that its row, its managed directory and its worker
share: the columns of the row that the storage quota reads, the bytes that the directory holds, the
reservation and what the worker does next.
-/

namespace Download

open Lib

/-- A user as the user service names one; `<anonymous>` is the key of requests without a user. -/
abbrev UserId := { id : String // id ≠ "" ∧ id ≠ "<anonymous>" }

structure Settings where
  downloadStorageMaxBytesGlobal : Nat
  downloadStorageMaxBytesPerUser : Nat
  modelDownloadMaxBytes : Nat
  datasetDownloadMaxBytes : Nat

/-- What a start or a worker does next. The phases that follow the removal of the directory carry
the bytes that remain billable, if it was not removed. -/
inductive Phase where
  /-- Storage is reserved, but there is no row yet. -/
  | starting
  /-- The row is committed, but the worker has not started. -/
  | created
  /-- The start failed. -/
  | startFailed (residualBytes : Option Nat)
  | downloading
  /-- The reservation has the measured size. -/
  | measured (fileSize : Nat)
  /-- The row of a model is available, but its size is still to be recorded. -/
  | available (fileSize : Nat)
  /-- The download failed. -/
  | reclaimed (residualBytes : Option Nat)
  /-- The row of a model is failed, but its size is still to be recorded. -/
  | failed (residualBytes : Option Nat)
  /-- Only the reservation is still to be released. -/
  | finished
  deriving DecidableEq

/-- `ModelStatus`, and the status of a model under deletion. -/
inductive ModelStatus where
  | registered
  | available
  | archived
  | deleting
  deriving DecidableEq

def validTransitions : ModelStatus → List ModelStatus
  | .registered => [.available, .archived]
  | .available => [.archived]
  | .archived => [.available]
  | .deleting => []

inductive DownloadStatus where
  | pending
  | downloading
  | completed
  | failed
  deriving DecidableEq

/-- `ModelRegistryDB`. -/
structure ModelRow where
  status : ModelStatus
  /-- `original_status` of the delete intent. -/
  originalStatus : Option ModelStatus
  downloadStatus : DownloadStatus
  fileSize : Option Nat

/-- `DatasetDB`. -/
structure DatasetRow where
  status : Dataset.DatasetStatus
  fileSize : Option Nat

structure ModelDownload where
  modelId : String
  userId : Option UserId
  row : Option ModelRow
  /-- The bytes in the managed directory. -/
  bytes : Nat
  reservation : Option Nat
  /-- `none` without a worker. -/
  phase : Option Phase

instance : Keyed ModelDownload String := ⟨ModelDownload.modelId⟩

@[simp] theorem key_modelDownload (d : ModelDownload) : Keyed.key d = d.modelId := rfl

structure DatasetDownload where
  datasetId : String
  userId : Option UserId
  row : Option DatasetRow
  /-- The bytes in the managed directory. -/
  bytes : Nat
  reservation : Option Nat
  /-- `none` without a worker. -/
  phase : Option Phase
  /-- `original_status` of the last request to delete the dataset. -/
  originalStatus : Option Dataset.DatasetStatus

instance : Keyed DatasetDownload String := ⟨DatasetDownload.datasetId⟩

@[simp] theorem key_datasetDownload (d : DatasetDownload) : Keyed.key d = d.datasetId := rfl

/-- The downloads. -/
structure State where
  models : Table ModelDownload
  datasets : Table DatasetDownload

/-- `DownloadStorageQuotaService` without reservations, over tables without downloads. -/
def State.empty : State := ⟨Table.empty, Table.empty⟩

inductive DownloadError where
  | valueError (message : String)
  /-- `ModelDeletionInProgressError`. -/
  | modelDeletionInProgress (message : String)
  /-- `DownloadStorageQuotaExceeded`. -/
  | quotaExceeded (message : String)
  /-- `DownloadSizeExceeded`. -/
  | sizeExceeded
  | runtimeError (message : String)

end Download

/-!
## The storage quota of downloads

`DownloadStorageQuotaService`: what the rows store and what the active reservations hold, against a
limit for each user and one for all.
-/

namespace Download

open Lib

variable (settings : Settings)

def ModelDownload.stored (d : ModelDownload) : Nat := (d.row.bind ModelRow.fileSize).getD 0

def DatasetDownload.stored (d : DatasetDownload) : Nat := (d.row.bind DatasetRow.fileSize).getD 0

def ModelDownload.held (d : ModelDownload) : Nat := d.stored + d.reservation.getD 0

def DatasetDownload.held (d : DatasetDownload) : Nat := d.stored + d.reservation.getD 0

/-- `stored_global + reserved_global`. -/
def State.heldGlobal (s : State) : Nat :=
  s.models.sumBy ModelDownload.held + s.datasets.sumBy DatasetDownload.held

/-- `stored_user + reserved_user`. -/
def State.heldUser (s : State) (userId : Option UserId) : Nat :=
  (s.models.sumBy fun d => if d.userId = userId then d.held else 0) +
    s.datasets.sumBy fun d => if d.userId = userId then d.held else 0

def enforceLimits (projectedGlobal projectedUser : Nat) : Except DownloadError Unit :=
  if projectedGlobal > settings.downloadStorageMaxBytesGlobal then
    .error (.quotaExceeded "Remote download global storage quota exceeded")
  else if projectedUser > settings.downloadStorageMaxBytesPerUser then
    .error (.quotaExceeded "Remote download per-user storage quota exceeded")
  else .ok ()

/-- `reserve`, as far as its checks go. -/
def reserve (s : State) (userId : Option UserId) (expectedBytes : Nat) : Except DownloadError Unit :=
  enforceLimits settings (s.heldGlobal + expectedBytes) (s.heldUser userId + expectedBytes)

/-- `_resize`, as far as its checks go. -/
def resize (s : State) (userId : Option UserId) (reservation : Option Nat) (actualBytes : Nat) :
    Except DownloadError Unit :=
  match reservation with
  | none => .error (.runtimeError "Download storage reservation is unavailable")
  | some currentBytes =>
    enforceLimits settings (s.heldGlobal - currentBytes + actualBytes)
      (s.heldUser userId - currentBytes + actualBytes)

def Within (s : State) (userId : Option UserId) : Prop :=
  s.heldUser userId ≤ settings.downloadStorageMaxBytesPerUser ∧
    s.heldGlobal ≤ settings.downloadStorageMaxBytesGlobal

end Download
