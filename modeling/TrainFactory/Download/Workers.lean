import TrainFactory.Download.Entities

/-!
# The starts and workers of downloads

`start_download`, the background workers, the cleanup after a restart, the deletions and the preview
of `model_download_service.py`, `dataset_download_service.py` and their callers, as the transactions
they consist of. `step` interleaves them; a step that does not apply changes nothing.
-/

namespace Download

open Lib

variable (settings : Settings)

/-! ## Directories -/

inductive Removal where
  | removed
  /-- It fails, and leaves at most `bytes`, which may not be measurable. -/
  | left (bytes : Nat) (measurable : Bool)

/-- `reclaim_download_directory`: what is left in the directory, and the bytes that must remain
billable, if it was not removed. -/
def reclaimDownloadDirectory (removal : Removal) (bytes fallbackBytes : Nat) : Nat × Option Nat :=
  match removal with
  | .removed => (0, none)
  | .left remaining measurable =>
    (min remaining bytes, some (if measurable then min remaining bytes else fallbackBytes))

/-! ## Rows -/

def updateModelRecord (row : ModelRow) (status : Option ModelStatus)
    (downloadStatus : Option DownloadStatus) (fileSize : Option Nat) :
    Except DownloadError ModelRow :=
  if row.status = .deleting then .error (.modelDeletionInProgress "Model is being deleted: ")
  else if status.any (fun s => s ∉ validTransitions row.status && s ≠ row.status) then
    .error (.valueError "Invalid status transition")
  else .ok { row with
    status := status.getD row.status
    downloadStatus := downloadStatus.getD
      (if status = some .available then .completed else row.downloadStatus)
    fileSize := if fileSize.isSome then fileSize else row.fileSize }

def updateDatasetRecord (row : DatasetRow) (status : Dataset.DatasetStatus)
    (fileSize : Option Nat) : Except DownloadError DatasetRow :=
  if status ∉ Dataset.validTransitions row.status ∧ status ≠ row.status then
    .error (.valueError "Invalid status transition")
  else .ok {
    status := status
    fileSize := if fileSize.isSome then fileSize else row.fileSize }

def ModelRow.isActive (row : ModelRow) : Bool :=
  row.downloadStatus = .pending || row.downloadStatus = .downloading

/-! ## Models -/

namespace ModelDownload

variable (d : ModelDownload)

def createRow : ModelDownload :=
  if d.phase = some .starting then
    { d with
      row := some {
        status := .registered
        originalStatus := none
        downloadStatus := .pending
        fileSize := none }
      phase := some .created }
  else d

/-- `download_thread.start()`. -/
def startThread : ModelDownload :=
  if d.phase = some .created then { d with phase := some .downloading } else d

def failStart (removal : Removal) : ModelDownload :=
  if d.phase = some .starting ∨ d.phase = some .created then
    let (bytes, residualBytes) :=
      reclaimDownloadDirectory removal d.bytes settings.modelDownloadMaxBytes
    { d with bytes := bytes, phase := some (.startFailed residualBytes) }
  else d

def deletePendingRecord (row : ModelRow) : Option ModelRow :=
  if row.status = .deleting then some row
  else if row.downloadStatus = .pending then none
  else some row

/-- The row after a start that failed: an error of the update is logged only. -/
def rollBackRow (residualBytes : Option Nat) (row : ModelRow) : Option ModelRow :=
  if residualBytes = none then deletePendingRecord row
  else
    match updateModelRecord row none (some .failed) residualBytes with
    | .ok row' => some row'
    | .error _ => some row

def rollBackStart : ModelDownload :=
  match d.phase with
  | some (.startFailed residualBytes) =>
    { d with row := d.row.bind (rollBackRow residualBytes), phase := some .finished }
  | _ => d

/-- The outcome of an update of the row by the worker: it goes on to the next phase, yields to a
deletion of the model, or has yet to fail. -/
def afterUpdate (status : Option ModelStatus) (downloadStatus : Option DownloadStatus)
    (fileSize : Option Nat) (next : Phase) : ModelDownload :=
  match d.row with
  | none => { d with phase := some next }
  | some row =>
    match updateModelRecord row status downloadStatus fileSize with
    | .ok row' => { d with row := some row', phase := some next }
    | .error (.modelDeletionInProgress _) => { d with phase := some .finished }
    | .error _ => d

/-- `_update_download_status(registry_id, "downloading", progress)`. -/
def setDownloading : ModelDownload :=
  if d.phase = some .downloading then d.afterUpdate none (some .downloading) none .downloading
  else d

def write (bytes : Nat) : ModelDownload :=
  if d.phase = some .downloading then { d with bytes := bytes } else d

def setMeasured : ModelDownload :=
  { d with reservation := some d.bytes, phase := some (.measured d.bytes) }

/-- `_update_download_status(registry_id, "available", 100)`. -/
def setAvailable : ModelDownload :=
  match d.phase with
  | some (.measured fileSize) =>
    d.afterUpdate (some .available) (some .completed) none (.available fileSize)
  | _ => d

/-- `_update_model_record(registry_id, status="available", file_size=file_size, ...)`. -/
def recordSize : ModelDownload :=
  match d.phase with
  | some (.available fileSize) => d.afterUpdate (some .available) none (some fileSize) .finished
  | _ => d

/-- The `try` block of the worker fails, and the worker reclaims the directory. -/
def fail (removal : Removal) : ModelDownload :=
  match d.phase with
  | some .downloading | some (.measured _) | some (.available _) =>
    let (bytes, residualBytes) :=
      reclaimDownloadDirectory removal d.bytes settings.modelDownloadMaxBytes
    { d with bytes := bytes, phase := some (.reclaimed residualBytes) }
  | _ => d

def afterFailedUpdate (fileSize : Option Nat) (next : Phase) : ModelDownload :=
  match d.row with
  | none => { d with phase := some next }
  | some row =>
    match updateModelRecord row none (some .failed) fileSize with
    | .ok row' => { d with row := some row', phase := some next }
    | .error _ => { d with phase := some .finished }

/-- `_update_download_status(registry_id, "failed", 0, error_msg)`. -/
def setFailed : ModelDownload :=
  match d.phase with
  | some (.reclaimed residualBytes) => d.afterFailedUpdate none (.failed residualBytes)
  | _ => d

/-- `_update_model_record(registry_id, download_status="failed", file_size=residual_bytes, ...)`. -/
def recordFailed : ModelDownload :=
  match d.phase with
  | some (.failed residualBytes) => d.afterFailedUpdate residualBytes .finished
  | _ => d

/-- `storage_reservation.release()`, the last step of a worker or a failed start. -/
def release : ModelDownload :=
  if d.phase = some .finished then { d with reservation := none, phase := none } else d

def cleanUp (removal : Removal) : ModelDownload :=
  match d.row with
  | some row =>
    if row.status ≠ .deleting ∧ row.isActive then
      let (bytes, residualBytes) :=
        reclaimDownloadDirectory removal d.bytes settings.modelDownloadMaxBytes
      { d with
        bytes := bytes
        row := some { row with downloadStatus := .failed, fileSize := residualBytes } }
    else d
  | none => d

def restart (removal : Removal) : ModelDownload :=
  { d with reservation := none, phase := none }.cleanUp settings removal

def mapRow (f : ModelRow → ModelRow) : ModelDownload := { d with row := d.row.map f }

/-- The intent of `delete_model`: it is refused while the download is active. -/
def publishDeleteIntent : ModelDownload :=
  d.mapRow fun row =>
    if row.isActive then row
    else if row.status = .deleting then row
    else { row with status := .deleting, originalStatus := some row.status }

def restoreDeleteIntent : ModelDownload :=
  d.mapRow fun row =>
    if row.status = .deleting then
      { row with status := row.originalStatus.getD .registered, originalStatus := none }
    else row

def isDeleting : Bool := d.row.any fun row => row.status = .deleting

/-- `shutil.rmtree` of a deletion, which leaves at most `bytes`. -/
def removeDirectory (bytes : Nat) : ModelDownload :=
  if d.isDeleting then { d with bytes := min bytes d.bytes } else d

def deleteRow : ModelDownload := if d.isDeleting then { d with row := none } else d

end ModelDownload

/-! ## Datasets -/

namespace DatasetDownload

variable (d : DatasetDownload)

def createRow : DatasetDownload :=
  if d.phase = some .starting then
    { d with row := some { status := .downloading, fileSize := none }, phase := some .created }
  else d

/-- `download_thread.start()`. -/
def startThread : DatasetDownload :=
  if d.phase = some .created then { d with phase := some .downloading } else d

def failStart (removal : Removal) : DatasetDownload :=
  if d.phase = some .starting ∨ d.phase = some .created then
    let (bytes, residualBytes) :=
      reclaimDownloadDirectory removal d.bytes settings.datasetDownloadMaxBytes
    { d with bytes := bytes, phase := some (.startFailed residualBytes) }
  else d

def failRow (residualBytes : Option Nat) (row : DatasetRow) : DatasetRow :=
  match updateDatasetRecord row .error residualBytes with
  | .ok row' => row'
  | .error _ => row

/-- The row after a start that failed: `_delete_pending_record`, if the directory was removed. -/
def rollBackRow (residualBytes : Option Nat) (row : DatasetRow) : Option DatasetRow :=
  if residualBytes = none then
    if row.status = .downloading then none else some row
  else some (failRow residualBytes row)

def rollBackStart : DatasetDownload :=
  match d.phase with
  | some (.startFailed residualBytes) =>
    { d with row := d.row.bind (rollBackRow residualBytes), phase := some .finished }
  | _ => d

/-- The worker writes, or removes its cache, until the directory holds `bytes`. -/
def write (bytes : Nat) : DatasetDownload :=
  if d.phase = some .downloading then { d with bytes := bytes } else d

def setReserved (bytes : Nat) (d : DatasetDownload) : DatasetDownload :=
  { d with reservation := some bytes }

def setMeasured : DatasetDownload :=
  { d with reservation := some d.bytes, phase := some (.measured d.bytes) }

/-- `_update_dataset_record(dataset_id, status="ready", file_size=file_size, ...)`. -/
def recordSize : DatasetDownload :=
  match d.phase with
  | some (.measured fileSize) =>
    match d.row with
    | none => { d with phase := some .finished }
    | some row =>
      match updateDatasetRecord row .ready (some fileSize) with
      | .ok row' => { d with row := some row', phase := some .finished }
      | .error _ => d
  | _ => d

/-- The `try` block of the worker fails, and the worker reclaims the directory. -/
def fail (removal : Removal) : DatasetDownload :=
  match d.phase with
  | some .downloading | some (.measured _) =>
    let (bytes, residualBytes) :=
      reclaimDownloadDirectory removal d.bytes settings.datasetDownloadMaxBytes
    { d with bytes := bytes, phase := some (.reclaimed residualBytes) }
  | _ => d

/-- `_update_dataset_record(dataset_id, status="error", file_size=residual_bytes, ...)`. -/
def recordFailed : DatasetDownload :=
  match d.phase with
  | some (.reclaimed residualBytes) =>
    { d with row := d.row.map (failRow residualBytes), phase := some .finished }
  | _ => d

/-- `storage_reservation.release()`, the last step of a worker or a failed start. -/
def release : DatasetDownload :=
  if d.phase = some .finished then { d with reservation := none, phase := none } else d

def cleanUp (removal : Removal) : DatasetDownload :=
  match d.row with
  | some row =>
    if row.status = .downloading then
      let (bytes, residualBytes) :=
        reclaimDownloadDirectory removal d.bytes settings.datasetDownloadMaxBytes
      { d with bytes := bytes, row := some { status := .error, fileSize := residualBytes } }
    else d
  | none => d

/-- A restart: the worker, its reservation and the deletion requests are gone, and the row is
cleaned up. -/
def restart (removal : Removal) : DatasetDownload :=
  { d with reservation := none, phase := none, originalStatus := none }.cleanUp settings removal

def isWriting (status : Dataset.DatasetStatus) : Bool :=
  status ∈ [.uploading, .downloading, .processing]

def readForDeletion : DatasetDownload := { d with originalStatus := d.row.map DatasetRow.status }

/-- `mark_deleting`, by a request that read a status without background writes. -/
def markDeleting : DatasetDownload :=
  if d.originalStatus.any fun status => !isWriting status then
    { d with row := d.row.map fun row =>
        if .deleting ∈ Dataset.validTransitions row.status then { row with status := .deleting }
        else row }
  else d

def isDeleting : Bool := d.row.any fun row => row.status = .deleting

/-- `restore_from_deleting`, to the status that the request read. -/
def restoreFromDeleting : DatasetDownload :=
  match d.originalStatus with
  | some status =>
    if status ≠ .deleting ∧ !isWriting status then
      { d with row := d.row.map fun row =>
          if row.status = .deleting then { row with status := status } else row }
    else d
  | none => d

def deleteStorage (bytes : Nat) : DatasetDownload :=
  if d.isDeleting then { d with bytes := min bytes d.bytes } else d

def deleteRow : DatasetDownload := if d.isDeleting then { d with row := none } else d

/-- `cache_preview_if_snapshot_matches` writes to a row with the expected status. -/
def previewApplies (expectedStatus : Dataset.DatasetStatus) : Bool :=
  (expectedStatus = .registered || expectedStatus = .ready) &&
    d.row.any fun row => row.status = expectedStatus

/-- `cache_preview_if_snapshot_matches`, of a preview with rows. -/
def cachePreview (expectedStatus : Dataset.DatasetStatus) (fileSize : Option Nat) :
    DatasetDownload :=
  if d.previewApplies expectedStatus then
    { d with row := d.row.map fun row =>
        { status := .ready, fileSize := if fileSize.isSome then fileSize else row.fileSize } }
  else d

end DatasetDownload

/-! ## Steps -/

/-- The steps of one download of a model that leave the reservations of the others alone. -/
inductive ModelOp where
  | createRow
  | startThread
  | failStart (removal : Removal)
  | rollBackStart
  | setDownloading
  | write (bytes : Nat)
  | setAvailable
  | recordSize
  | fail (removal : Removal)
  | setFailed
  | recordFailed
  | release
  | publishDeleteIntent
  | restoreDeleteIntent
  | removeDirectory (bytes : Nat)
  | deleteRow

def ModelDownload.apply (op : ModelOp) (d : ModelDownload) : ModelDownload :=
  match op with
  | .createRow => d.createRow
  | .startThread => d.startThread
  | .failStart removal => d.failStart settings removal
  | .rollBackStart => d.rollBackStart
  | .setDownloading => d.setDownloading
  | .write bytes => d.write bytes
  | .setAvailable => d.setAvailable
  | .recordSize => d.recordSize
  | .fail removal => d.fail settings removal
  | .setFailed => d.setFailed
  | .recordFailed => d.recordFailed
  | .release => d.release
  | .publishDeleteIntent => d.publishDeleteIntent
  | .restoreDeleteIntent => d.restoreDeleteIntent
  | .removeDirectory bytes => d.removeDirectory bytes
  | .deleteRow => d.deleteRow

/-- The steps of one download of a dataset that leave the reservations of the others alone. -/
inductive DatasetOp where
  | createRow
  | startThread
  | failStart (removal : Removal)
  | rollBackStart
  | write (bytes : Nat)
  | recordSize
  | fail (removal : Removal)
  | recordFailed
  | release
  | readForDeletion
  | markDeleting
  | restoreFromDeleting
  | deleteStorage (bytes : Nat)
  | deleteRow
  | cachePreview (expectedStatus : Dataset.DatasetStatus) (fileSize : Option Nat)

def DatasetDownload.apply (op : DatasetOp) (d : DatasetDownload) : DatasetDownload :=
  match op with
  | .createRow => d.createRow
  | .startThread => d.startThread
  | .failStart removal => d.failStart settings removal
  | .rollBackStart => d.rollBackStart
  | .write bytes => d.write bytes
  | .recordSize => d.recordSize
  | .fail removal => d.fail settings removal
  | .recordFailed => d.recordFailed
  | .release => d.release
  | .readForDeletion => d.readForDeletion
  | .markDeleting => d.markDeleting
  | .restoreFromDeleting => d.restoreFromDeleting
  | .deleteStorage bytes => d.deleteStorage bytes
  | .deleteRow => d.deleteRow
  | .cachePreview expectedStatus fileSize => d.cachePreview expectedStatus fileSize

theorem ModelDownload.modelId_apply (d : ModelDownload) (op : ModelOp) :
    (d.apply settings op).modelId = d.modelId := by
  cases op <;> simp only [apply, createRow, startThread, failStart, rollBackStart, setDownloading,
    write, setAvailable, recordSize, fail, setFailed, recordFailed, release, publishDeleteIntent,
    restoreDeleteIntent, mapRow, removeDirectory, deleteRow, afterUpdate, afterFailedUpdate] <;>
    grind

theorem ModelDownload.modelId_restart (d : ModelDownload) (removal : Removal) :
    (d.restart settings removal).modelId = d.modelId := by
  simp only [restart, cleanUp]
  grind

theorem DatasetDownload.datasetId_apply (d : DatasetDownload) (op : DatasetOp) :
    (d.apply settings op).datasetId = d.datasetId := by
  cases op <;> simp only [apply, createRow, startThread, failStart, rollBackStart, write, recordSize,
    fail, recordFailed, release, readForDeletion, markDeleting, restoreFromDeleting, deleteStorage,
    deleteRow, cachePreview] <;>
    grind

theorem DatasetDownload.datasetId_restart (d : DatasetDownload) (removal : Removal) :
    (d.restart settings removal).datasetId = d.datasetId := by
  simp only [restart, cleanUp]
  grind

/-- The transactions of the downloads, and the steps between them. -/
inductive Action where
  /-- `start_download` of a model reserves storage, under an id that is not in use. -/
  | startModel (modelId : String) (userId : Option UserId) (expectedBytes : Nat)
  | model (modelId : String) (op : ModelOp)
  /-- A worker measures the directory of a model and verifies its size. -/
  | measureModel (modelId : String)
  /-- `start_download` of a dataset reserves storage, under an id that is not in use. -/
  | startDataset (datasetId : String) (userId : Option UserId) (expectedBytes : Nat)
  | dataset (datasetId : String) (op : DatasetOp)
  /-- A streaming worker has its reservation resized before it writes. -/
  | resizeDataset (datasetId : String) (actualBytes : Nat)
  /-- A worker measures the directory of a dataset and verifies its size. -/
  | measureDataset (datasetId : String)
  /-- The server restarts, and cleans up interrupted downloads. -/
  | restart (models datasets : String → Removal)

def newModel (modelId : String) (userId : Option UserId) (expectedBytes : Nat) : ModelDownload where
  modelId := modelId
  userId := userId
  row := none
  bytes := 0
  reservation := some expectedBytes
  phase := some .starting

def newDataset (datasetId : String) (userId : Option UserId) (expectedBytes : Nat) :
    DatasetDownload where
  datasetId := datasetId
  userId := userId
  row := none
  bytes := 0
  reservation := some expectedBytes
  phase := some .starting
  originalStatus := none

def verifyMeasured (s : State) (userId : Option UserId) (reservation : Option Nat)
    (actualBytes maxBytes : Nat) : Except DownloadError Unit :=
  if actualBytes > maxBytes then .error .sizeExceeded
  else resize settings s userId reservation actualBytes

def admits (s : State) : Action → Option (Option UserId)
  | .startModel modelId userId expectedBytes =>
    if (s.models.lookup modelId).isNone ∧ (reserve settings s userId expectedBytes).isOk then
      some userId
    else none
  | .measureModel modelId =>
    (s.models.lookup modelId).bind fun d =>
      if d.phase = some .downloading ∧ (verifyMeasured settings s d.userId d.reservation d.bytes
          settings.modelDownloadMaxBytes).isOk then some d.userId
      else none
  | .startDataset datasetId userId expectedBytes =>
    if (s.datasets.lookup datasetId).isNone ∧ (reserve settings s userId expectedBytes).isOk then
      some userId
    else none
  | .resizeDataset datasetId actualBytes =>
    (s.datasets.lookup datasetId).bind fun d =>
      if d.phase = some .downloading ∧
          (resize settings s d.userId d.reservation actualBytes).isOk then some d.userId
      else none
  | .measureDataset datasetId =>
    (s.datasets.lookup datasetId).bind fun d =>
      if d.phase = some .downloading ∧ (verifyMeasured settings s d.userId d.reservation d.bytes
          settings.datasetDownloadMaxBytes).isOk then some d.userId
      else none
  | _ => none

def insertNew {R : Type} [Keyed R String] (rows : Table R) (r : R) : Table R :=
  (rows.insert r).getD rows

def step (s : State) (a : Action) : State :=
  match a with
  | .startModel modelId userId expectedBytes =>
    if (admits settings s a).isSome then
      { s with models := insertNew s.models (newModel modelId userId expectedBytes) }
    else s
  | .model modelId op =>
    { s with
      models := s.models.update modelId (ModelDownload.apply settings op)
        (fun d => d.modelId_apply settings op) }
  | .measureModel modelId =>
    if (admits settings s a).isSome then
      { s with models := s.models.update modelId ModelDownload.setMeasured (fun _ => rfl) }
    else s
  | .startDataset datasetId userId expectedBytes =>
    if (admits settings s a).isSome then
      { s with datasets := insertNew s.datasets (newDataset datasetId userId expectedBytes) }
    else s
  | .dataset datasetId op =>
    { s with
      datasets := s.datasets.update datasetId (DatasetDownload.apply settings op)
        (fun d => d.datasetId_apply settings op) }
  | .resizeDataset datasetId actualBytes =>
    if (admits settings s a).isSome then
      { s with
        datasets := s.datasets.update datasetId (DatasetDownload.setReserved actualBytes)
          (fun _ => rfl) }
    else s
  | .measureDataset datasetId =>
    if (admits settings s a).isSome then
      { s with datasets := s.datasets.update datasetId DatasetDownload.setMeasured (fun _ => rfl) }
    else s
  | .restart models datasets =>
    { models := s.models.updateWhere (fun _ => true)
        (fun d => d.restart settings (models d.modelId)) (fun d => d.modelId_restart settings _)
      datasets := s.datasets.updateWhere (fun _ => true)
        (fun d => d.restart settings (datasets d.datasetId))
        (fun d => d.datasetId_restart settings _) }

end Download
