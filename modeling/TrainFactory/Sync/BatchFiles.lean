import TrainFactory.Lib.Bytes
import TrainFactory.Lib.JsonText
import TrainFactory.Lib.PosixPath
import TrainFactory.Sync.Batches
import TrainFactory.Sync.Items
import TrainFactory.Sync.Storage

/-!
# Batch files

The bytes of the batch files of `sync_worker.py`: `_save_batch` writes one, and a generation selects
the oldest batches with `get_pending_batches` and `_select_generation_batches` and merges their
files with `_merge_batches`. Paths are relative to the sync root.
-/

namespace Sync

open Lib

def raiseIf (condition : Prop) [Decidable condition] (error : SyncError) : Except SyncError Unit :=
  if condition then .error error else .ok ()

/-! ## The sync directory -/

/-- What is at a path below the sync root. -/
inductive Node where
  | file (content : Bytes)
  | directory
  | symlink
  | other

/-- The sync directory. -/
abbrev FileSystem := Path → Option Node

structure SyncRoot where
  /-- The components of `os.path.abspath(SYNC_DATA_DIR)`. -/
  names : List String
  /-- `os.getcwd()`. -/
  cwd : String
  names_plain : ∀ name ∈ names, name ≠ "" ∧ name ≠ "." ∧ name ≠ ".." ∧ '/' ∉ name.toList

/-- `str(root.joinpath(*path))`. -/
def SyncRoot.text (root : SyncRoot) (path : Path) : String := "/" ++ join "/" (root.names ++ path)

/-- `Path(os.path.abspath(text))`, relative to the root; `none` outside of it. -/
def SyncRoot.parse (root : SyncRoot) (text : String) : Option Path :=
  let full := if isAbs text then text else joinPath root.cwd text
  let names := normComponents true [] (split full '/')
  if root.names.isPrefixOf names then some (names.drop root.names.length) else none

/-- `uuid.uuid4().hex`. -/
def UuidHex := { hex : String // hex.toList.length = 32 ∧
  ∀ c ∈ hex.toList, c ∈ "0123456789abcdef".toList }

/-- The standard library, whose `json.dumps` prints a value as `Json.dumps` does. -/
structure JsonStdlib extends Stdlib where
  dumps_eq : ∀ v : Json, dumps v = v.dumps fun q => repr (.float q)
  /-- The text of a number stands in one line. -/
  repr_float : ∀ q : Rat, '\n' ∉ (repr (.float q)).toList

abbrev Reserve := Path → Nat → Except SyncError Unit

/-- `_managed_directory(*names, create=True)`, from a directory on. -/
def makeDirectories (fs : FileSystem) : Path → List String → Except SyncError FileSystem
  | _, [] => .ok fs
  | directory, name :: names =>
    match fs (directory ++ [name]) with
    | none =>
      makeDirectories (Function.update fs (directory ++ [name]) (some .directory))
        (directory ++ [name]) names
    | some .directory => makeDirectories fs (directory ++ [name]) names
    | some .symlink => .error (.valueError "Managed sync directories must not be symbolic links")
    | some _ => .error (.osError "File exists")

/-- `_managed_directory(*names, create=False)`, from a directory on. -/
def findDirectories (fs : FileSystem) : Path → List String → Except SyncError Unit
  | _, [] => .ok ()
  | directory, name :: names =>
    match fs (directory ++ [name]) with
    | none => .error (.osError "No such file or directory")
    | some .directory => findDirectories fs (directory ++ [name]) names
    | some .symlink => .error (.valueError "Managed sync directories must not be symbolic links")
    | some _ => .error (.valueError "Managed sync path must be a directory")

/-- `open(path, "x")`, then the content. -/
def createFile (fs : FileSystem) (path : Path) (content : Bytes) : Except SyncError FileSystem :=
  match fs path with
  | none => .ok (Function.update fs path (some (.file content)))
  | some _ => .error (.osError "File exists")

/-! ## Saving -/

def recordLine (py : Stdlib) (item : Json) : Bytes := utf8 (serializeBatchItem py item)

def batchFileName (hex : UuidHex) : String := "batch_" ++ hex.val ++ ".jsonl"

def saveBatchFile (py : Stdlib) (settings : Settings) (reserve : Reserve) (fs : FileSystem)
    (taskId userId : String) (hex : UuidHex) (items : List Json) :
    Except SyncError (Path × FileSystem) := do
  let taskId ← requirePathComponent taskId "Task ID"
  let userId ← syncStorageUserComponent settings userId
  let fs ← makeDirectories fs [] [userId, taskId]
  let batchFile := [userId, taskId, batchFileName hex]
  raiseIf (settings.syncPendingMaxRecordsPerTask < items.length)
    (.resourceLimit "External sync pending record quota exceeded")
  raiseIf (items.any fun item => settings.syncMaxRecordBytes < (recordLine py item).length)
    recordTooLong
  reserve batchFile (items.map fun item => (recordLine py item).length).sum
  let fs ← createFile fs batchFile (items.flatMap (recordLine py))
  return (batchFile, fs)

/-! ## Reading -/

def iterNormalizedJsonl (maxRecordBytes : Nat) (bytes : Bytes) : Except SyncError (List Bytes) :=
  if (readLine (maxRecordBytes + 1) bytes).1 = [] then .ok []
  else if maxRecordBytes < (readLine (maxRecordBytes + 1) bytes).1.length then
    .error recordTooLong
  else
    match iterNormalizedJsonl maxRecordBytes (readLine (maxRecordBytes + 1) bytes).2 with
    | .error e => .error e
    | .ok records =>
      let normalized := stripBytes (readLine (maxRecordBytes + 1) bytes).1
      .ok (if normalized = [] then records else normalized :: records)
termination_by bytes.length
decreasing_by exact length_readLine_lt (by assumption)

def readNormalized (settings : Settings) (fs : FileSystem) (path : Path) :
    Except SyncError (List Bytes) :=
  match fs path with
  | some (.file content) => iterNormalizedJsonl settings.syncMaxRecordBytes content
  | _ => .error (.osError "No such file")

def lineBytes (records : List Bytes) : Nat := (records.map fun record => record.length + 1).sum

def normalizedJsonlStats (settings : Settings) (fs : FileSystem) (path : Path) :
    Except SyncError (Nat × Nat) :=
  (readNormalized settings fs path).map fun records => (records.length, lineBytes records)

def lowerSuffix (name : String) : String :=
  let extension := (name.toList.reverse.takeWhile (· ≠ '.')).reverse
  let stem := ((name.toList.reverse.dropWhile (· ≠ '.')).drop 1).reverse
  if extension = [] ∨ stem = [] then "" else String.ofList ('.' :: extension.map Char.toLower)

def managedComponents (userComponent userId taskId : String) : List Path :=
  [[userComponent, taskId], [userId, taskId],
    -- batches written before full tenant scoping
    [String.ofList (userId.toList.take 16), String.ofList (taskId.toList.take 8)]].map fun path =>
      path.filter (· ≠ "")

def resolveManagedBatchPath (root : SyncRoot) (settings : Settings) (fs : FileSystem)
    (taskId userId : String) (batch : ExternalSyncBatch) : Except SyncError Path := do
  raiseIf (batch.taskId ≠ taskId ∨ batch.userId ≠ userId)
    (.valueError "Batch does not belong to the requested sync task")
  let taskId ← requirePathComponent taskId "Task ID"
  let userComponent ← syncStorageUserComponent settings userId
  raiseIf (strip batch.storagePath = "") (.valueError "Batch storage path is invalid")
  match root.parse batch.storagePath with
  | none => throw (.valueError "Batch storage path is outside the managed sync directory")
  | some rawPath =>
    match (managedComponents userComponent userId taskId).find? fun components =>
        rawPath ≠ [] && rawPath.dropLast = components with
    | none => throw (.valueError "Batch storage path is outside the managed sync directory")
    | some components =>
      findDirectories fs [] components
      match fs rawPath with
      | some (.file _) =>
        let name := rawPath.getLastD ""
        if startsWith name "batch_" && lowerSuffix name = ".jsonl" then return rawPath
        else throw (.valueError "Batch storage path is not a managed batch file")
      | some .symlink =>
        throw (.valueError "Batch storage path must not be a symbolic link")
      | none => throw (.osError "No such file or directory")
      | some _ => throw (.valueError "Batch storage path must be a regular file")

/-! ## Selecting -/

def pendingLoop (maxRecords : Nat) :
    List ExternalSyncBatch → List ExternalSyncBatch → Int →
    Except SyncError (List ExternalSyncBatch)
  | [], selected, _ => .ok selected
  | batch :: batches, selected, selectedRecords =>
    let projectedRecords := selectedRecords + max batch.recordCount 0
    if projectedRecords > maxRecords then
      if selected = [] then
        .error (.valueError "Oldest external sync batch exceeds pending record quota")
      else .ok selected
    else pendingLoop maxRecords batches (selected ++ [batch]) projectedRecords

def fetchedBatches (db : Database) (taskId : String) : List ExternalSyncBatch :=
  (db.batches.select fun b => b.taskId = taskId && b.status = .fetched).insertionSort
    fun b b' => b.fetchedAt ≤ b'.fetchedAt

def getPendingBatches (settings : Settings) (db : Database) (taskId : String) :
    Except SyncError (List ExternalSyncBatch) :=
  pendingLoop settings.syncPendingMaxRecordsPerTask
    ((fetchedBatches db taskId).take settings.syncPendingMaxBatchesPerTask) [] 0

variable (root : SyncRoot) (settings : Settings) (fs : FileSystem) (taskId userId : String)

/-- `int(batch.get("record_count") or actual_records)`, at least 0. -/
def countedRecords (batch : ExternalSyncBatch) (actualRecords : Nat) : Int :=
  max (if batch.recordCount = 0 then (actualRecords : Int) else batch.recordCount) 0

def batchStats (batch : ExternalSyncBatch) : Except SyncError (Nat × Nat) := do
  let path ← resolveManagedBatchPath root settings fs taskId userId batch
  normalizedJsonlStats settings fs path

def selectLoop : List ExternalSyncBatch → List ExternalSyncBatch → Int → Nat →
    Except SyncError (List ExternalSyncBatch)
  | [], selected, _, _ => .ok selected
  | batch :: batches, selected, selectedRecords, selectedBytes =>
    match batchStats root settings fs taskId userId batch with
    | .error e => .error e
    | .ok (actualRecords, actualBytes) =>
      let projectedRecords := selectedRecords + countedRecords batch actualRecords
      let projectedBytes := selectedBytes + actualBytes
      if settings.syncPendingMaxBatchesPerTask < selected.length + 1 ∨
          projectedRecords > settings.syncPendingMaxRecordsPerTask ∨
          settings.syncGenerationMaxInputBytes < projectedBytes then
        if selected = [] then
          .error (.resourceLimit "Oldest external sync batch exceeds generation input limits")
        else .ok selected
      else selectLoop batches (selected ++ [batch]) projectedRecords projectedBytes

def selectGenerationBatches (batches : List ExternalSyncBatch) :
    Except SyncError (List ExternalSyncBatch) := do
  let _ ← requirePathComponent taskId "Task ID"
  let _ ← syncStorageUserComponent settings userId
  selectLoop root settings fs taskId userId batches [] 0 0

/-! ## Merging -/

def measureLoop : List Path → Nat → Nat → Except SyncError Nat
  | [], _, outputBytes => .ok outputBytes
  | path :: rest, actualRecords, outputBytes =>
    match normalizedJsonlStats settings fs path with
    | .error e => .error e
    | .ok (batchRecords, batchBytes) =>
      if settings.syncPendingMaxRecordsPerTask < actualRecords + batchRecords then
        .error (.resourceLimit "External sync pending record quota exceeded")
      else if settings.syncGenerationMaxInputBytes < outputBytes + batchBytes then
        .error (.resourceLimit "External sync generation input byte limit exceeded")
      else measureLoop rest (actualRecords + batchRecords) (outputBytes + batchBytes)

def mergedContent : List Path → Except SyncError Bytes
  | [] => .ok []
  | path :: rest =>
    match readNormalized settings fs path with
    | .error e => .error e
    | .ok records =>
      match mergedContent rest with
      | .error e => .error e
      | .ok content => .ok (records.flatMap (fun record => record ++ [newline]) ++ content)

def mergeBatches (reserve : Reserve) (attemptId : String) (batches : List ExternalSyncBatch) :
    Except SyncError (Path × FileSystem) := do
  let taskComponent ← requirePathComponent taskId "Task ID"
  let userComponent ← syncStorageUserComponent settings userId
  raiseIf (settings.syncPendingMaxBatchesPerTask < batches.length)
    (.resourceLimit "External sync pending batch quota exceeded")
  raiseIf ((batches.map fun b => max b.recordCount 0).sum > settings.syncPendingMaxRecordsPerTask)
    (.resourceLimit "External sync pending record quota exceeded")
  let attempt ← requirePathComponent attemptId "Generation attempt ID"
  let sourcePaths ← batches.mapM (resolveManagedBatchPath root settings fs taskId userId)
  let outputBytes ← measureLoop settings fs sourcePaths 0 0
  let fs ← makeDirectories fs [] [userComponent, taskComponent, "merged"]
  let mergedFile := [userComponent, taskComponent, "merged", "merged_" ++ attempt ++ ".jsonl"]
  reserve mergedFile outputBytes
  let content ← mergedContent settings fs sourcePaths
  let fs ← createFile fs mergedFile content
  return (mergedFile, fs)

end Sync
