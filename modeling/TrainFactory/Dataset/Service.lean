import TrainFactory.Dataset.Entities
import TrainFactory.Lib.Json
import TrainFactory.Lib.PosixPath

/-!
# The deletion fence of datasets

The storage references of `dataset_service.py`, when two of them overlap, the lock that every new
consumer of a dataset takes, and `mark_deleting`, which it must respect.
-/

namespace Dataset

open Lib

/-- What the references depend on besides the rows. -/
structure Host where
  collation : Collation
  dirs : Directories
  /-- `hashlib.sha256(text.encode("utf-8")).hexdigest()`. -/
  sha256 : String → String
  /-- The network locations that `urlsplit` rejects for what they hold between or beside brackets. -/
  rejectsNetloc : List Char → Bool

variable (host : Host)

/-! ## Storage references -/

/-- `parse_s3_uri`; `none` where it raises `ValueError`. -/
def parseS3Uri (uri : String) : Option (String × String) :=
  if startsWith uri "s3://" then
    let body := (dropChars uri 5).toList
    let bucket := body.takeWhile (· ≠ '/')
    let key := (body.dropWhile (· ≠ '/')).dropWhile (· = '/')
    if bucket = [] ∨ key = [] then none else some (String.ofList bucket, String.ofList key)
  else none

def normalizeS3Uri (storageUri : Option String) : Option String :=
  match storageUri with
  | none => none
  | some uri =>
    if uri = "" then none
    else (parseS3Uri (strip uri)).map fun (bucket, key) => "s3://" ++ bucket ++ "/" ++ key

def Host.normalizePath (path : String) : String :=
  normPath (host.dirs.absPath (host.dirs.expandUser path))

/-- `hash_path`, without a salt. -/
def Host.hashPath (path : String) : String := host.sha256 (host.normalizePath path)

def Host.hashStorageRef (storageBackend : String) (storagePath storageUri : Option String) :
    Option String :=
  if storageBackend = "s3" then (normalizeS3Uri storageUri).map host.sha256
  else
    let path := strip (storagePath.getD "")
    if path = "" then none else some (host.hashPath path)

/-- What a reference names: an object of a bucket, or a local path. -/
inductive Identity where
  | s3 (object : String)
  | localPath (path : String)
deriving DecidableEq

/-- `_storage_reference_identity`; it raises where `urlsplit` does. -/
def Host.storageReferenceIdentity (storageRef : String) :
    Except DatasetError (Option Identity) :=
  let normalized := strip storageRef
  if normalized = "" then .ok none
  else
    match urlsplit host.rejectsNetloc normalized with
    | none => .error (.valueError "Invalid URL")
    | some parsed =>
      if parsed.scheme = "s3".toList ∧ parsed.netloc ≠ [] then
        .ok (some (.s3 (String.ofList (parsed.netloc ++ '/' :: parsed.path.dropWhile (· = '/')))))
      else .ok (some (.localPath (host.dirs.resolve normalized)))

theorem identity_strip (ref : String) :
    host.storageReferenceIdentity (strip ref) = host.storageReferenceIdentity ref := by
  simp only [Host.storageReferenceIdentity, strip_strip]

def identitiesOverlap : Option Identity → Option Identity → Bool
  | some (.s3 left), some (.s3 right) => left = right
  | some (.localPath left), some (.localPath right) =>
    match commonPath left right with
    | none => false
    | some path => path = left || path = right
  | _, _ => false

def Host.storageReferencesOverlap (left right : String) : Except DatasetError Bool := do
  let leftIdentity ← host.storageReferenceIdentity left
  let rightIdentity ← host.storageReferenceIdentity right
  pure (identitiesOverlap leftIdentity rightIdentity)

/-! ## The lock of a consumer -/

/-- The arguments of `lock_datasets_for_consumption`. -/
structure LockRequest where
  datasetIds : List String
  storageRefs : List String
  requireAllDatasetIds : Bool
  requireAllStorageRefs : Bool

/-- The texts that are not blank, stripped, as a set. -/
def normalized (values : List String) : List String :=
  ((values.map strip).filter (· ≠ "")).dedup

def refUris (storageRef : String) : List String :=
  storageRef :: (if startsWith storageRef "s3://" then
    (normalizeS3Uri (some storageRef)).toList else [])

def Host.refHashes (storageRef : String) : List String :=
  if startsWith storageRef "s3://" then
    (match normalizeS3Uri (some storageRef) with
      | some uri => (host.hashStorageRef "s3" none (some uri)).toList ++ [host.hashPath uri]
      | none => []) ++ [host.hashPath storageRef]
  else (host.hashStorageRef "local" (some storageRef) none).toList

/-- `column IN (values)`, under the collation. -/
def Host.isIn (values : List String) (column : String) : Bool :=
  values.any fun value => host.collation.same column value

/-- The `WHERE` clause of the lock. -/
def Host.isNamed (request : LockRequest) (d : DatasetRow) : Bool :=
  let refs := normalized request.storageRefs
  host.isIn (normalized request.datasetIds) d.datasetId ||
    d.storagePath.any (host.isIn refs) ||
    d.storageUri.any (host.isIn (refs.flatMap refUris)) ||
    d.storagePathHash.any (host.isIn (refs.flatMap host.refHashes))

/-- A row that has been found has the reference, by the texts themselves. -/
def Host.matchesRef (d : DatasetRow) (storageRef : String) : Bool :=
  d.storagePath = some storageRef || d.storageUri.any (· ∈ refUris storageRef) ||
    d.storagePathHash.any (· ∈ host.refHashes storageRef)

def missingIds (request : LockRequest) (datasets : List DatasetRow) : List String :=
  ((normalized request.datasetIds).filter fun id =>
    ¬ id ∈ datasets.map DatasetRow.datasetId).insertionSort (· ≤ ·)

def Host.missingRefs (request : LockRequest) (datasets : List DatasetRow) : List String :=
  ((normalized request.storageRefs).filter fun ref =>
    !datasets.any fun d => host.matchesRef d ref).insertionSort (· ≤ ·)

def idsWithStatus (datasets : List DatasetRow) (status : DatasetStatus) : List String :=
  ((datasets.filter fun d => d.status = status).map DatasetRow.datasetId).insertionSort (· ≤ ·)

def Host.lockDatasetsForConsumption (rows : Datasets) (request : LockRequest) :
    Except DatasetError (List DatasetRow) :=
  if normalized request.datasetIds = [] ∧ normalized request.storageRefs = [] then .ok []
  else
    let datasets := rows.select (host.isNamed request)
    if request.requireAllDatasetIds ∧ missingIds request datasets ≠ [] then
      .error (.referenceUnavailable
        ("Managed dataset no longer exists: " ++ join ", " (missingIds request datasets)))
    else if request.requireAllStorageRefs ∧ host.missingRefs request datasets ≠ [] then
      .error (.referenceUnavailable "Managed dataset reference no longer exists")
    else if idsWithStatus datasets .deleting ≠ [] then
      .error (.deletionInProgress
        ("Dataset deletion is in progress: " ++ join ", " (idsWithStatus datasets .deleting)))
    else if idsWithStatus datasets .staging ≠ [] then
      .error (.consumptionUnavailable
        ("Dataset publication is not complete: " ++ join ", " (idsWithStatus datasets .staging)))
    else .ok datasets

/-! ## The deletion intent -/

def maxDeletionOwnerLength : Nat := 128

def requireDatasetDeletionOwner (deletionOwner : Option String) : Except DatasetError String :=
  let owner := strip (deletionOwner.getD "")
  if owner = "" then .error (.valueError "deletion_owner must be a non-empty string")
  else if owner.length > maxDeletionOwnerLength then
    .error (.valueError "deletion_owner must be at most 128 characters")
  else .ok owner

def assertDatasetDeletionOwner (d : DatasetRow) (owner : String) : Except DatasetError Unit :=
  if d.deletionOwner ≠ some owner then
    .error (.deletionOwnerConflict "Dataset is owned by another deletion operation")
  else .ok ()

/-- The columns that `mark_deleting` writes. -/
def fenced (owner : String) (d : DatasetRow) : DatasetRow :=
  { d with status := .deleting, deletionOwner := some owner }

theorem key_fenced (owner : String) (d : DatasetRow) :
    Keyed.key (fenced owner d) = Keyed.key d := rfl

def markDeleting (rows : Datasets) (datasetId : String) (deletionOwner userId : Option String) :
    Except DatasetError (Bool × Datasets) := do
  let owner ← requireDatasetDeletionOwner deletionOwner
  match rows.lookup datasetId with
  | none => pure (false, rows)
  | some d =>
    if truthy userId ∧ d.userId ≠ userId then
      throw (.permissionError "Dataset owner changed during deletion")
    else if d.status = .deleting then
      assertDatasetDeletionOwner d owner
      pure (true, rows)
    else if d.deletionOwner ≠ none then
      assertDatasetDeletionOwner d owner
      throw (.runtimeError "Dataset has a deletion owner without a deletion fence")
    else
      let _ ← d.updateStatus .deleting
      pure (true, rows.update datasetId (fenced owner) (key_fenced owner))

end Dataset
