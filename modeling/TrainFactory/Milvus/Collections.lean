import TrainFactory.Dataset.Service

/-!
# The registry of Milvus collections

`MilvusCollectionService`: the registration and the manual creation of a collection, the fences of a
deletion, which are acquired for many names at once and can be restored, and the links of datasets.
-/

namespace Milvus

open Lib
open Dataset (DatasetError Datasets LockRequest)

inductive CollectionStatus where
  | creating | active | deleting
deriving DecidableEq

/-- `MilvusCollectionDB`. -/
structure CollectionRow where
  collectionId : String
  collectionName : String
  displayName : Option String
  description : Option String
  embeddingConfigId : Option String
  embeddingModel : Option String
  embeddingEndpoint : Option String
  dim : Int
  metricType : String
  hybridEnabled : Option Bool
  status : CollectionStatus
  deletionOwner : Option String
  syncTaskId : Option String
  userId : Option String
deriving DecidableEq

instance : Keyed CollectionRow String := ⟨CollectionRow.collectionName⟩

@[simp] theorem key_collection (c : CollectionRow) : Keyed.key c = c.collectionName := rfl

/-- `CollectionDatasetLinkDB`. -/
structure LinkRow where
  collectionName : String
  datasetId : String
  datasetName : Option String
  chunkCount : Int
  taskId : Option String
deriving DecidableEq

instance : Keyed LinkRow (String × String) := ⟨fun l => (l.collectionName, l.datasetId)⟩

@[simp] theorem key_link (l : LinkRow) : Keyed.key l = (l.collectionName, l.datasetId) := rfl

/-- What the transactions raise. -/
inductive MilvusError where
  | valueError (message : String)
  | permissionError (message : String)
  /-- `MilvusCollectionUnavailableError`. -/
  | unavailable (message : String)
  /-- `MilvusCollectionDeletionOwnerConflictError`. -/
  | ownerConflict (message : String)
  | dataset (error : DatasetError)
deriving DecidableEq

structure Tables where
  collections : Table CollectionRow
  links : Table LinkRow

/-- The texts that are not blank, stripped, as a sorted set. -/
def normalizedNames (names : List String) : List String :=
  (((names.map strip).filter (· ≠ "")).dedup).insertionSort (· ≤ ·)

def normalizeDeletionOwner (deletionOwner : String) : Except MilvusError String :=
  let normalized := strip deletionOwner
  if normalized = "" then
    .error (.valueError "A non-empty Milvus collection deletion owner is required")
  else if normalized.length > 128 then
    .error (.valueError "Milvus collection deletion owner is too long")
  else .ok normalized

def unavailable (collectionName rest : String) : MilvusError :=
  .unavailable ("Milvus collection '" ++ collectionName ++ "' " ++ rest)

def lockCollectionForConsumption (collections : Table CollectionRow) (collectionName : String)
    (userId : Option String) : Except MilvusError CollectionRow :=
  match collections.lookup collectionName with
  | none => .error (unavailable collectionName "is unavailable")
  | some entry =>
    if entry.status ≠ .active ∨ entry.userId ≠ userId then
      .error (unavailable collectionName "is unavailable")
    else .ok entry

def insertCollection (collections : Table CollectionRow) (entry : CollectionRow) :
    Option (Table CollectionRow) :=
  if collections.rows.any fun c => c.collectionId = entry.collectionId then none
  else collections.insert entry

/-! ## Creation -/

structure SyncTask where
  taskId : String
  userId : Option String
  reserves : Bool

/-- What a new collection is created with, the locks that its transaction takes outside the
registry, and the id that its row gets. -/
structure NewCollection where
  collectionName : String
  embeddingConfigId : Option String
  embeddingModel : Option String
  embeddingEndpoint : Option String
  dim : Int
  metricType : String
  displayName : Option String
  description : Option String
  userId : Option String
  /-- The embedding config is available to the user. -/
  embeddingAvailable : Bool
  syncTasks : List SyncTask
  collectionId : String

def lockEmbeddingConfigForCollection (args : NewCollection) : Except MilvusError Unit :=
  if truthy args.embeddingConfigId ∧ ¬ args.embeddingAvailable then
    .error (.unavailable "Embedding config is unavailable")
  else .ok ()

def NewCollection.claimants (args : NewCollection) : List SyncTask :=
  args.syncTasks.filter SyncTask.reserves

def NewCollection.row (args : NewCollection) (metricType : String) (hybridEnabled : Option Bool)
    (status : CollectionStatus) (syncTaskId : Option String) : CollectionRow where
  collectionId := args.collectionId
  collectionName := args.collectionName
  displayName := if truthy args.displayName then args.displayName else some args.collectionName
  description := args.description
  embeddingConfigId := args.embeddingConfigId
  embeddingModel := args.embeddingModel
  embeddingEndpoint := args.embeddingEndpoint
  dim := args.dim
  metricType := metricType
  hybridEnabled := hybridEnabled
  status := status
  deletionOwner := none
  syncTaskId := syncTaskId
  userId := args.userId

def checkedSyncTaskId (syncTaskId : Option String) : Except MilvusError (Option String) :=
  match syncTaskId with
  | none => .ok none
  | some id =>
    if strip id = "" then .error (.valueError "A non-empty external sync task ID is required")
    else if (strip id).length > 36 then .error (.valueError "External sync task ID is too long")
    else .ok (some (strip id))

def checkClaimants (args : NewCollection) (syncTaskId : Option String) : Except MilvusError Unit :=
  match syncTaskId with
  | some id =>
    let claimantIds := args.claimants.map SyncTask.taskId
    if (args.syncTasks.find? fun t => t.taskId = id).any (fun t => t.userId = args.userId) ∧
        id ∈ claimantIds ∧ claimantIds.all (· = id) then .ok ()
    else .error (.unavailable "External sync collection claimant is unavailable")
  | none =>
    if args.claimants ≠ [] then
      .error (unavailable args.collectionName "is reserved by an external sync task")
    else .ok ()

def registerCollection (args : NewCollection) (syncTaskId : Option String) (db : Tables) :
    Except MilvusError (CollectionRow × Tables) := do
  let syncTaskId ← checkedSyncTaskId syncTaskId
  lockEmbeddingConfigForCollection args
  checkClaimants args syncTaskId
  match db.collections.lookup args.collectionName with
  | some existing =>
    if existing.status ≠ .active ∨ existing.userId ≠ args.userId ∨
        existing.syncTaskId ≠ syncTaskId then
      .error (unavailable args.collectionName "is unavailable")
    else .ok (existing, db)
  | none =>
    let entry := args.row args.metricType none .active syncTaskId
    match insertCollection db.collections entry with
    | some collections => .ok (entry, { db with collections })
    | none => .error (unavailable args.collectionName "changed concurrently")

def matchesCreationIntent (args : NewCollection) (hybridEnabled : Bool) (existing : CollectionRow) :
    Bool :=
  existing.status = .creating && existing.userId = args.userId && existing.syncTaskId = none &&
    existing.deletionOwner = none && existing.embeddingConfigId = args.embeddingConfigId &&
    existing.embeddingModel = args.embeddingModel &&
    existing.embeddingEndpoint = args.embeddingEndpoint && existing.dim = args.dim &&
    existing.metricType.toUpper = args.metricType.toUpper &&
    existing.hybridEnabled = some hybridEnabled

def reserveManualCollection (args : NewCollection) (hybridEnabled : Bool) (db : Tables) :
    Except MilvusError (CollectionRow × Bool × Tables) := do
  lockEmbeddingConfigForCollection args
  checkClaimants args none
  match db.collections.lookup args.collectionName with
  | some existing =>
    if matchesCreationIntent args hybridEnabled existing then .ok (existing, false, db)
    else
      .error (unavailable args.collectionName
        "is already registered or has a conflicting creation in progress")
  | none =>
    let entry := args.row args.metricType.toUpper (some hybridEnabled) .creating none
    match insertCollection db.collections entry with
    | some collections => .ok (entry, true, { db with collections })
    | none => .error (unavailable args.collectionName "changed concurrently")

def isReservation (collectionId : String) (userId : Option String) (entry : CollectionRow) : Bool :=
  entry.collectionId = collectionId && entry.userId = userId && entry.status = .creating &&
    entry.syncTaskId = none

def activated (c : CollectionRow) : CollectionRow := { c with status := .active }

theorem key_activated (c : CollectionRow) : Keyed.key (activated c) = Keyed.key c := rfl

def activateManualCollection (collectionName collectionId : String) (userId : Option String)
    (db : Tables) : Except MilvusError Tables :=
  if (db.collections.lookup collectionName).any (isReservation collectionId userId) then
    .ok { db with collections := db.collections.update collectionName activated key_activated }
  else .error (unavailable collectionName "creation reservation changed")

def cancelManualCollectionCreation (collectionName collectionId : String)
    (userId : Option String) (db : Tables) : Except MilvusError Tables :=
  if (db.collections.lookup collectionName).any (isReservation collectionId userId) then
    .ok { db with
      collections := db.collections.deleteWhere fun c => c.collectionName = collectionName }
  else .error (unavailable collectionName "creation reservation changed")

/-! ## Deletion fences -/

/-- `MilvusDeletionFenceAcquisition`. -/
structure Acquisition where
  collectionNames : List String
  newlyFenced : List String
  createdPlaceholders : List String
  previousCreating : List String
deriving DecidableEq

/-- The arguments of `acquire_deletion_fences`, with the ids that placeholders get. -/
structure AcquireFences where
  collectionNames : List String
  deletionOwner : String
  userId : Option String
  expectedCollectionIds : Option (List (String × Option String))
  allowManualCreating : Bool
  placeholderIds : String → String

def fenced (owner : String) (c : CollectionRow) : CollectionRow :=
  { c with status := .deleting, deletionOwner := some owner }

theorem key_fenced (owner : String) (c : CollectionRow) :
    Keyed.key (fenced owner c) = Keyed.key c := rfl

def AcquireFences.placeholder (args : AcquireFences) (owner collectionName : String) :
    CollectionRow where
  collectionId := args.placeholderIds collectionName
  collectionName := collectionName
  displayName := none
  description := none
  embeddingConfigId := none
  embeddingModel := none
  embeddingEndpoint := none
  dim := 1024
  metricType := "COSINE"
  hybridEnabled := none
  status := .deleting
  deletionOwner := some owner
  syncTaskId := none
  userId := args.userId

def AcquireFences.identityChanged (args : AcquireFences) (collectionName : String)
    (entry : Option CollectionRow) : Bool :=
  match args.expectedCollectionIds with
  | none => false
  | some expected =>
    match (expected.lookup collectionName).join with
    | none => entry.isSome
    | some id => !entry.any fun c => c.collectionId = id

def AcquireFences.exactManualAbort (args : AcquireFences) (owner : String) (c : CollectionRow) :
    Bool :=
  args.allowManualCreating &&
    args.expectedCollectionIds.any (fun expected =>
      (expected.lookup c.collectionName).join = some c.collectionId) &&
    owner = "manual:" ++ c.collectionId && c.syncTaskId = none && c.deletionOwner = none

/-- The rows and the acquisition while names are fenced one after the other. -/
structure Fencing where
  collections : Table CollectionRow
  newlyFenced : List String
  createdPlaceholders : List String
  previousCreating : List String

def AcquireFences.fenceName (args : AcquireFences) (owner : String) (f : Fencing)
    (collectionName : String) : Except MilvusError Fencing :=
  let entry := f.collections.lookup collectionName
  let rows := f.collections.update collectionName (fenced owner) (key_fenced owner)
  if args.identityChanged collectionName entry then
    .error (.ownerConflict ("Milvus collection '" ++ collectionName ++ "' changed during deletion"))
  else
    match entry with
    | none =>
      match insertCollection f.collections (args.placeholder owner collectionName) with
      | none => .error (.ownerConflict "A Milvus collection deletion fence changed concurrently")
      | some collections => .ok { f with
          collections := collections
          newlyFenced := f.newlyFenced ++ [collectionName]
          createdPlaceholders := f.createdPlaceholders ++ [collectionName] }
    | some c =>
      if c.userId ≠ args.userId then
        .error (.permissionError "Milvus collection owner changed during deletion")
      else
        match c.status with
        | .deleting =>
          if c.deletionOwner ≠ some owner then
            .error (.ownerConflict ("Milvus collection '" ++ collectionName ++
              "' is being deleted by another operation"))
          else .ok f
        | .creating =>
          if args.exactManualAbort owner c then .ok { f with
            collections := rows
            newlyFenced := f.newlyFenced ++ [collectionName]
            previousCreating := f.previousCreating ++ [collectionName] }
          else .error (unavailable collectionName "is unavailable")
        | .active => .ok { f with
            collections := rows
            newlyFenced := f.newlyFenced ++ [collectionName] }

def AcquireFences.expectedMatches (args : AcquireFences) (names : List String) : Bool :=
  match args.expectedCollectionIds with
  | none => true
  | some expected =>
    let expectedNames := expected.map Prod.fst
    names.all (· ∈ expectedNames) && expectedNames.all (· ∈ names)

def acquireDeletionFences (args : AcquireFences) (db : Tables) :
    Except MilvusError (Acquisition × Tables) := do
  let owner ← normalizeDeletionOwner args.deletionOwner
  let names := normalizedNames args.collectionNames
  if ¬ args.expectedMatches names then
    .error (.valueError "Expected Milvus collection identities must match fence names")
  else
    let f ← names.foldlM (args.fenceName owner) ⟨db.collections, [], [], []⟩
    .ok (⟨names, f.newlyFenced, f.createdPlaceholders, f.previousCreating⟩,
      { db with collections := f.collections })

/-- The columns of a row whose fence is taken back. -/
def unfenced (status : CollectionStatus) (c : CollectionRow) : CollectionRow :=
  { c with status := status, deletionOwner := none }

theorem key_unfenced (status : CollectionStatus) (c : CollectionRow) :
    Keyed.key (unfenced status c) = Keyed.key c := rfl

def restoreName (owner : String) (placeholders creatingNames : List String)
    (collections : Table CollectionRow) (collectionName : String) :
    Except MilvusError (Table CollectionRow) :=
  match collections.lookup collectionName with
  | none => .ok collections
  | some c =>
    if c.status ≠ .deleting ∨ c.deletionOwner ≠ some owner then
      .error (.ownerConflict
        ("Milvus collection '" ++ collectionName ++ "' deletion owner changed"))
    else if collectionName ∈ placeholders then
      .ok (collections.deleteWhere fun c => c.collectionName = collectionName)
    else
      let status : CollectionStatus :=
        if collectionName ∈ creatingNames then .creating else .active
      .ok (collections.update collectionName (unfenced status) (key_unfenced status))

def restoreDeletionFences (collectionNames : List String) (deletionOwner : String)
    (createdPlaceholders previousCreating : List String) (db : Tables) :
    Except MilvusError Tables := do
  let owner ← normalizeDeletionOwner deletionOwner
  let collections ← (normalizedNames collectionNames).foldlM
    (restoreName owner (normalizedNames createdPlaceholders) (normalizedNames previousCreating))
    db.collections
  pure { db with collections }

def deleteCollections (collectionNames : List String) (deletionOwner : String) (db : Tables) :
    Except MilvusError (Bool × Tables) := do
  let owner ← normalizeDeletionOwner deletionOwner
  let names := normalizedNames collectionNames
  if names = [] then pure (false, db)
  else
    let missing := names.filter fun name => (db.collections.lookup name).isNone
    if missing ≠ [] then
      .error (.ownerConflict
        ("Milvus collection deletion fences are missing for: " ++ join ", " missing))
    else
      match (db.collections.select fun c => c.collectionName ∈ names).find? fun c =>
          ¬ (c.status = .deleting ∧ c.deletionOwner = some owner) with
      | some c =>
        .error (.ownerConflict
          ("Milvus collection '" ++ c.collectionName ++ "' deletion owner changed"))
      | none => pure (true, {
          collections := db.collections.deleteWhere fun c => c.collectionName ∈ names
          links := db.links.deleteWhere fun l => l.collectionName ∈ names })

/-! ## Links -/

structure LinkDataset where
  collectionName : String
  datasetId : String
  datasetName : Option String
  chunkCount : Int
  taskId : Option String
  datasets : Datasets

def relinked (args : LinkDataset) (l : LinkRow) : LinkRow :=
  { l with
    chunkCount := if args.chunkCount ≠ 0 then args.chunkCount else l.chunkCount
    taskId := if truthy args.taskId then args.taskId else l.taskId
    datasetName := if truthy args.datasetName then args.datasetName else l.datasetName }

theorem key_relinked (args : LinkDataset) (l : LinkRow) :
    Keyed.key (relinked args l) = Keyed.key l := rfl

def LinkDataset.row (args : LinkDataset) : LinkRow :=
  ⟨args.collectionName, args.datasetId, args.datasetName, args.chunkCount, args.taskId⟩

def linkDataset (host : Dataset.Host) (args : LinkDataset) (db : Tables) :
    Except MilvusError Tables :=
  match host.lockDatasetsForConsumption args.datasets ⟨[args.datasetId], [], true, false⟩ with
  | .error e => .error (.dataset e)
  | .ok [] => .error (.valueError "list index out of range")
  | .ok (d :: _) =>
    match lockCollectionForConsumption db.collections args.collectionName d.userId with
    | .error e => .error e
    | .ok _ =>
      match db.links.insert args.row with
      | some links => .ok { db with links }
      | none => .ok { db with
          links := db.links.update (args.collectionName, args.datasetId) (relinked args)
            (key_relinked args) }

/-! ## Runs -/

/-- The tables, and what every acquisition has returned. -/
structure Registry where
  db : Tables
  acquisitions : List Acquisition

def Registry.empty : Registry := ⟨⟨Table.empty, Table.empty⟩, []⟩

/-- A call. A restoration is given what an acquisition has returned, by its number, and an owner. -/
inductive Call where
  | register (args : NewCollection) (syncTaskId : Option String)
  | reserve (args : NewCollection) (hybridEnabled : Bool)
  | activate (collectionName collectionId : String) (userId : Option String)
  | cancel (collectionName collectionId : String) (userId : Option String)
  | acquire (args : AcquireFences)
  | restore (acquisition : Nat) (deletionOwner : String)
  | delete (collectionNames : List String) (deletionOwner : String)
  | link (args : LinkDataset)

/-- The tables after a call that may raise. -/
def committed (db : Tables) : Except MilvusError Tables → Tables
  | .ok db' => db'
  | .error _ => db

def Call.apply (host : Dataset.Host) (db : Tables) : Call → Except MilvusError Tables
  | .register args syncTaskId => (registerCollection args syncTaskId db).map Prod.snd
  | .reserve args hybridEnabled => (reserveManualCollection args hybridEnabled db).map (·.2.2)
  | .activate collectionName collectionId userId =>
    activateManualCollection collectionName collectionId userId db
  | .cancel collectionName collectionId userId =>
    cancelManualCollectionCreation collectionName collectionId userId db
  | .delete collectionNames deletionOwner =>
    (deleteCollections collectionNames deletionOwner db).map Prod.snd
  | .link args => linkDataset host args db
  | .acquire args => (acquireDeletionFences args db).map Prod.snd
  | .restore _ _ => .ok db

def restoreAcquisition (deletionOwner : String) (a : Acquisition) (db : Tables) :
    Except MilvusError Tables :=
  restoreDeletionFences a.newlyFenced deletionOwner a.createdPlaceholders a.previousCreating db

/-- The state after a call; one that raises leaves the tables as they are. -/
def Registry.step (host : Dataset.Host) (s : Registry) (call : Call) : Registry :=
  match call with
  | .acquire args =>
    match acquireDeletionFences args s.db with
    | .ok (acquisition, db) => ⟨db, s.acquisitions ++ [acquisition]⟩
    | .error _ => s
  | .restore k deletionOwner =>
    match s.acquisitions[k]? with
    | none => s
    | some a => { s with db := committed s.db (restoreAcquisition deletionOwner a s.db) }
  | call => { s with db := committed s.db (call.apply host s.db) }

end Milvus
