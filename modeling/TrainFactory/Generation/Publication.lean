import TrainFactory.Generation.TaskService

/-!
# The publication of an attempt

`GenerationPublicationService`: `stage_dataset` makes a product that nothing can consume yet,
`complete_publication` makes all products of an attempt visible and completes its task, and
`compensate_attempt` removes what an attempt has staged.
-/

namespace Generation

open Lib
open Dataset (DatasetRow DatasetStatus)

/-! ## Staging -/

/-- The arguments of `stage_dataset`. `nameFree` says that no other dataset of the user has the
name of this one, which is `UNIQUE`. -/
structure StageDataset where
  taskId : String
  expectedRunToken : String
  datasetId : String
  nameFree : Bool
  storagePath : String
  sourceDatasetId : Option String
  relationType : String
  fileFormat : String
  numRows : Option Int
  fileSize : Option Int
  userId : Option String

def StageDataset.row (host : Host) (args : StageDataset) : DatasetRow where
  datasetId := args.datasetId
  storageBackend := "local"
  storagePath := some args.storagePath
  storagePathHash := some (host.hashPath args.storagePath)
  storageUri := none
  status := .staging
  deletionOwner := none
  errorMessage := none
  userId := args.userId
  sourceTaskType := some "generation"
  sourceTaskId := some args.taskId
  generationRunToken := some args.expectedRunToken

def StageDataset.owns (args : StageDataset) (d : DatasetRow) : Bool :=
  d.datasetId = args.datasetId && d.status = .staging && d.sourceTaskType = some "generation" &&
    d.sourceTaskId = some args.taskId && d.generationRunToken = some args.expectedRunToken &&
    d.userId = args.userId && d.storagePath = some args.storagePath

def StageDataset.asset (args : StageDataset) : AssetRow where
  datasetId := args.datasetId
  assetType := "data"
  storageUri := args.storagePath
  fileFormat := args.fileFormat
  rowCount := args.numRows
  byteSize := args.fileSize

def StageDataset.edge (host : Host) (args : StageDataset) : LineageEdge where
  edgeKey := host.lineageEdgeKey args.sourceDatasetId args.datasetId args.relationType
  fromDatasetId := args.sourceDatasetId
  toDatasetId := args.datasetId
  relationType := args.relationType
  opTaskType := some "generation"
  opTaskId := some args.taskId

def isPublishing (runToken : String) (t : GenerationTask) : Bool :=
  t.status = .publishing && t.runToken = some runToken

/-- The dataset of a staging: the existing row, or the inserted one; `none` where it is refused. -/
def stageRow (host : Host) (args : StageDataset) (db : Database) : Option Database :=
  match db.datasets.rows.find? fun d => d.datasetId = args.datasetId ||
      d.storagePathHash = some (host.hashPath args.storagePath) with
  | some existing => if args.owns existing then some db else none
  | none =>
    if ¬ args.nameFree then none
    else (db.datasets.insert (args.row host)).map fun datasets => { db with datasets := datasets }

def stageAsset (args : StageDataset) (db : Database) : Database :=
  if db.assets.any fun a => a.datasetId = args.datasetId && a.assetType = "data" &&
      a.storageUri = args.storagePath then db
  else { db with assets := db.assets ++ [args.asset] }

/-- The lineage of a staging; `none` where the edge is another's. -/
def stageEdge (host : Host) (args : StageDataset) (db : Database) : Option Database :=
  match db.edges.lookup (args.edge host).edgeKey with
  | none => (db.edges.insert (args.edge host)).map fun edges => { db with edges := edges }
  | some edge =>
    if edge.toDatasetId = args.datasetId ∧ edge.opTaskType = some "generation" ∧
        edge.opTaskId = some args.taskId then some db
    else none

def stageDataset (host : Host) (args : StageDataset) (db : Database) : Option String × Database :=
  if args.expectedRunToken = "" then (none, db)
  else
    match taskWhere db args.taskId (isPublishing args.expectedRunToken) with
    | none => (none, db)
    | some task =>
      if task.userId ≠ args.userId then (none, db)
      else
        match (stageRow host args db).bind fun db' => stageEdge host args (stageAsset args db') with
        | none => (none, db)
        | some db' => (some args.datasetId, db')

/-! ## Completion -/

/-- The columns that bind a product; `other` is any other name. -/
inductive BindingField where
  | outputDatasetId | qaDatasetId | qaFilteredDatasetId | deepEvalDatasetId
  | other (name : String)
deriving DecidableEq

def datasetBindingFields : List BindingField :=
  [.outputDatasetId, .qaDatasetId, .qaFilteredDatasetId, .deepEvalDatasetId]

def GenerationTask.binding (t : GenerationTask) : BindingField → Option String
  | .outputDatasetId => t.outputDatasetId
  | .qaDatasetId => t.qaDatasetId
  | .qaFilteredDatasetId => t.qaFilteredDatasetId
  | .deepEvalDatasetId => t.deepEvalDatasetId
  | .other _ => none

def GenerationTask.bind (t : GenerationTask) (field : BindingField) (datasetId : String) :
    GenerationTask :=
  match field with
  | .outputDatasetId => { t with outputDatasetId := some datasetId }
  | .qaDatasetId => { t with qaDatasetId := some datasetId }
  | .qaFilteredDatasetId => { t with qaFilteredDatasetId := some datasetId }
  | .deepEvalDatasetId => { t with deepEvalDatasetId := some datasetId }
  | .other _ => t

/-- An update of an artifact column with its value; `other` is any other name. -/
inductive ArtifactUpdate where
  | outputPath (value : Option String)
  | outputSampleCount (value : Int)
  | qaOutputPath (value : Option String)
  | qaFilteredPath (value : Option String)
  | deepEvalPath (value : Option String)
  | filterStats (value : Option Json)
  | milvusCollection (value : Option String)
  | processedDocs (value : Int)
  | totalDocs (value : Int)
  | progress (value : Rat)
  | other (name : String)

def ArtifactUpdate.isAllowed : ArtifactUpdate → Bool
  | .other _ => false
  | _ => true

def GenerationTask.writeArtifact (t : GenerationTask) : ArtifactUpdate → GenerationTask
  | .outputPath value => { t with outputPath := value }
  | .outputSampleCount value => { t with outputSampleCount := value }
  | .qaOutputPath value => { t with qaOutputPath := value }
  | .qaFilteredPath value => { t with qaFilteredPath := value }
  | .deepEvalPath value => { t with deepEvalPath := value }
  | .filterStats value => { t with filterStats := value }
  | .milvusCollection value => { t with milvusCollection := value }
  | .processedDocs value => { t with processedDocs := value }
  | .totalDocs value => { t with totalDocs := value }
  | .progress value => { t with progress := value }
  | .other _ => t

/-- The `milvus_registration` of a publication. `claimants` are the sync tasks that reserve the name
of the collection, `collectionId` is the `uuid4` of a new row. -/
structure Registration where
  collectionName : Option String
  datasetId : Option String
  userId : Option String
  embeddingConfigId : Option String
  embeddingModel : Option String
  embeddingEndpoint : Option String
  dim : Option Int
  metricType : Option String
  hybridEnabled : Option Bool
  claimants : List String
  collectionId : String

def Registration.row (r : Registration) (collectionName taskId runToken : String) :
    CollectionRow where
  collectionId := r.collectionId
  collectionName := collectionName
  displayName := none
  description := none
  embeddingConfigId := r.embeddingConfigId
  embeddingModel := r.embeddingModel
  embeddingEndpoint := r.embeddingEndpoint
  dim := if r.dim = some 0 then 1024 else r.dim.getD 1024
  metricType := if r.metricType = some "" then "COSINE" else r.metricType.getD "COSINE"
  hybridEnabled := some (r.hybridEnabled.getD false)
  status := .creating
  deletionOwner := none
  syncTaskId := none
  userId := r.userId
  generationTaskId := some taskId
  generationRunToken := some runToken

def upper (s : String) : String := String.ofList (s.toList.map Char.toUpper)

def Registration.accepts (r : Registration) (c : CollectionRow) : Bool :=
  c.userId = r.userId && c.deletionOwner = none && c.syncTaskId = none &&
    (r.embeddingConfigId = none || c.embeddingConfigId = r.embeddingConfigId) &&
    (r.embeddingModel = none || c.embeddingModel = r.embeddingModel) &&
    (r.embeddingEndpoint = none || c.embeddingEndpoint = r.embeddingEndpoint) &&
    r.dim.all (c.dim = ·) &&
    r.metricType.all (fun metric => upper c.metricType = upper metric) &&
    (r.hybridEnabled = none || c.hybridEnabled = r.hybridEnabled)

def isCreatedBy (taskId runToken : String) (userId : Option String) (c : CollectionRow) : Bool :=
  c.status = .creating && c.generationTaskId = some taskId &&
    c.generationRunToken = some runToken && c.userId = userId

def activated (c : CollectionRow) : CollectionRow :=
  { c with status := if c.status = .creating then .active else c.status }

theorem key_activated (c : CollectionRow) : Keyed.key (activated c) = Keyed.key c := rfl

/-- The collections after a registration; `none` where it is refused. -/
def registeredCollections (db : Database) (r : Registration) (collectionName taskId : String)
    (runToken : String) : Option (Table CollectionRow) :=
  match db.collections.lookup collectionName with
  | none => (db.collections.insert (r.row collectionName taskId runToken)).map
      fun collections => collections.update collectionName activated key_activated
  | some c =>
    if c.status = .active then if r.accepts c then some db.collections else none
    else if isCreatedBy taskId runToken r.userId c then
      some (db.collections.update collectionName activated key_activated)
    else none

def registeredLinks (db : Database) (collectionName datasetId taskId runToken : String) :
    Option (Table LinkRow) :=
  match db.links.lookup (collectionName, datasetId) with
  | some _ => some db.links
  | none => db.links.insert ⟨collectionName, datasetId, some taskId, some runToken⟩

def prepareCollectionRegistration (db : Database) (task : GenerationTask) (runToken : String)
    (r : Registration) : Option Database :=
  match r.collectionName, r.datasetId with
  | some collectionName, some datasetId =>
    if collectionName = "" ∨ datasetId = "" ∨ r.userId ≠ task.userId then none
    else if r.claimants ≠ [] then none
    else if ¬ (db.datasets.lookup datasetId).any
        (fun d => d.status = .ready && d.userId = r.userId) then none
    else
      match registeredCollections db r collectionName task.taskId runToken,
          registeredLinks db collectionName datasetId task.taskId runToken with
      | some collections, some links => some { db with collections := collections, links := links }
      | _, _ => none
  | _, _ => none

/-- The arguments of `complete_publication`. `embeddingLocked` is the answer of the lock on the
embedding configuration that the registration names. -/
structure CompletePublication where
  taskId : String
  expectedRunToken : String
  datasetBindings : List (BindingField × Option String)
  /-- The bindings are a `dict`. -/
  distinctFields : (datasetBindings.map Prod.fst).Nodup
  milvusRegistration : Option Registration
  artifactUpdates : List ArtifactUpdate
  embeddingLocked : Bool
  now : Nat

def CompletePublication.bindings (args : CompletePublication) : List (BindingField × String) :=
  args.datasetBindings.filterMap fun (field, datasetId) =>
    if truthy datasetId then datasetId.map (field, ·) else none

def isStaged (taskId : String) (runToken : Option String) (d : DatasetRow) : Bool :=
  isProductOf taskId d && d.generationRunToken = runToken && d.status = .staging

/-- A staged dataset has its asset, at its place, and its lineage. -/
def isDocumented (db : Database) (taskId : String) (d : DatasetRow) : Bool :=
  (db.assets.find? fun a => a.datasetId = d.datasetId && a.assetType = "data").any
      (fun a => some a.storageUri = if truthy d.storageUri then d.storageUri else d.storagePath) &&
    db.edges.rows.any fun e => e.toDatasetId = d.datasetId && e.opTaskType = some "generation" &&
      e.opTaskId = some taskId

def published (d : DatasetRow) : DatasetRow := { d with status := .ready }

theorem key_published (d : DatasetRow) : Keyed.key (published d) = Keyed.key d := rfl

/-- Make the staged datasets of an attempt ready. -/
def publishDatasets (taskId runToken : String) (db : Database) : Database :=
  { db with
    datasets := db.datasets.updateWhere (isStaged taskId (some runToken)) published key_published }

def CompletePublication.values (args : CompletePublication) (t : GenerationTask) :
    GenerationTask :=
  let completed := { t with
    status := .completed
    completedAt := some args.now
    errorMessage := none }
  args.artifactUpdates.foldl GenerationTask.writeArtifact
    (args.bindings.foldl (fun t (field, datasetId) => t.bind field datasetId) completed)

def CompletePublication.register (args : CompletePublication) (task : GenerationTask)
    (db : Database) : Option Database :=
  match args.milvusRegistration with
  | none => some db
  | some r => prepareCollectionRegistration db task args.expectedRunToken r

/-- The lock on the embedding configuration of the registration fails. -/
def CompletePublication.embeddingRefused (args : CompletePublication) : Bool :=
  args.milvusRegistration.any fun r => truthy r.embeddingConfigId && !args.embeddingLocked

def completePublication (args : CompletePublication) (db : Database) : Outcome Bool :=
  if args.expectedRunToken = "" then .ok (false, db)
  else if ¬ args.datasetBindings.all fun (field, _) => datasetBindingFields.contains field then
    .error (.valueError "Invalid generation dataset binding")
  else if args.embeddingRefused then .ok (false, db)
  else
    match taskWhere db args.taskId (isPublishing args.expectedRunToken) with
    | none => .ok (false, db)
    | some task =>
      let staged := db.datasets.select (isStaged args.taskId (some args.expectedRunToken))
      let stagedIds := staged.map DatasetRow.datasetId
      let expectedIds := args.bindings.map Prod.snd
      if ¬ (stagedIds.all (· ∈ expectedIds) && expectedIds.all (· ∈ stagedIds)) then
        .ok (false, db)
      else if staged.any fun d => d.userId ≠ task.userId then .ok (false, db)
      else if ¬ staged.all (isDocumented db args.taskId) then .ok (false, db)
      else
        match args.register task db with
        | none => .ok (false, db)
        | some db' =>
          if ¬ args.artifactUpdates.all ArtifactUpdate.isAllowed then .ok (false, db)
          else
            .ok (updateIf (publishDatasets args.taskId args.expectedRunToken db') args.taskId
              (isPublishing args.expectedRunToken) args.values)

/-! ## Compensation -/

structure CompensateAttempt where
  taskId : String
  expectedRunToken : Option String
  userId : Option String
  recoveryRunToken : Option String := none

def CompensateAttempt.owns (args : CompensateAttempt) (t : GenerationTask) : Bool :=
  t.status = .publishing && t.runToken = args.expectedRunToken ||
    truthy args.recoveryRunToken && t.status = .recovering &&
      t.runToken = args.recoveryRunToken ||
    terminalStatuses.contains t.status && t.runToken = args.expectedRunToken

def CompensateAttempt.staged (args : CompensateAttempt) (db : Database) : List DatasetRow :=
  db.datasets.select fun d =>
    isStaged args.taskId args.expectedRunToken d && d.userId = args.userId

def CompensateAttempt.creates (args : CompensateAttempt) (c : CollectionRow) : Bool :=
  c.generationTaskId = some args.taskId && c.generationRunToken = args.expectedRunToken &&
    c.status = .creating

def compensateAttempt (args : CompensateAttempt) (db : Database) : Bool × Database :=
  if (taskWhere db args.taskId args.owns).isNone then (false, db)
  else
    let datasetIds := (args.staged db).map DatasetRow.datasetId
    if datasetIds = [] then (true, db)
    else if db.links.rows.any fun l => l.datasetId ∈ datasetIds then (false, db)
    else
      (true, { db with
        assets := db.assets.filter fun a => ¬ a.datasetId ∈ datasetIds
        edges := db.edges.deleteWhere fun e => e.toDatasetId ∈ datasetIds
        datasets := db.datasets.deleteWhere fun d => d.datasetId ∈ datasetIds &&
          d.status = .staging && d.generationRunToken = args.expectedRunToken
        collections := db.collections.deleteWhere args.creates })

/-! ## Runs -/

inductive Op where
  | claimRunning (available : Bool) (taskId : String) (expectedRunToken : Option (Option String))
      (legacyRunToken : String) (now : Nat)
  | claimOrphanRecovery (taskId : String) (expectedStatus : GenerationStatus)
      (expectedRunToken : Option (Option String)) (legacyRecoveryToken : String)
  | finishOrphanRecovery (taskId expectedRunToken : String) (terminalStatus : GenerationStatus)
      (errorMessage : Option String) (now : Nat)
  | beginRestart (available : Bool) (taskId : String) (expectedRunToken : Option (Option String))
      (newRunToken : String) (requireSourceDataset : Bool)
  | finishRestart (taskId expectedRunToken outputPath : String)
  | failRestart (taskId expectedRunToken errorMessage : String) (now : Nat)
  | updateStatus (args : UpdateStatus)
  | stageDataset (args : StageDataset)
  | completePublication (args : CompletePublication)
  | compensateAttempt (args : CompensateAttempt)

def Op.apply (host : Host) (db : Database) : Op → Database
  | .claimRunning available taskId expectedRunToken legacyRunToken now =>
    (Generation.claimRunning available taskId expectedRunToken legacyRunToken now db).commit db
  | .claimOrphanRecovery taskId expectedStatus expectedRunToken legacyRecoveryToken =>
    (Generation.claimOrphanRecovery taskId expectedStatus expectedRunToken legacyRecoveryToken
      db).commit db
  | .finishOrphanRecovery taskId expectedRunToken terminalStatus errorMessage now =>
    (Generation.finishOrphanRecovery taskId expectedRunToken terminalStatus errorMessage now
      db).commit db
  | .beginRestart available taskId expectedRunToken newRunToken requireSourceDataset =>
    (Generation.beginRestart available taskId expectedRunToken newRunToken requireSourceDataset
      db).commit db
  | .finishRestart taskId expectedRunToken outputPath =>
    (Generation.finishRestart taskId expectedRunToken outputPath db).commit db
  | .failRestart taskId expectedRunToken errorMessage now =>
    (Generation.failRestart taskId expectedRunToken errorMessage now db).commit db
  | .updateStatus args => (Generation.updateStatus host args db).commit db
  | .stageDataset args => (Generation.stageDataset host args db).2
  | .completePublication args => (Generation.completePublication args db).commit db
  | .compensateAttempt args => (Generation.compensateAttempt args db).2

/-- The token that a transaction may hand out. -/
def Op.newToken : Op → Option String
  | .claimRunning _ _ _ legacyRunToken _ => some legacyRunToken
  | .claimOrphanRecovery _ _ _ legacyRecoveryToken => some legacyRecoveryToken
  | .beginRestart _ _ _ newRunToken _ => some newRunToken
  | .updateStatus args => some args.newRunToken
  | _ => none

end Generation
