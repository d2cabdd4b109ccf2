import TrainFactory.Registry.Entities

/-!
# Membership of the model registry

`register_model`, `add_version` and the final transaction of `delete_model`. The membership gate is
the first lock of each, so that the rows a transaction reads are those it locks.
-/

namespace Registry

open Lib

/-- What the transactions depend on besides the rows. -/
structure Host where
  collation : Collation
  /-- `_normalize_artifact_path`. -/
  normalizeArtifactPath : String → Except RegistryError (Option String)
  /-- `_artifact_paths_overlap`. -/
  artifactPathsOverlap : String → String → Except RegistryError Bool
  /-- `hash_path(path, salt)`. -/
  hashPath : String → Option String → String
  /-- `os.path.exists`. -/
  pathExists : String → Bool
  /-- The bytes of the file, or of the files below the directory, at a path. -/
  pathSize : String → Option Nat
  /-- `_split_metrics`: the numeric metrics and the others. -/
  splitMetrics : Option Json → Option Json × Option Json
  /-- `str(value)`. -/
  str : Json → String

variable (host : Host)

/-- `belongs_to_family`, on the texts themselves. -/
def belongsToFamily (modelName : String) (userId : Option String) (m : ModelRow) : Bool :=
  m.modelName = modelName && m.userId = userId

/-- The `WHERE` clause of a family, under the collation. -/
def Host.isFamily (modelName : String) (userId : Option String) (m : ModelRow) : Bool :=
  host.collation.same m.modelName modelName && host.collation.sameOrNull m.userId userId

def Host.ownsProspectivePath (paths : List String) (m : ModelRow) : Except RegistryError Bool :=
  paths.anyM fun path => host.artifactPathsOverlap path m.modelPath

def Host.canonicalPaths (paths : List String) : Except RegistryError (List String) :=
  paths.filterM fun path => return truthy (← host.normalizeArtifactPath path)

def Host.lockRegistryMembershipWriteScope (models : Table ModelRow) (modelName : String)
    (userId : Option String) (artifactPaths : List String) (requiredModelId : Option String) :
    Except RegistryError (List ModelRow) := do
  let paths ← host.canonicalPaths artifactPaths
  if requiredModelId.any fun id => !models.rows.any fun m => m.modelId = id then pure []
  else
    let locked ← models.rows.filterM fun m => do
      let owns ← host.ownsProspectivePath paths m
      pure (some m.modelId = requiredModelId || belongsToFamily modelName userId m || owns)
    match locked.find? fun m => m.status = "deleting" || m.intentToken.isSome with
    | some m => .error (.modelDeletionInProgress ("Model is being deleted: " ++ m.modelId))
    | none => pure locked

/-- The columns of the `UPDATE` that takes the latest member of a family back. -/
def notLatest (m : ModelRow) : ModelRow := { m with isLatest := false }

theorem key_notLatest (m : ModelRow) : Keyed.key (notLatest m) = Keyed.key m := rfl

/-- `UPDATE model_registry SET is_latest = false` of a family. -/
def Host.demoteFamily (modelName : String) (userId : Option String) (models : Table ModelRow) :
    Table ModelRow :=
  models.updateWhere (fun m => host.isFamily modelName userId m && m.isLatest) notLatest
    key_notLatest

/-- `uq_model_user_name_version` and `uq_model_path_hash`, against the other rows. -/
def Host.violatesModels (models : Table ModelRow) (row : ModelRow) : Bool :=
  models.rows.any fun m => m.modelId ≠ row.modelId &&
    ((m.userId.isSome && host.isFamily row.modelName row.userId m &&
        host.collation.same m.version row.version) ||
      (m.modelPathHash.isSome && host.collation.sameOrNull m.modelPathHash row.modelPathHash))

def Host.insertVersion (versions : Table VersionRow) (v : VersionRow) :
    Except RegistryError (Table VersionRow) :=
  if versions.rows.any fun v' =>
      v'.modelId = v.modelId && host.collation.same v'.version v.version then
    .error .integrityError
  else
    match versions.insert v with
    | some versions => .ok versions
    | none => .error .integrityError

def Host.insertModel (models : Table ModelRow) (m : ModelRow) :
    Except RegistryError (Table ModelRow) :=
  if host.violatesModels models m then .error .integrityError
  else
    match models.insert m with
    | some models => .ok models
    | none => .error .integrityError

/-! ## `register_model` -/

/-- The arguments of `register_model`, and the ids that the two new rows get. -/
structure RegisterModel where
  modelName : String
  modelPath : String
  modelType : String
  version : String
  sourceTaskId : Option String
  baseModelPath : Option String
  description : Option String
  tags : Option Json
  category : Option String
  extraMetadata : Option Json
  metrics : Option Json
  userId : Option String
  status : Option String
  sourceType : Option String
  pathUniqueKey : Option String
  isAdapter : Bool
  modelId : String
  versionId : String

def entries (extraMetadata : Option Json) : List (String × Json) :=
  match extraMetadata with
  | some (.obj kvs) => kvs
  | _ => []

def withRawMetrics (extraMetadata rawMetrics : Option Json) : Option Json :=
  match rawMetrics with
  | some raw => some (.obj (Json.setEntry (entries extraMetadata) "_metrics_raw" raw))
  | none => extraMetadata

def Host.newModel (args : RegisterModel) : ModelRow where
  modelId := args.modelId
  modelName := args.modelName
  version := args.version
  modelType := args.modelType
  sourceTaskId := args.sourceTaskId
  baseModelPath := args.baseModelPath
  modelPath := args.modelPath
  modelPathHash := some (host.hashPath args.modelPath args.pathUniqueKey)
  sourceType := if truthy args.sourceType then args.sourceType.getD "" else "trained"
  isAdapter := args.isAdapter
  downloadStatus := none
  description := args.description
  tags := args.tags
  category := args.category
  extraMetadata := withRawMetrics args.extraMetadata (host.splitMetrics args.metrics).2
  metrics := (host.splitMetrics args.metrics).1
  fileSize := if host.pathExists args.modelPath then host.pathSize args.modelPath else none
  status := args.status.getD (if host.pathExists args.modelPath then "available" else "registered")
  isLatest := true
  userId := args.userId

def Host.initialVersion (args : RegisterModel) : VersionRow where
  versionId := args.versionId
  modelId := args.modelId
  version := args.version
  modelPath := args.modelPath
  changelog := some "Initial registration"
  metrics := (host.splitMetrics args.metrics).1

def Host.registerModel (args : RegisterModel) (db : Tables) : Except RegistryError Tables :=
  if isReserved args.extraMetadata then
    .error (.valueError "model delete intent metadata is reserved")
  else do
    let _ ← host.lockRegistryMembershipWriteScope db.models args.modelName args.userId
      [args.modelPath] none
    let models ← host.insertModel (host.demoteFamily args.modelName args.userId db.models)
      (host.newModel args)
    let versions ← host.insertVersion db.versions (host.initialVersion args)
    pure ⟨models, versions⟩

/-! ## `add_version` -/

/-- The arguments of `add_version`, and the id of the new entry. -/
structure AddVersion where
  modelId : String
  version : String
  modelPath : String
  changelog : Option String
  metrics : Option Json
  setAsLatest : Bool
  versionId : String

def Host.pathUniqueKeyForModel (m : ModelRow) : Option String :=
  if m.sourceType = "external_bind" then
    match (entries m.extraMetadata).lookup "bound_model_uid" with
    | some uid =>
      if uid.truthy then some (host.str uid)
      else if m.modelName ≠ "" then some m.modelName else some m.modelId
    | none => if m.modelName ≠ "" then some m.modelName else some m.modelId
  else none

def Host.versionPathKey (m : ModelRow) : Option String :=
  match host.pathUniqueKeyForModel m with
  | some key => some key
  | none =>
    match m.modelPathHash with
    | some hash =>
      if hash ≠ "" ∧ hash ≠ host.hashPath m.modelPath none then some m.modelId else none
    | none => none

def Host.withVersion (args : AddVersion) (m : ModelRow) : ModelRow :=
  { m with
    extraMetadata := withRawMetrics m.extraMetadata (host.splitMetrics args.metrics).2
    version := args.version
    modelPath := args.modelPath
    modelPathHash := some (host.hashPath args.modelPath (host.versionPathKey m))
    metrics := (host.splitMetrics args.metrics).1
    isLatest := true }

theorem key_withVersion (args : AddVersion) (m : ModelRow) :
    Keyed.key (host.withVersion args m) = Keyed.key m := rfl

def Host.newVersion (args : AddVersion) : VersionRow where
  versionId := args.versionId
  modelId := args.modelId
  version := args.version
  modelPath := args.modelPath
  changelog := args.changelog
  metrics := (host.splitMetrics args.metrics).1

/-- `add_version`; `none` where the model does not exist. -/
def Host.addVersion (args : AddVersion) (db : Tables) : Except RegistryError (Option Tables) :=
  match db.models.lookup args.modelId with
  | none => .ok none
  | some candidate => do
    let family ← host.lockRegistryMembershipWriteScope db.models candidate.modelName
      candidate.userId [args.modelPath] (some args.modelId)
    match family.find? fun m => m.modelId = args.modelId with
    | none => pure none
    | some model =>
      let versions ← host.insertVersion db.versions (host.newVersion args)
      if args.setAsLatest then
        if host.violatesModels db.models (host.withVersion args model) then .error .integrityError
        else
          let demoted := host.demoteFamily model.modelName model.userId db.models
          pure (some ⟨demoted.update args.modelId (host.withVersion args)
            (key_withVersion host args), versions⟩)
      else pure (some ⟨db.models, versions⟩)

/-! ## The final transaction of `delete_model` -/

def removeModel (modelId : String) (db : Tables) : Tables where
  models := db.models.deleteWhere fun m => m.modelId = modelId
  versions := db.versions.deleteWhere fun v => v.modelId = modelId

/-! ## Runs -/

/-- A registration, a new version, or a deletion that succeeds. -/
inductive Op where
  | registerModel (args : RegisterModel)
  | addVersion (args : AddVersion)
  | deleteModel (modelId : String)

/-- The tables after an operation; one that raises leaves them as they are. -/
def Host.step (db : Tables) : Op → Tables
  | .registerModel args =>
    match host.registerModel args db with
    | .ok db' => db'
    | .error _ => db
  | .addVersion args =>
    match host.addVersion args db with
    | .ok (some db') => db'
    | _ => db
  | .deleteModel modelId => removeModel modelId db

def Host.designates (db : Tables) : Op → List String
  | .registerModel args =>
    match host.registerModel args db with
    | .ok _ => [args.modelId]
    | .error _ => []
  | .addVersion args =>
    match host.addVersion args db with
    | .ok (some _) => if args.setAsLatest then [args.modelId] else []
    | _ => []
  | .deleteModel _ => []

end Registry
