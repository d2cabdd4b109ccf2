import TrainFactory.Evaluation.TaskService
import TrainFactory.Lib.FreshKeys
import TrainFactory.Lib.Text

/-!
# The resume state of an evaluation

`canonicalize_evaluation_resume_state` of `evaluation_runner.py`: the configs of a stored evaluation
get their canonical keys, and the stored results and progress, which may have keys of an older
scheme, move under them. Keys come from three schemes: display names, the paths of schema version 1,
and the digests of schema version 2.
-/

namespace Evaluation

open Lib

/-- The functions of the standard library that make keys and messages. -/
structure IdentityStdlib where
  /-- `str.lower`. -/
  lower : String → String
  /-- `hashlib.sha256(text.encode("utf-8")).hexdigest()`. -/
  sha256 : String → String
  /-- `repr` of a key. -/
  repr : Option String → String
  lower_lower : ∀ text, lower (lower text) = lower text
  strip_lower : ∀ text, strip text = text → strip (lower text) = lower text

/-! ## Configs -/

structure ModelConfig where
  name : Option Json
  modelName : Option Json
  /-- `_evaluation_identity`. -/
  identity : Option Json
  others : List (String × Json)

structure DatasetConfig where
  type : Option Json
  name : Option Json
  datasetId : Option Json
  path : Option Json
  resultKey : Option Json
  /-- `_evaluation_identity`. -/
  identity : Option Json
  others : List (String × Json)

def visibleText : Option Json → Option String
  | some (.str text) => if strip text = "" then none else some (strip text)
  | _ => none

def stripField : Option Json → Option Json
  | some (.str text) => some (.str (strip text))
  | value => value

def identitySchemaVersion : Nat := 2

def evaluationIdentity (resultKey : String) : Json :=
  .obj [("schema_version", .int identitySchemaVersion), ("result_key", .str resultKey)]

def canonicalEvaluationModelName (config : ModelConfig) : Except EvalError String :=
  match visibleText config.name with
  | some name => .ok name
  | none =>
    match visibleText config.modelName with
    | some name => .ok name
    | none => .error (.valueError "Evaluation model name or model_name must be non-empty")

def mtebRerankingDatasetNames : List String :=
  ["T2Reranking", "MMarcoReranking", "CMedQAv1-reranking", "CMedQAv2-reranking",
    "AskUbuntuDupQuestions", "MindSmallReranking", "SciDocsRR", "StackOverflowDupQuestions",
    "WebLINXCandidatesReranking", "BuiltBenchReranking"]

def isGiven : Option Json → Bool
  | none => false
  | some .null => false
  | some _ => true

def localOnlyFields (config : DatasetConfig) : List String :=
  (if isGiven config.datasetId then ["dataset_id"] else []) ++
    if isGiven config.path then ["path"] else []

def mtebKey (config : DatasetConfig) : Except EvalError String :=
  if localOnlyFields config = [] then
    match visibleText config.name with
    | none => .error (.valueError "MTEB evaluation dataset name must be non-empty")
    | some name =>
      if name ∈ mtebRerankingDatasetNames then .ok ("mteb:" ++ name)
      else .error (.valueError ("Unsupported MTEB evaluation dataset: " ++ name))
  else .error (.valueError ("MTEB evaluation datasets cannot include local-only fields: " ++
    ", ".intercalate (localOnlyFields config)))

def localKey (pathKey : String → String) (config : DatasetConfig) : Except EvalError String :=
  match visibleText config.datasetId with
  | some datasetId => .ok ("dataset:" ++ datasetId)
  | none =>
    match visibleText config.path with
    | some path => .ok (pathKey path)
    | none => .error (.valueError "Local evaluation dataset must have a dataset_id or managed path")

section Keys

variable (py : IdentityStdlib)

def datasetKey (pathKey : String → String) (config : DatasetConfig) : Except EvalError String :=
  match visibleText config.type with
  | none => .error (.valueError "Evaluation dataset type must be non-empty")
  | some type =>
    if py.lower type = "mteb" then mtebKey config
    else if py.lower type = "local" ∨ py.lower type = "registered" then localKey pathKey config
    else .error (.valueError ("Unsupported evaluation dataset type: " ++ py.lower type))

def canonicalEvaluationDatasetKey : DatasetConfig → Except EvalError String :=
  datasetKey py fun path => "local:sha256:" ++ py.sha256 path

def v1EvaluationDatasetKey : DatasetConfig → Except EvalError String :=
  datasetKey py fun path => "local:" ++ path

/-! ## Canonical configs -/

/-- `model_name.strip() or None`, of a text. -/
def stripOrNull : Option Json → Option Json
  | some (.str text) => some (if strip text = "" then .null else .str (strip text))
  | value => value

def stripModelConfig (raw : ModelConfig) : ModelConfig :=
  { raw with modelName := stripOrNull raw.modelName }

def labelModelConfig (canonicalName : String) (raw : ModelConfig) : ModelConfig :=
  { stripModelConfig raw with
    name := some (.str canonicalName), identity := some (evaluationIdentity canonicalName) }

def canonicalizeEvaluationModelConfigs :
    List ModelConfig → Except EvalError (List (String × ModelConfig)) :=
  freshEntries (fun raw => canonicalEvaluationModelName (stripModelConfig raw))
    (fun canonicalName raw => .ok (labelModelConfig canonicalName raw))
    (fun canonicalName =>
      .valueError ("Duplicate evaluation model identity: " ++ canonicalName)) []

/-- `dataset_type.strip().lower()`, of a text. -/
def stripType : Option Json → Option Json
  | some (.str text) => some (.str (py.lower (strip text)))
  | value => value

def stripDatasetConfig (raw : DatasetConfig) : DatasetConfig :=
  { raw with
    type := stripType py raw.type
    name := stripField raw.name
    datasetId := stripField raw.datasetId
    path := stripField raw.path }

def labelDatasetConfig (resultKey : String) (raw : DatasetConfig) : DatasetConfig :=
  { stripDatasetConfig py raw with
    resultKey := some (.str resultKey), identity := some (evaluationIdentity resultKey) }

def canonicalizeEvaluationDatasetConfigs :
    List DatasetConfig → Except EvalError (List (String × DatasetConfig)) :=
  freshEntries (fun raw => canonicalEvaluationDatasetKey py (stripDatasetConfig py raw))
    (fun resultKey raw => .ok (labelDatasetConfig py resultKey raw))
    (fun resultKey => .valueError ("Duplicate evaluation dataset identity: " ++ resultKey)) []

end Keys

/-! ## Identity markers -/

def markedVersion : Option Json → Except EvalError Nat
  | some (.obj identity) =>
    match identity.lookup "schema_version" with
    | some (.int n) =>
      if n = 1 then .ok 1 else if n = 2 then .ok 2
      else .error (.valueError "Unsupported stored evaluation identity schema version")
    | some (.float q) =>
      if q = 1 then .ok 1 else if q = 2 then .ok 2
      else .error (.valueError "Unsupported stored evaluation identity schema version")
    -- an unhashable value cannot be looked up in the set of versions
    | some (.arr _) | some (.obj _) => .error .typeError
    | _ => .error (.valueError "Unsupported stored evaluation identity schema version")
  | _ => .error (.valueError "Stored evaluation identity marker must be an object")

def markedKey : Option Json → Option String
  | some (.obj identity) =>
    match identity.lookup "result_key" with
    | some (.str key) => some key
    | _ => none
  | _ => none

def checkMarker (identity : Option Json) (expected : Except EvalError String) :
    Except EvalError Unit :=
  match expected with
  | .error error => .error error
  | .ok key =>
    if markedKey identity = some key then .ok ()
    else .error (.valueError "Stored evaluation identity key does not match its config")

def persistedIdentitySchemaVersion (py : IdentityStdlib) (models : List ModelConfig)
    (datasets : List DatasetConfig) : Except EvalError (Option Nat) :=
  let identities := models.map ModelConfig.identity ++ datasets.map DatasetConfig.identity
  if identities.all Option.isNone then .ok none
  else if identities.all Option.isSome then do
    let versions ← identities.mapM markedVersion
    match versions.dedup with
    | [version] => do
      models.forM fun config =>
        checkMarker config.identity (canonicalEvaluationModelName config)
      datasets.forM fun config =>
        checkMarker config.identity
          (if version = 1 then v1EvaluationDatasetKey py config
          else canonicalEvaluationDatasetKey py config)
      return some version
    | _ => .error (.valueError "Stored evaluation identity snapshot mixes schema versions")
  else .error (.valueError "Stored evaluation identity snapshot is incomplete")

/-! ## Stored keys -/

inductive StoredKey where
  /-- `None`. -/
  | null
  | text (key : String)
deriving DecidableEq

def legacyResultAlias : Json → List StoredKey
  | .null => [.null, .text "null"]
  | .str text => if strip text = "" then [.text text] else [.text text, .text (strip text)]
  | _ => []

def aliasesOf (key : String) (legacyValues : List Json) : Except EvalError (List StoredKey) :=
  if legacyValues.all Json.isHashable then
    .ok (.text key :: legacyValues.flatMap legacyResultAlias)
  else .error .typeError

def ModelConfig.legacyName (raw : ModelConfig) : Json :=
  match raw.name with
  | some name => name
  | none => raw.modelName.getD (.str "unknown")

def DatasetConfig.legacyName (raw : DatasetConfig) : Json :=
  raw.name.getD (raw.path.getD (.str "local"))

def modelAliases (raw : ModelConfig) (config : String × ModelConfig) :
    Except EvalError (List StoredKey) :=
  aliasesOf config.1 [raw.legacyName]

/-- `config["type"] == "mteb"`. -/
def DatasetConfig.isMteb (config : DatasetConfig) : Bool :=
  match config.type with
  | some (.str type) => type = "mteb"
  | _ => false

def datasetAliases (raw : DatasetConfig) (config : String × DatasetConfig) :
    Except EvalError (List StoredKey) :=
  if config.2.isMteb then aliasesOf config.1 [raw.name.getD .null]
  else
    match visibleText raw.path with
    | some path => aliasesOf config.1 [raw.legacyName, .str ("local:" ++ path)]
    | none => aliasesOf config.1 [raw.legacyName]

def evaluationIdentityAliases {C : Type}
    (aliases : C → String × C → Except EvalError (List StoredKey)) (raws : List C)
    (configs : List (String × C)) : Except EvalError (List (List StoredKey × String)) :=
  (raws.zip configs).mapM fun p => (aliases p.1 p.2).map fun names => (names, p.2.1)

def sourceKey (identity : Option Json) : Except EvalError String :=
  match markedKey identity with
  | some key => .ok key
  | none => .error .typeError

def authoritativeIdentityKeyMap (kind : String) :
    List (Option Json × String) → Except EvalError (List (String × String)) :=
  freshEntries (fun p => sourceKey p.1) (fun _ p => .ok p.2)
    (fun key =>
      .valueError ("Stored evaluation " ++ kind ++ " identity key collision: " ++ key)) []

section Resolve

variable (py : IdentityStdlib) (kind : String)

def storedKeyRepr : StoredKey → String
  | .null => py.repr none
  | .text key => py.repr (some key)

def resolveAlias (aliases : List (List StoredKey × String)) (stored : StoredKey) :
    Except EvalError String :=
  match ((aliases.filter fun entry => stored ∈ entry.1).map Prod.snd).dedup with
  | [] => .error (.valueError
      ("Unknown stored evaluation " ++ kind ++ " key: " ++ storedKeyRepr py stored))
  | [key] => .ok key
  | _ => .error (.valueError
      ("Ambiguous legacy evaluation " ++ kind ++ " key: " ++ storedKeyRepr py stored))

def resolveMarked (keyMap : List (String × String)) (stored : StoredKey) :
    Except EvalError String :=
  match keyMap.find? fun entry => stored = .text entry.1 with
  | some entry => .ok entry.2
  | none => .error (.valueError
      ("Unknown stored evaluation " ++ kind ++ " key: " ++ storedKeyRepr py stored))

/-- `resolve_key` of configs: versioned configs have authoritative keys. -/
def resolverOf {C : Type} (identity : C → Option Json) (version : Option Nat)
    (aliases : List (List StoredKey × String)) (raws : List C) (configs : List (String × C)) :
    Except EvalError (StoredKey → Except EvalError String) :=
  match version with
  | none => .ok (resolveAlias py kind aliases)
  | some _ =>
    (authoritativeIdentityKeyMap kind
      ((raws.zip configs).map fun p => (identity p.1, p.2.1))).map (resolveMarked py kind)

end Resolve

/-! ## Stored matrices -/

inductive StoredRow where
  /-- No dictionary. -/
  | other
  | entries (datasets : List (StoredKey × Json))

inductive StoredMatrix where
  /-- `None`. -/
  | null
  /-- No dictionary. -/
  | other
  | entries (models : List (StoredKey × StoredRow))

abbrev KeyMatrix := List (String × List (String × Json))

def resolveDatasetKey (fieldName : String) (resolve : StoredKey → Except EvalError String)
    (stored : StoredKey) : Except EvalError String :=
  if fieldName = "results" ∧ stored = .text "_error" then .ok "_error" else resolve stored

def migrateDatasets (fieldName modelKey : String)
    (resolve : StoredKey → Except EvalError String) :
    List (StoredKey × Json) → Except EvalError (List (String × Json)) :=
  freshEntries (fun stored => resolveDatasetKey fieldName resolve stored.1)
    (fun _ stored => .ok stored.2)
    (fun key => .valueError ("Stored evaluation " ++ fieldName ++ " dataset key collision: " ++
      modelKey ++ "/" ++ key)) []

def migrateRow (fieldName : String) (resolveDataset : StoredKey → Except EvalError String)
    (modelKey : String) : StoredRow → Except EvalError (List (String × Json))
  | .other => .error (.valueError
      ("Stored evaluation " ++ fieldName ++ " entry for " ++ modelKey ++ " must be an object"))
  | .entries datasets => migrateDatasets fieldName modelKey resolveDataset datasets

def migrateModels (fieldName : String)
    (resolveModel resolveDataset : StoredKey → Except EvalError String) :
    List (StoredKey × StoredRow) → Except EvalError KeyMatrix :=
  freshEntries (fun stored => resolveModel stored.1)
    (fun modelKey stored => migrateRow fieldName resolveDataset modelKey stored.2)
    (fun key =>
      .valueError ("Stored evaluation " ++ fieldName ++ " model key collision: " ++ key)) []

def migrateEvaluationKeyMatrix (fieldName : String)
    (resolveModel resolveDataset : StoredKey → Except EvalError String) :
    StoredMatrix → Except EvalError KeyMatrix
  | .null => .ok []
  | .other => .error (.valueError ("Stored evaluation " ++ fieldName ++ " must be an object"))
  | .entries models => migrateModels fieldName resolveModel resolveDataset models

/-! ## The resume state -/

/-- `matrix.get(model_key, {}).get(dataset_key)`. -/
def KeyMatrix.entry (matrix : KeyMatrix) (modelKey datasetKey : String) : Option Json :=
  (matrix.lookup modelKey).bind fun row => row.lookup datasetKey

def pairProgressEntry (result : Option Json) : Json :=
  if isSuccessfulResult result then .obj [("progress", .int 100), ("status", .str "completed")]
  else .obj [("progress", .int 0), ("status", .str "pending")]

def reconciledProgress (modelConfigs : List (String × ModelConfig))
    (datasetConfigs : List (String × DatasetConfig)) (results : KeyMatrix) : KeyMatrix :=
  modelConfigs.map fun model =>
    (model.1, datasetConfigs.map fun dataset =>
      (dataset.1, pairProgressEntry (KeyMatrix.entry results model.1 dataset.1)))

/-- What `canonicalize_evaluation_resume_state` returns; each config with its key. -/
structure ResumeState where
  modelConfigs : List (String × ModelConfig)
  datasetConfigs : List (String × DatasetConfig)
  results : KeyMatrix
  modelProgress : KeyMatrix
  sourceIdentitySchemaVersion : Option Nat

def canonicalizeEvaluationResumeState (py : IdentityStdlib) (models : List ModelConfig)
    (datasets : List DatasetConfig) (results modelProgress : StoredMatrix)
    (canonicalModels : Option (List ModelConfig))
    (canonicalDatasets : Option (List DatasetConfig)) : Except EvalError ResumeState := do
  let version ← persistedIdentitySchemaVersion py models datasets
  let modelConfigs ← canonicalizeEvaluationModelConfigs (canonicalModels.getD models)
  let datasetConfigs ← canonicalizeEvaluationDatasetConfigs py (canonicalDatasets.getD datasets)
  let modelNames ← evaluationIdentityAliases modelAliases models modelConfigs
  let datasetNames ← evaluationIdentityAliases datasetAliases datasets datasetConfigs
  let resolveModel ←
    resolverOf py "model" ModelConfig.identity version modelNames models modelConfigs
  let resolveDataset ←
    resolverOf py "dataset" DatasetConfig.identity version datasetNames datasets datasetConfigs
  let migrated ← migrateEvaluationKeyMatrix "results" resolveModel resolveDataset results
  let _ ← migrateEvaluationKeyMatrix "model progress" resolveModel resolveDataset modelProgress
  return {
    modelConfigs := modelConfigs
    datasetConfigs := datasetConfigs
    results := migrated
    modelProgress := reconciledProgress modelConfigs datasetConfigs migrated
    sourceIdentitySchemaVersion := version }

end Evaluation
