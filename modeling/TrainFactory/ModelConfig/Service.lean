import TrainFactory.ModelConfig.Entities

/-!
# The model config service

`create_config`, `create_config_async`, `update_config`, `set_default`, `update_check_status` and
`delete_config`. Each is one transaction on the table of configs.
-/

namespace ModelConfig

open Lib

def modelTypeAliases : List (String × String) := [("reranker", "rerank")]

def normalizeModelType (modelType : String) : String :=
  (modelTypeAliases.lookup modelType).getD modelType

/-- What is read of the result of a connectivity check. -/
structure Validation where
  valid : Bool
  error : Option String

/-- The arguments of a connectivity check. -/
structure Probe where
  provider : String
  apiEndpoint : String
  apiKey : Option String
  modelName : String
  providerConfig : Option Json
  userId : Option String

/-- What an operation meets outside the table of configs. -/
structure Host where
  /-- `normalize_api_endpoint`, with the message of its `ValueError`. -/
  normalizeApiEndpoint : String → String → Option String → Except String String
  /-- `validate_config`. -/
  validateConfig : Probe → Validation
  /-- `validate_config_async`. -/
  validateConfigAsync : Probe → Validation
  /-- `lock_model_reference`. -/
  lockModelReference : String → Except ConfigError Unit
  /-- The deployments, before the endpoint is checked. -/
  deployments : Deployments
  /-- The deployments, locked in the transaction that inserts the config. -/
  lockedDeployments : Deployments
  /-- The locks and the consumers that `delete_config` looks at. -/
  dependencies : String → Except ConfigError Unit
  /-- `now_naive()`. -/
  now : Nat

def violatesName (configs : Table ConfigRow) (row : ConfigRow) : Bool :=
  configs.rows.any fun c => c.configId ≠ row.configId && c.userId.isSome &&
    c.userId = row.userId && c.configName = row.configName

/-- The columns of the `UPDATE` that takes a default back. -/
def notDefault (c : ConfigRow) : ConfigRow := { c with isDefault := false }

theorem key_notDefault (c : ConfigRow) : Keyed.key (notDefault c) = Keyed.key c := rfl

/-- The filter of `_unset_defaults`: a falsy user selects the rows of every user. -/
def isUnset (modelType : String) (userId : Option String) (c : ConfigRow) : Bool :=
  c.modelType = modelType && c.isDefault && (!truthy userId || c.userId = userId)

def unsetDefaults (modelType : String) (userId : Option String) (configs : Table ConfigRow) :
    Table ConfigRow :=
  configs.updateWhere (isUnset modelType userId) notDefault key_notDefault

/-! ## `create_config` and `create_config_async` -/

/-- The arguments of `create_config`, and the id that the new row gets. -/
structure CreateConfig where
  configName : String
  modelType : String
  provider : String
  apiEndpoint : String
  modelName : String
  apiKey : Option String
  providerConfig : Option Json
  defaultParams : Option Json
  description : Option String
  tags : Option (List String)
  isDefault : Bool
  userId : Option String
  validate : Bool
  saveOnValidationFailure : Bool
  sourceType : String
  registryId : Option String
  deploymentId : Option String
  deploymentReplicaId : Option String
  containerName : Option String
  inferenceFramework : Option String
  configId : String

/-- The arguments that a local binding replaces. -/
structure Bound where
  apiEndpoint : String
  containerName : Option String
  inferenceFramework : Option String
  deploymentReplicaId : Option String
  trustedChild : Bool

def CreateConfig.bindLocal (args : CreateConfig) (db : Deployments) (bound : Bound) :
    Except ConfigError Bound :=
  if args.sourceType = "local_deployed" then do
    let binding ← db.resolveLocalDeploymentBinding args.deploymentId bound.deploymentReplicaId
      args.userId args.validate
    if binding.trustedChild then
      pure
        { apiEndpoint := binding.endpoint
          containerName := some binding.containerName
          inferenceFramework := some binding.inferenceFramework
          deploymentReplicaId := binding.replicaId
          trustedChild := true }
    else
      pure { bound with deploymentReplicaId := binding.replicaId, trustedChild := false }
  else pure bound

def Host.normalizeBound (host : Host) (args : CreateConfig) (bound : Bound) :
    Except ConfigError Bound :=
  if bound.trustedChild then pure bound
  else
    match host.normalizeApiEndpoint bound.apiEndpoint args.provider args.userId with
    | .ok endpoint => pure { bound with apiEndpoint := endpoint }
    | .error e => .error (.valueError ("Invalid API endpoint: " ++ e))

def CreateConfig.checked (args : CreateConfig) (validate : Probe → Validation) (bound : Bound) :
    Except ConfigError (Option Validation) :=
  if args.validate then
    let result := validate ⟨args.provider, bound.apiEndpoint, args.apiKey, args.modelName,
      args.providerConfig, args.userId⟩
    if ¬ result.valid ∧ ¬ args.saveOnValidationFailure then
      .error (.valueError ("Validation failed: " ++ result.error.getD "None"))
    else .ok (some result)
  else .ok none

def Host.lockRegistry (host : Host) (registryId : Option String) : Except ConfigError Unit :=
  if truthy registryId then host.lockModelReference (registryId.getD "") else .ok ()

def initialStatus (validation : Option Validation) : String :=
  match validation with
  | some result => if result.valid then "active" else "pending"
  | none => "active"

def CreateConfig.row (args : CreateConfig) (bound : Bound) (validation : Option Validation)
    (now : Nat) : ConfigRow where
  configId := args.configId
  configName := args.configName
  sourceType := args.sourceType
  registryId := args.registryId
  deploymentId := args.deploymentId
  deploymentReplicaId := bound.deploymentReplicaId
  containerName := bound.containerName
  inferenceFramework := bound.inferenceFramework
  modelType := normalizeModelType args.modelType
  provider := args.provider
  apiEndpoint := bound.apiEndpoint
  apiKey := args.apiKey
  modelName := args.modelName
  providerConfig := args.providerConfig
  defaultParams := args.defaultParams
  description := args.description
  tags := args.tags
  status := initialStatus validation
  isDefault := if initialStatus validation = "active" then args.isDefault else false
  lastCheckStatus := validation.map fun result => if result.valid then "healthy" else "error"
  lastCheckTime := validation.map fun _ => now
  lastCheckError := validation.bind Validation.error
  userId := args.userId
  updatedAt := now

def Host.prepare (host : Host) (validate : Probe → Validation) (args : CreateConfig) :
    Except ConfigError (ConfigRow × Option Validation) := do
  let asked : Bound := ⟨args.apiEndpoint, args.containerName, args.inferenceFramework,
    args.deploymentReplicaId, false⟩
  let bound ← args.bindLocal host.deployments asked
  let bound ← host.normalizeBound args bound
  let validation ← args.checked validate bound
  host.lockRegistry args.registryId
  let bound ← args.bindLocal host.lockedDeployments bound
  pure (args.row bound validation host.now, validation)

/-- The defaults of the kind are taken back before a new default is inserted. -/
def clearFor (row : ConfigRow) (configs : Table ConfigRow) : Table ConfigRow :=
  if row.isDefault then unsetDefaults row.modelType row.userId configs else configs

def insertConfig (row : ConfigRow) (configs : Table ConfigRow) :
    Except ConfigError (Table ConfigRow) :=
  if violatesName (clearFor row configs) row then .error .integrityError
  else
    match (clearFor row configs).insert row with
    | some configs => .ok configs
    | none => .error .integrityError

def Host.createConfigWith (host : Host) (validate : Probe → Validation) (args : CreateConfig)
    (configs : Table ConfigRow) :
    Except ConfigError (Table ConfigRow × ConfigRow × Option Validation) := do
  let prepared ← host.prepare validate args
  let configs ← insertConfig prepared.1 configs
  pure (configs, prepared)

def Host.createConfig (host : Host) : CreateConfig → Table ConfigRow →
    Except ConfigError (Table ConfigRow × ConfigRow × Option Validation) :=
  host.createConfigWith host.validateConfig

def Host.createConfigAsync (host : Host) : CreateConfig → Table ConfigRow →
    Except ConfigError (Table ConfigRow × ConfigRow × Option Validation) :=
  host.createConfigWith host.validateConfigAsync

/-! ## `update_config` -/

/-- The arguments of `update_config`; `none` leaves a column as it is. -/
structure UpdateConfig where
  configId : String
  configName : Option String
  modelType : Option String
  provider : Option String
  apiEndpoint : Option String
  apiKey : Option String
  modelName : Option String
  providerConfig : Option Json
  defaultParams : Option Json
  description : Option String
  tags : Option (List String)
  status : Option String
  isDefault : Option Bool

def ConfigRow.hasLocalBinding (c : ConfigRow) : Bool :=
  c.sourceType = "local_deployed" && (truthy c.deploymentId || truthy c.deploymentReplicaId)

def UpdateConfig.restrict (args : UpdateConfig) (c : ConfigRow) : UpdateConfig :=
  if c.hasLocalBinding then
    { args with
      modelType := none
      provider := none
      apiEndpoint := none
      apiKey := none
      modelName := none
      providerConfig := none }
  else args

def Host.normalizedEndpoint (host : Host) (args : UpdateConfig) (c : ConfigRow) :
    Except ConfigError (Option String) :=
  if args.apiEndpoint.isSome ∨ args.provider.isSome then
    match host.normalizeApiEndpoint (args.apiEndpoint.getD c.apiEndpoint)
        (args.provider.getD c.provider) c.userId with
    | .ok endpoint => .ok (some endpoint)
    | .error e => .error (.valueError e)
  else .ok none

/-- The columns that are set before the default flag is looked at. -/
def UpdateConfig.columns (args : UpdateConfig) (endpoint : Option String) (now : Nat)
    (c : ConfigRow) : ConfigRow :=
  { c with
    configName := args.configName.getD c.configName
    modelType := args.modelType.getD c.modelType
    provider := args.provider.getD c.provider
    apiEndpoint := endpoint.getD c.apiEndpoint
    apiKey := args.apiKey <|> c.apiKey
    modelName := args.modelName.getD c.modelName
    providerConfig := args.providerConfig <|> c.providerConfig
    defaultParams := args.defaultParams <|> c.defaultParams
    description := args.description <|> c.description
    tags := args.tags <|> c.tags
    status := args.status.getD c.status
    updatedAt := now }

theorem key_columns (args : UpdateConfig) (endpoint : Option String) (now : Nat) (c : ConfigRow) :
    Keyed.key (args.columns endpoint now c) = Keyed.key c := rfl

/-- `config.is_default = is_default`, unless it is `None`. -/
def flagged (isDefault : Option Bool) (c : ConfigRow) : ConfigRow :=
  { c with isDefault := isDefault.getD c.isDefault }

theorem key_flagged (isDefault : Option Bool) (c : ConfigRow) :
    Keyed.key (flagged isDefault c) = Keyed.key c := rfl

/-- The columns are flushed before `_unset_defaults` runs, so the row is among those it selects. -/
def setColumns (args : UpdateConfig) (endpoint : Option String) (now : Nat) (c : ConfigRow)
    (configs : Table ConfigRow) : Except ConfigError (Table ConfigRow) :=
  let changed := args.columns endpoint now c
  if violatesName configs changed then .error .integrityError
  else
    let written := configs.update args.configId (args.columns endpoint now)
      (key_columns args endpoint now)
    let cleared :=
      if args.isDefault = some true then unsetDefaults changed.modelType changed.userId written
      else written
    .ok (cleared.update args.configId (flagged args.isDefault) (key_flagged args.isDefault))

/-- `update_config`; `none` where the config does not exist. -/
def Host.updateConfig (host : Host) (args : UpdateConfig) (configs : Table ConfigRow) :
    Except ConfigError (Option (Table ConfigRow)) :=
  match configs.lookup args.configId with
  | none => .ok none
  | some config => do
    let endpoint ← host.normalizedEndpoint (args.restrict config) config
    let configs ← setColumns (args.restrict config) endpoint host.now config configs
    pure (some configs)

/-! ## `set_default`, `update_check_status` and `delete_config` -/

/-- The columns that `set_default` sets. -/
def asDefault (now : Nat) (c : ConfigRow) : ConfigRow :=
  { c with isDefault := true, updatedAt := now }

theorem key_asDefault (now : Nat) (c : ConfigRow) : Keyed.key (asDefault now c) = Keyed.key c := rfl

def Host.setDefault (host : Host) (configId : String) (configs : Table ConfigRow) :
    Option (Table ConfigRow) :=
  match configs.lookup configId with
  | none => none
  | some config =>
    some ((unsetDefaults config.modelType config.userId configs).update configId
      (asDefault host.now) (key_asDefault host.now))

/-- The columns of a health check; `active` and `error` follow its result. -/
def checkedStatus (status : String) (error : Option String) (now : Nat) (c : ConfigRow) :
    ConfigRow :=
  { c with
    lastCheckStatus := some status
    lastCheckTime := some now
    lastCheckError := error
    updatedAt := now
    status :=
      if status = "error" ∧ c.status = "active" then "error"
      else if status = "healthy" ∧ c.status = "error" then "active"
      else c.status }

theorem key_checkedStatus (status : String) (error : Option String) (now : Nat) (c : ConfigRow) :
    Keyed.key (checkedStatus status error now c) = Keyed.key c := rfl

def Host.updateCheckStatus (host : Host) (configId status : String) (error : Option String)
    (configs : Table ConfigRow) : Option (Table ConfigRow) :=
  match configs.lookup configId with
  | none => none
  | some _ =>
    some (configs.update configId (checkedStatus status error host.now)
      (key_checkedStatus status error host.now))

def Host.deleteConfig (host : Host) (configId : String) (configs : Table ConfigRow) :
    Except ConfigError (Option (Table ConfigRow)) :=
  match configs.lookup configId with
  | none => .ok none
  | some _ => do
    host.dependencies configId
    pure (some (configs.deleteWhere fun c => c.configId = configId))

/-! ## Runs -/

/-- An operation, with what it meets outside the table. -/
inductive Op where
  | createConfig (host : Host) (args : CreateConfig)
  | createConfigAsync (host : Host) (args : CreateConfig)
  | updateConfig (host : Host) (args : UpdateConfig)
  | setDefault (host : Host) (configId : String)
  | updateCheckStatus (host : Host) (configId status : String) (error : Option String)
  | deleteConfig (host : Host) (configId : String)

/-- The table after `create_config`, which leaves it as it is if it raises. -/
def afterCreate (configs : Table ConfigRow)
    (result : Except ConfigError (Table ConfigRow × ConfigRow × Option Validation)) :
    Table ConfigRow :=
  match result with
  | .ok (configs', _) => configs'
  | .error _ => configs

def afterUpdate (configs : Table ConfigRow)
    (result : Except ConfigError (Option (Table ConfigRow))) : Table ConfigRow :=
  match result with
  | .ok (some configs') => configs'
  | _ => configs

def step (configs : Table ConfigRow) : Op → Table ConfigRow
  | .createConfig host args => afterCreate configs (host.createConfig args configs)
  | .createConfigAsync host args => afterCreate configs (host.createConfigAsync args configs)
  | .updateConfig host args => afterUpdate configs (host.updateConfig args configs)
  | .setDefault host configId => (host.setDefault configId configs).getD configs
  | .updateCheckStatus host configId status error =>
    (host.updateCheckStatus configId status error configs).getD configs
  | .deleteConfig host configId => afterUpdate configs (host.deleteConfig configId configs)

end ModelConfig
