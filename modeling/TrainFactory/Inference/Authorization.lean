import TrainFactory.Auth.Users
import TrainFactory.Deployment.Entities
import TrainFactory.Inference.Endpoints
import TrainFactory.Lib.Result

/-!
# Who may ask a shared model

`inference_authorization_service.py`: an endpoint with the base of the default service or of a
registered deployment answers only for the models that the user has deployed there.
-/

namespace Inference

open Lib

/-! ## The identity catalog -/

/-- The columns of a deployment that the check selects. -/
structure CatalogRow where
  xinferenceEndpoint : String
  userId : Option String
  modelUid : Option String
  status : Deployment.DeploymentStatus
  deployMode : String
  port : Option Nat
  deploymentId : String
  /-- `config["replica_schema_version"]`. -/
  replicaSchemaVersion : Option Int
  startedAt : Option Nat
  /-- `config["runtime_managed"]`. -/
  runtimeManaged : Option Bool
  /-- `config["read_only"]`. -/
  readOnly : Option Bool

structure CatalogReplica where
  endpoint : String
  deploymentId : String
  status : Deployment.DeploymentStatus
  healthStatus : Deployment.HealthStatus

/-- The settings and the tables that a check reads. -/
structure Catalog where
  authEnabled : Bool
  /-- `settings.xinference_endpoint`. -/
  xinferenceEndpoint : Option String
  deployments : List CatalogRow
  replicas : List CatalogReplica
  /-- `user_service.get_user`. -/
  getUser : String → Option Auth.UserRow

variable (platform : Platform) (catalog : Catalog)

/-- The replicas of this deployment serve its model. -/
def CatalogRow.hasReplicas (row : CatalogRow) : Bool :=
  row.deployMode = "container" && row.replicaSchemaVersion = some 1

/-- `replica_deployments.get(deployment_id)`. -/
def Catalog.replicaDeployment (deploymentId : String) : Option CatalogRow :=
  (catalog.deployments.filter CatalogRow.hasReplicas).reverse.find? (·.deploymentId = deploymentId)

def CatalogRow.hasModelUid (row : CatalogRow) : Bool :=
  match row.modelUid with
  | some modelUid => modelUid ≠ ""
  | none => false

def CatalogRow.isEvidence (row : CatalogRow) : Bool :=
  row.deployMode = "container" || row.startedAt.isSome ||
    (row.runtimeManaged = some false && row.readOnly = some true) ||
    ((row.status = .running || row.status = .degraded) && row.hasModelUid)

/-- The addresses on the host machine at which a service may be configured. -/
def generatedAliases (canonical : String) (containerPort : Option Nat) :
    Except InferenceError (List String) := do
  let parsed ← httpxUrl platform canonical
  let converted ←
    if isConvertible parsed.host then do
      let url ← canonicalModelEndpoint platform (toExternalEndpoint platform canonical) "xinference"
      pure [url]
    else pure []
  let published ←
    match containerPort with
    | some (port + 1) => do
      let url ← canonicalModelEndpoint platform
        ("http://" ++ platform.hostIp ++ ":" ++ toString (port + 1)) "xinference"
      pure [url]
    | _ => pure []
  pure (converted ++ published)

/-- What `except HTTPException: return False` makes of a comparison. -/
def exceptHttp (result : Except InferenceError Bool) : Except InferenceError Bool :=
  match result with
  | .error (.http _ _) => .ok false
  | result => result

def matchesEndpoint (canonicalEndpoint storedEndpoint : String) (containerPort : Option Nat) :
    Except InferenceError Bool :=
  exceptHttp do
    let canonical ← canonicalModelEndpoint platform storedEndpoint "xinference"
    if canonical = canonicalEndpoint then pure true
    else
      let aliases ← generatedAliases platform canonical containerPort
      pure (canonicalEndpoint ∈ aliases)

/-- What is known of an endpoint: whether it is registered, and the models of the user there. -/
abbrev Registration := Bool × List String

def registerDeployments (canonicalEndpoint : String) (userId : Option String) :
    List CatalogRow → Registration → Except InferenceError Registration
  | [], registration => .ok registration
  | row :: rows, (registered, owned) => do
    if row.isEvidence = false then
      registerDeployments canonicalEndpoint userId rows (registered, owned)
    else
      let found ← matchesEndpoint platform canonicalEndpoint row.xinferenceEndpoint
        (if row.deployMode = "container" then row.port else none)
      if found = false then registerDeployments canonicalEndpoint userId rows (registered, owned)
      else if (catalog.replicaDeployment row.deploymentId).isNone ∧ row.userId = userId ∧
          row.status = .running ∧ row.hasModelUid then
        registerDeployments canonicalEndpoint userId rows (true, owned ++ row.modelUid.toList)
      else registerDeployments canonicalEndpoint userId rows (true, owned)

def registerReplicas (canonicalEndpoint : String) (userId : Option String) :
    List CatalogReplica → Registration → Except InferenceError Registration
  | [], registration => .ok registration
  | replica :: replicas, (registered, owned) => do
    match catalog.replicaDeployment replica.deploymentId with
    | none => registerReplicas canonicalEndpoint userId replicas (registered, owned)
    | some parent =>
      let found ← matchesEndpoint platform canonicalEndpoint replica.endpoint none
      if found = false then registerReplicas canonicalEndpoint userId replicas (registered, owned)
      else if parent.userId = userId ∧ replica.status = .running ∧
          replica.healthStatus = .healthy ∧ parent.hasModelUid then
        registerReplicas canonicalEndpoint userId replicas (true, owned ++ parent.modelUid.toList)
      else registerReplicas canonicalEndpoint userId replicas (true, owned)

def registeredSharedModelsForEndpoint (endpoint : String) (userId : Option String)
    (provider : String) : Except InferenceError Registration := do
  let canonicalEndpoint ← canonicalModelEndpoint platform endpoint provider
  let registration ←
    registerDeployments platform catalog canonicalEndpoint userId catalog.deployments (false, [])
  registerReplicas platform catalog canonicalEndpoint userId catalog.replicas registration

def ownedModelUidsForEndpoint (endpoint : String) (userId : Option String) (provider : String) :
    Except InferenceError (List String) :=
  (registeredSharedModelsForEndpoint platform catalog endpoint userId provider).map Prod.snd

/-! ## The check -/

/-- `default_endpoint or settings.xinference_endpoint or "http://xinference:9997"`. -/
def Catalog.defaultEndpoint (defaultEndpoint : Option String) : String :=
  match defaultEndpoint.filter (· ≠ ""), catalog.xinferenceEndpoint.filter (· ≠ "") with
  | some endpoint, _ => endpoint
  | none, some endpoint => endpoint
  | none, none => "http://xinference:9997"

/-- `HTTPException(status_code=403, detail=...)`. -/
def forbidden (detail : String) : InferenceError := .http 403 detail

def isDefaultAlias (canonicalEndpoint canonicalDefault defaultEndpoint : String) :
    Except InferenceError Bool := do
  let requested ← httpxUrl platform canonicalEndpoint
  let default ← httpxUrl platform canonicalDefault
  if isConvertible default.host ∧ requested.scheme = default.scheme ∧
      requested.port = default.port ∧ requested.path = default.path then
    let url ←
      canonicalModelEndpoint platform (toExternalEndpoint platform defaultEndpoint) "xinference"
    pure (canonicalEndpoint = url)
  else pure false

def protection (endpoint : String) (userId : Option String) (provider : String)
    (ownedModelUids : Option (List String)) (defaultEndpoint : String) :
    Except InferenceError (Bool × Option (List String)) := do
  let canonicalEndpoint ← canonicalModelEndpoint platform endpoint provider
  let canonicalDefault ← canonicalModelEndpoint platform defaultEndpoint "xinference"
  if platform.std.lower provider = "xinference" ∨ canonicalEndpoint = canonicalDefault ∨
      ownedModelUids.getD [] ≠ [] then
    pure (true, ownedModelUids)
  else if ← isDefaultAlias platform canonicalEndpoint canonicalDefault defaultEndpoint then
    pure (true, ownedModelUids)
  else
    let (registered, registeredOwned) ←
      registeredSharedModelsForEndpoint platform catalog endpoint userId provider
    pure (registered, if registered then some registeredOwned else ownedModelUids)

/-- `user_id in (None, "", "anonymous")`. -/
def isAnonymous (userId : Option String) : Bool :=
  userId = none || userId = some "" || userId = some "anonymous"

def requireOwned (endpoint modelName : String) (userId : Option String) (provider : String)
    (ownedModelUids : Option (List String)) : Except InferenceError (Option (List String)) := do
  let owned ←
    match ownedModelUids with
    | some owned => pure owned
    | none => ownedModelUidsForEndpoint platform catalog endpoint userId provider
  if modelName = "" ∨ modelName ∉ owned then
    throw (forbidden "Shared model requests are limited to owned deployments")
  else pure (some [modelName])

/-- `authorize_inference_model`; `currentUser` tells whether the user is an administrator. A missing
model name is an empty one. -/
def authorizeInferenceModel (endpoint modelName : String) (userId : Option String)
    (provider : String) (currentUser : Option Bool) (ownedModelUids : Option (List String))
    (defaultEndpoint : Option String) : Except InferenceError (Option (List String)) := do
  if catalog.authEnabled = false ∨ currentUser = some true then pure none
  else
    let (isProtected, owned) ← protection platform catalog endpoint userId provider ownedModelUids
      (catalog.defaultEndpoint defaultEndpoint)
    if isProtected = false then pure none
    else if isAnonymous userId then
      throw (forbidden "Shared model requests require an authenticated owner")
    else
      match currentUser with
      | some _ => requireOwned platform catalog endpoint modelName userId provider owned
      | none =>
        match userId.bind catalog.getUser with
        | none => throw (forbidden "Shared model owner is unavailable")
        | some user =>
          if user.isActive = false then throw (forbidden "Shared model owner is unavailable")
          else if user.isAdmin then pure none
          else requireOwned platform catalog endpoint modelName userId provider owned

end Inference
