import TrainFactory.Runtime.Locks

/-!
# The fence of a model deletion

`_lock_model_delete_dependency_scope` locks a model that is being deleted, with the models, the
deployments and the configs around it; `_guard_model_delete_runtime_dependencies` then locks every
task that uses them, and raises if there is one.
-/

namespace Runtime

open Lib Locking

variable (host : Host)

/-! ## `_lock_model_delete_dependency_scope` -/

/-- `_LockedModelDeleteDependencyScope`. -/
structure DeleteScope where
  model : Registry.ModelRow
  deployments : List DeploymentRow
  configs : List ConfigRow

def deleteIntentToken (m : Registry.ModelRow) : Option String :=
  if m.status ≠ "deleting" then none
  else
    match Registry.intentOf m.extraMetadata with
    | none => none
    | some intent => identifier (asString (intent.lookup "token"))

def Host.pathsOverlap (path path' : String) : Bool :=
  host.artifactPathUsesRoot (some path) (some path') ||
    host.artifactPathUsesRoot (some path') (some path)

/-- What is read before the locks of the scope are taken. -/
structure ScopePlan where
  modelId : String
  deleteToken : String
  modelPath : String
  targetDeploymentIds : List String
  configSignatures : List (String × Option String × Option String)
  referencedDeploymentIds : List String
  deploymentSignatures : List (String × String)
  modelIds : List String

/-- The registry id and the deployment id of a config, by its id. -/
def ConfigRow.signature (c : ConfigRow) : String × Option String × Option String :=
  (c.configId, c.registryId, c.deploymentId)

def Host.overlapOwnerIds (view : View) (modelId modelPath : String) : List String :=
  (((view 1).models.select fun m =>
      m.modelId ≠ modelId && host.pathsOverlap m.modelPath modelPath).map fun m => m.modelId) ++
    ((view 2).versions.select fun v =>
      v.modelId ≠ modelId && host.pathsOverlap v.modelPath modelPath).map fun v => v.modelId

def Host.planScope (view : View) (modelId deleteToken : String) :
    Except RuntimeError ScopePlan := do
  let lost : RuntimeError := .unavailable "Model deletion ownership was lost"
  match identifier (some modelId), identifier (some deleteToken) with
  | some modelId, some deleteToken =>
    match (view 0).models.lookup modelId with
    | none => .error lost
    | some target =>
      let targetDeploymentIds :=
        (orderedSelect (view 3).deployments fun d => d.modelId = modelId).map fun d =>
          d.deploymentId
      let configs := orderedSelect (view 4).configs fun c => c.registryId = some modelId ||
        targetDeploymentIds.any fun id => c.deploymentId = some id
      let referencedDeploymentIds :=
        sortedSet (targetDeploymentIds ++ configs.filterMap fun c => setId c.deploymentId)
      let deployments := orderedSelect (view 5).deployments fun d =>
        d.deploymentId ∈ referencedDeploymentIds
      return {
        modelId := modelId
        deleteToken := deleteToken
        modelPath := target.modelPath
        targetDeploymentIds := targetDeploymentIds
        configSignatures := configs.map ConfigRow.signature
        referencedDeploymentIds := referencedDeploymentIds
        deploymentSignatures := deployments.map fun d => (d.deploymentId, d.modelId)
        modelIds := sortedSet (modelId :: host.overlapOwnerIds view modelId target.modelPath ++
          (configs.filterMap fun c => setId c.registryId) ++ deployments.map fun d => d.modelId) }
  | _, _ => .error lost

def checkScopeModels (plan : ScopePlan) (models : List Registry.ModelRow) :
    Except RuntimeError Registry.ModelRow := do
  match models.find? fun m => m.modelId = plan.modelId with
  | none => .error (.unavailable "Model deletion ownership was lost")
  | some target =>
    require (deleteIntentToken target = some plan.deleteToken)
      (.unavailable "Model deletion ownership was lost")
    require (target.modelPath = plan.modelPath)
      (.changed "Model artifact path changed during model deletion; retry")
    require (plan.modelIds.all fun id => models.any fun m => m.modelId = id)
      (.unavailable "A model-config parent is unavailable during model deletion")
    require (models.all fun m => m.modelId = plan.modelId || m.status ≠ "deleting")
      (.unavailable "An unrelated model deletion is in progress")
    return target

abbrev DeploymentClaim := String × String × Int

def checkClaims (claims : List DeploymentClaim) : Except RuntimeError Unit :=
  require (claims.all fun claim =>
      (identifier (some claim.1)).isSome && (identifier (some claim.2.1)).isSome)
    (.unavailable "Deployment deletion ownership was lost")

def checkOwnership (claims : List DeploymentClaim) (targets : List DeploymentRow) :
    Except RuntimeError Unit :=
  if claims = [] then
    require (targets.all fun d =>
        d.replicaOperationToken.isNone && d.replicaOperationKind.isNone)
      (.claimConflict "Deployment deletion ownership was lost")
  else do
    require (sortedSet (claims.map fun claim => claim.1) =
        sortedSet (targets.map fun d => d.deploymentId))
      (.unavailable "Deployment deletion ownership was lost")
    require (targets.all fun d =>
        match claims.lookup d.deploymentId with
        | some (token, generation) => d.replicaOperationKind = some .delete &&
            d.replicaOperationToken = some token &&
            (d.replicaOperationGeneration : Int) = generation
        | none => false)
      (.unavailable "Deployment deletion ownership was lost")

def checkScopeDeployments (plan : ScopePlan) (claims : List DeploymentClaim)
    (deployments : List DeploymentRow) : Except RuntimeError (List DeploymentRow) := do
  require (plan.deploymentSignatures.all fun signature =>
      deployments.any fun d => d.deploymentId = signature.1 && d.modelId = signature.2)
    (.changed "Deployment references changed during model deletion; retry")
  let targets := deployments.filter fun d => d.modelId = plan.modelId
  require (sortedSet (targets.map fun d => d.deploymentId) = sortedSet plan.targetDeploymentIds)
    (.changed "Deployment membership changed during model deletion; retry")
  checkClaims claims
  checkOwnership claims targets
  require (deployments.all fun d => d.modelId = plan.modelId ||
      !(truthy d.replicaOperationToken && d.replicaOperationKind = some .delete))
    (.unavailable "An unrelated deployment deletion is in progress")
  return targets

def Host.lockModelDeleteDependencyScope (view : View) (modelId deleteToken : String)
    (claims : List DeploymentClaim) : Transaction DeleteScope := do
  let plan ← checked (host.planScope view modelId deleteToken)
  let models ← lockWhere .models (view 6).models fun m => m.modelId ∈ plan.modelIds
  let target ← checked (checkScopeModels plan models)
  let deployments ← lockWhere .deployments (view 7).deployments fun d =>
    d.modelId = plan.modelId || d.deploymentId ∈ plan.referencedDeploymentIds
  let targets ← checked (checkScopeDeployments plan claims deployments)
  let configs ← lockWhere .configs (view 8).configs fun c => c.registryId = some plan.modelId ||
    targets.any fun d => c.deploymentId = some d.deploymentId
  checked (require (configs.map ConfigRow.signature = plan.configSignatures)
    (.changed "Model config membership changed during model deletion; retry"))
  return ⟨target, targets, configs⟩

def scopeStatements : Nat := 9

/-! ## `_guard_model_delete_runtime_dependencies` -/

def DeleteScope.references (scope : DeleteScope) : References :=
  { configIds := sortedSet (scope.configs.map ConfigRow.configId)
    deploymentIds := sortedSet (scope.deployments.map fun d => d.deploymentId)
    artifactPaths := [] }

def DeleteScope.hasReplica (scope : DeleteScope) (r : ReplicaRow) : Bool :=
  r.deploymentId ∈ scope.references.deploymentIds

structure SyncSignature where
  taskId : String
  baseDeploymentId : Option String
  baseDeploymentReplicaId : Option String
  isActive : Bool
  status : Sync.SyncStatus
  references : References
deriving DecidableEq

structure TargetSignature where
  targetId : String
  taskId : String
  baseDeploymentId : Option String
  baseDeploymentReplicaId : Option String
  baseModelPath : String
  isActive : Bool
deriving DecidableEq

def targetsOf (targets : List Sync.ExternalSyncTrainingTarget) (taskId : String) :
    List Sync.ExternalSyncTrainingTarget :=
  targets.filter fun target => target.taskId = taskId

/-- The signature of a sync task, whose training targets are among `targets`. -/
def Host.syncSignature (targets : List Sync.ExternalSyncTrainingTarget) (t : SyncTaskRow) :
    SyncSignature :=
  { taskId := t.taskId
    baseDeploymentId := t.baseDeploymentId
    baseDeploymentReplicaId := t.baseDeploymentReplicaId
    isActive := t.isActive
    status := t.status
    references := host.externalSyncWriterDependencyReferences t (targetsOf targets t.taskId) }

def targetSignature (t : Sync.ExternalSyncTrainingTarget) : TargetSignature :=
  ⟨t.targetId, t.taskId, t.baseDeploymentId, t.baseDeploymentReplicaId, t.baseModelPath,
    t.isActive⟩

/-- What is read before the locks of the tasks are taken. -/
structure GuardPlan where
  replicaSignatures : List (String × String)
  bindingSyncIds : List String
  pathRuntimeSyncIds : List String
  syncIds : List String
  syncSignatures : List SyncSignature
  targetSignatures : List TargetSignature
  trainingSignatures : List (String × List String)
  generationIds : List String
  evaluationIds : List String

def bindsTo (deploymentIds replicaIds : List String) (baseDeploymentId replicaId : Option String) :
    Bool :=
  (deploymentIds.any fun id => baseDeploymentId = some id) ||
    replicaIds.any fun id => replicaId = some id

def bindingSyncIds (view : View) (deploymentIds replicaIds : List String) : List String :=
  ((orderedSelect (view 1).syncTasks fun t =>
      bindsTo deploymentIds replicaIds t.baseDeploymentId t.baseDeploymentReplicaId).map fun t =>
        t.taskId) ++
    (orderedSelect (view 2).syncTargets fun t =>
      bindsTo deploymentIds replicaIds t.baseDeploymentId t.baseDeploymentReplicaId).map fun t =>
        t.taskId

/-- The active sync tasks that train on an artifact of the model. -/
def Host.pathRuntimeSyncIds (view : View) (scope : DeleteScope) : List String :=
  let candidates := (view 3).syncTasks.select externalSyncIsActive
  let targets := orderedSelect (view 4).syncTargets fun target =>
    target.taskId ∈ candidates.map fun t => t.taskId
  (candidates.filter fun t =>
    (host.externalSyncTrainingArtifactPaths t (targetsOf targets t.taskId)).any fun path =>
      host.artifactPathUsesRoot (some path) (some scope.model.modelPath)).map fun t => t.taskId

def Host.trainingSignatures (db : Database) (scope : DeleteScope)
    (executionTaskIds : List String) : List (String × List String) :=
  (orderedSelect db.trainings fun t => trainingIsActive executionTaskIds t &&
    (trainingArtifactPaths t).any fun path =>
      host.artifactPathUsesRoot (some path) (some scope.model.modelPath)).map fun t =>
        (t.taskId, trainingArtifactPaths t)

/-- The reads without locks. -/
def Host.planGuard (view : View) (scope : DeleteScope) (snapshot : ExecutionSnapshot)
    (executionTaskIds : List String) : Except RuntimeError GuardPlan := do
  let replicas := orderedSelect (view 0).replicas scope.hasReplica
  let binding := bindingSyncIds view scope.references.deploymentIds
    (sortedSet (replicas.map fun r => r.replicaId))
  let pathRuntime := host.pathRuntimeSyncIds view scope
  let syncIds := sortedSet (activeSyncIds (view 3) scope.references ++ pathRuntime ++ binding)
  let syncTasks := orderedSelect (view 5).syncTasks fun t => t.taskId ∈ syncIds
  let syncTargets := orderedSelect (view 6).syncTargets fun t => t.taskId ∈ syncIds
  require (sortedSet (syncTasks.map fun t => t.taskId) = syncIds)
    (.changed "External sync task membership changed during model deletion; retry")
  return {
    replicaSignatures := replicas.map fun r => (r.replicaId, r.deploymentId)
    bindingSyncIds := binding
    pathRuntimeSyncIds := pathRuntime
    syncIds := syncIds
    syncSignatures := syncTasks.map (host.syncSignature syncTargets)
    targetSignatures := syncTargets.map targetSignature
    trainingSignatures := host.trainingSignatures (view 7) scope executionTaskIds
    generationIds := activeGenerationIds (view 8) scope.references snapshot
    evaluationIds := activeEvaluationIds (view 9) scope.references snapshot }

/-- Lock the sync tasks, their training targets and the active trainings of these, in the order in
which the writers of bindings do. -/
def Host.lockSyncTasks (view : View) (plan : GuardPlan) : Transaction (List SyncTaskRow) := do
  let tasks ← lockWhere .syncTasks (view 10).syncTasks fun t => t.taskId ∈ plan.syncIds
  let targets ← lockWhere .syncTargets (view 11).syncTargets fun t => t.taskId ∈ plan.syncIds
  checked (require (targets.map targetSignature = plan.targetSignatures)
    (.changed "External sync target bindings changed during model deletion; retry"))
  checked (require (tasks.map (host.syncSignature targets) = plan.syncSignatures)
    (.changed "External sync task bindings changed during model deletion; retry"))
  let _ ← lockWhere .syncTrainings (view 12).syncTrainings fun t =>
    t.taskId ∈ plan.syncIds && t.status ∈ syncBindingActiveTrainingStatuses
  return tasks

def checkBindings (plan : GuardPlan) : Except RuntimeError Unit := do
  require (plan.bindingSyncIds = [])
    (.unavailable "Model deployment is referenced by external sync")
  require (plan.pathRuntimeSyncIds = [])
    (.unavailable "Model artifact is referenced by active external sync")

def checkConsumers (trainings : List TrainingRow) (executionTaskIds : List String)
    (consumers : List Consumer) : Except RuntimeError Unit := do
  require (!trainings.any (trainingIsActive executionTaskIds))
    (.unavailable "Model artifact is referenced by an active training task")
  require (consumers = [])
    (.unavailable "Model dependency is referenced by an active runtime task")

/-- `_guard_model_delete_runtime_dependencies`: sync tasks with their targets and trainings,
replicas, training tasks, generations, evaluations, collections. -/
def Host.guardModelDeleteRuntimeDependencies (view : View) (scope : DeleteScope)
    (snapshot : ExecutionSnapshot) (executionTaskIds : List String) :
    Transaction (List ReplicaRow) := do
  let references := scope.references
  let plan ← checked (host.planGuard view scope snapshot executionTaskIds)
  let syncTasks ← host.lockSyncTasks view plan
  checked (checkBindings plan)
  let replicas ← lockWhere .replicas (view 13).replicas scope.hasReplica
  checked (require (replicas.map (fun r => (r.replicaId, r.deploymentId)) =
      plan.replicaSignatures)
    (.changed "Deployment replica membership changed during model deletion; retry"))
  let trainings ← lockWhere .trainings (view 14).trainings fun t =>
    plan.trainingSignatures.any fun signature => signature.1 = t.taskId
  checked (require (trainings.map (fun t => (t.taskId, trainingArtifactPaths t)) =
      plan.trainingSignatures)
    (.changed "Training model references changed during model deletion; retry"))
  let generations ← lockWhere .generations (view 15).generations fun t =>
    t.taskId ∈ plan.generationIds
  let evaluations ← lockWhere .evaluations (view 16).evaluations fun t =>
    t.taskId ∈ plan.evaluationIds
  checked (checkConsumers trainings executionTaskIds
    (syncConsumers references syncTasks ++ generationConsumers references snapshot generations ++
      evaluationConsumers references snapshot evaluations))
  let collections ← lockWhere .collections (view 17).collections fun c =>
    references.configIds.any fun id => c.embeddingConfigId = some id
  checked (require (collections.isEmpty)
    (.unavailable "Model config is referenced by a Milvus collection"))
  return replicas

def Host.lockModelDeleteFence (view : View) (modelId deleteToken : String)
    (claims : List DeploymentClaim) (snapshot : ExecutionSnapshot)
    (executionTaskIds : List String) : Transaction (List ReplicaRow) := do
  let scope ← host.lockModelDeleteDependencyScope view modelId deleteToken claims
  host.guardModelDeleteRuntimeDependencies (view.after scopeStatements) scope snapshot
    executionTaskIds

end Runtime
