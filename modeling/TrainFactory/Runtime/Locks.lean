import TrainFactory.Lib.LockOrder
import TrainFactory.Lib.Result
import TrainFactory.Runtime.Entities

/-!
# The locks of runtime dependencies

`runtime_dependency_service.py`: the transactions that lock models, deployments and model configs,
and after them the tasks that use them. What is locked is read without locks first, and compared
with the locked rows. Other transactions may commit between two statements, so the `k`-th statement
of a transaction reads the database `view k`.
-/

namespace Runtime

open Lib Locking

/-- The database that each statement of a transaction reads. -/
abbrev View := Nat → Database

/-- What the statements after the first `n` read. -/
def View.after (view : View) (n : Nat) : View := fun k => view (k + n)

@[simp] theorem View.after_const (db : Database) (n : Nat) :
    View.after (fun _ => db) n = fun _ => db := rfl

abbrev Transaction (α : Type) := Locking Lock RuntimeError α

/-! ## Checks -/

def require (condition : Bool) (error : RuntimeError) : Except RuntimeError Unit :=
  if condition then .ok () else .error error

/-- Raise for the first of the requested rows that is missing (`_missing_identifier`). -/
def requireFound (text : String) (requested actual : List String) : Except RuntimeError Unit :=
  match requested.find? fun id => id ∉ actual with
  | some id => .error (.unavailable (text ++ id))
  | none => .ok ()

def requireOwnership (userIds : List (Option String)) (expectedUserId : Option String) :
    Except RuntimeError Unit :=
  require (expectedUserId.isNone || userIds.all fun userId => userId = expectedUserId)
    (.unavailable "Runtime dependency is unavailable")

def setId (id : Option String) : Option String := id.filter fun id => id ≠ ""

/-! ## `lock_runtime_dependencies` -/

section Dependencies

variable (host : Host)

structure DependencyPlan where
  configIds : List String
  deploymentIds : List String
  requiredModelIds : List String
  modelIds : List String
  configSignatures : List (String × Option String × Option String)
  deploymentSignatures : List (String × String)
  artifactModelSignatures : List (String × String)

def Host.planDependencies (view : View) (references : References)
    (expectedUserId : Option String) : Except RuntimeError DependencyPlan := do
  let configIds := sortedSet references.configIds
  let configs := (view 0).configs.select fun c => c.configId ∈ configIds
  requireFound "Model config not found: " configIds (configs.map ConfigRow.configId)
  requireOwnership (configs.map ConfigRow.userId) expectedUserId
  let deploymentIds :=
    sortedSet (references.deploymentIds ++ configs.filterMap fun c => setId c.deploymentId)
  let deployments := (view 1).deployments.select fun d => d.deploymentId ∈ deploymentIds
  requireFound "Deployment not found: " deploymentIds (deployments.map DeploymentRow.deploymentId)
  requireOwnership (deployments.map fun d => d.userId) expectedUserId
  let artifactModels := (view 2).models.select fun m =>
    references.artifactPaths.any fun path =>
      host.artifactPathUsesRoot (some path) (some m.modelPath)
  let requiredModelIds := sortedSet (configs.filterMap fun c => setId c.registryId)
  return {
    configIds := configIds
    deploymentIds := deploymentIds
    requiredModelIds := requiredModelIds
    modelIds := sortedSet (requiredModelIds ++ deployments.map (fun d => d.modelId) ++
      artifactModels.map fun m => m.modelId)
    configSignatures := configs.map fun c => (c.configId, c.registryId, c.deploymentId)
    deploymentSignatures := deployments.map fun d => (d.deploymentId, d.modelId)
    artifactModelSignatures := artifactModels.map fun m => (m.modelId, m.modelPath) }

def Host.checkModels (references : References) (expectedUserId : Option String)
    (plan : DependencyPlan) (models : List Registry.ModelRow) : Except RuntimeError Unit := do
  requireFound "Model not found: " plan.requiredModelIds (models.map fun m => m.modelId)
  requireOwnership (models.map fun m => m.userId) expectedUserId
  require
    ((models.all fun m =>
        match plan.artifactModelSignatures.lookup m.modelId with
        | none => true
        | some path => path = m.modelPath && references.artifactPaths.any fun path =>
            host.artifactPathUsesRoot (some path) (some m.modelPath)) &&
      plan.artifactModelSignatures.all fun signature =>
        models.any fun m => m.modelId = signature.1)
    (.changed "Model artifact membership changed while acquiring locks; retry")
  match models.find? fun m => m.status = "deleting" with
  | some m => .error (.unavailable ("Model is being deleted: " ++ m.modelId))
  | none => .ok ()

def checkDeployment (plan : DependencyPlan) (d : DeploymentRow) : Except RuntimeError Unit := do
  require (plan.deploymentSignatures.lookup d.deploymentId = some d.modelId)
    (.changed "Deployment model reference changed while acquiring locks; retry")
  require (!(truthy d.replicaOperationToken && d.replicaOperationKind = some .delete))
    (.unavailable ("Deployment deletion is in progress: " ++ d.deploymentId))

def checkDeployments (expectedUserId : Option String) (plan : DependencyPlan)
    (deployments : List DeploymentRow) : Except RuntimeError Unit := do
  requireFound "Deployment not found: " plan.deploymentIds
    (deployments.map DeploymentRow.deploymentId)
  requireOwnership (deployments.map fun d => d.userId) expectedUserId
  deployments.forM (checkDeployment plan)

def checkConfigs (expectedUserId : Option String) (plan : DependencyPlan)
    (configs : List ConfigRow) : Except RuntimeError Unit := do
  requireFound "Model config not found: " plan.configIds (configs.map ConfigRow.configId)
  requireOwnership (configs.map ConfigRow.userId) expectedUserId
  require (configs.all fun c =>
      plan.configSignatures.lookup c.configId = some (c.registryId, c.deploymentId))
    (.changed "Model config references changed while acquiring locks; retry")

structure LockedDependencies where
  models : List Registry.ModelRow
  deployments : List DeploymentRow
  configs : List ConfigRow

def Host.lockRuntimeDependencies (view : View) (references : References)
    (expectedUserId : Option String) : Transaction LockedDependencies := do
  let plan ← checked (host.planDependencies view references expectedUserId)
  let models ← lockWhere .models (view 3).models fun m => m.modelId ∈ plan.modelIds
  checked (host.checkModels references expectedUserId plan models)
  let deployments ← lockWhere .deployments (view 4).deployments fun d =>
    d.deploymentId ∈ plan.deploymentIds
  checked (checkDeployments expectedUserId plan deployments)
  let configs ← lockWhere .configs (view 5).configs fun c => c.configId ∈ plan.configIds
  checked (checkConfigs expectedUserId plan configs)
  return ⟨models, deployments, configs⟩

def dependencyStatements : Nat := 6

/-- `lock_runtime_task_after_dependencies`: lock the task with an id, if it meets the conditions,
and compare its references with those that were locked. -/
def lockRuntimeTaskAfterDependencies {R : Type} [Keyed R String] (db : Database)
    (entity : LockTable) (rowsOf : Database → Table R) (taskId : String) (conditions : R → Bool)
    (referenceParser : R → References) (expectedSignature : References) :
    Transaction (Option R) := do
  let tasks ← lockWhere entity (rowsOf db) fun t => Keyed.key t = taskId && conditions t
  match tasks.head? with
  | none => return none
  | some task =>
    checked (require (referenceParser task = expectedSignature)
      (.changed "Task runtime references changed while acquiring locks; retry"))
    return some task

def Host.lockRuntimeTaskForTransition {R : Type} [Keyed R String] (view : View)
    (entity : LockTable) (rowsOf : Database → Table R) (taskId : String) (conditions : R → Bool)
    (referenceParser : R → References) (dependencyReferenceBuilder : Option (R → References)) :
    Transaction (Option R) := do
  match ((rowsOf (view 0)).select fun t => Keyed.key t = taskId && conditions t).head? with
  | none => return none
  | some candidate =>
    let expectedSignature := referenceParser candidate
    let references := (dependencyReferenceBuilder.map fun f => f candidate).getD expectedSignature
    let _ ← host.lockRuntimeDependencies (view.after 1) references none
    lockRuntimeTaskAfterDependencies (view (dependencyStatements + 1)) entity rowsOf taskId
      conditions referenceParser expectedSignature

end Dependencies

/-! ## `lock_active_runtime_dependency_consumers` -/

section Consumers

def activeGenerationIds (db : Database) (references : References) (snapshot : ExecutionSnapshot) :
    List String :=
  sortedSet ((db.generations.select fun t => generationIsActive snapshot t &&
    (generationRuntimeDependencyReferences t).overlaps references).map fun t => t.taskId)

def activeEvaluationIds (db : Database) (references : References) (snapshot : ExecutionSnapshot) :
    List String :=
  sortedSet ((db.evaluations.select fun t => evaluationIsActive snapshot t &&
    (evaluationRuntimeDependencyReferences t).overlaps references).map fun t => t.taskId)

def activeSyncIds (db : Database) (references : References) : List String :=
  sortedSet ((db.syncTasks.select fun t => externalSyncIsActive t &&
    (externalSyncRuntimeDependencyReferences t).overlaps references).map fun t => t.taskId)

def generationConsumers (references : References) (snapshot : ExecutionSnapshot)
    (tasks : List GenerationRow) : List Consumer :=
  (tasks.filter fun t => generationIsActive snapshot t &&
    (generationRuntimeDependencyReferences t).overlaps references).map fun t =>
      ⟨"generation", t.taskId⟩

def evaluationConsumers (references : References) (snapshot : ExecutionSnapshot)
    (tasks : List EvaluationRow) : List Consumer :=
  (tasks.filter fun t => evaluationIsActive snapshot t &&
    (evaluationRuntimeDependencyReferences t).overlaps references).map fun t =>
      ⟨t.evalFramework, t.taskId⟩

def syncConsumers (references : References) (tasks : List SyncTaskRow) : List Consumer :=
  (tasks.filter fun t => externalSyncIsActive t &&
    (externalSyncRuntimeDependencyReferences t).overlaps references).map fun t =>
      ⟨"external_sync", t.taskId⟩

def lockActiveRuntimeDependencyConsumers (view : View) (references : References)
    (snapshot : ExecutionSnapshot) : Transaction (List Consumer) := do
  if references.configIds = [] ∧ references.deploymentIds = [] then return []
  else
    let generationIds := activeGenerationIds (view 0) references snapshot
    let evaluationIds := activeEvaluationIds (view 1) references snapshot
    let syncIds := activeSyncIds (view 2) references
    let generations ← lockWhere .generations (view 3).generations fun t => t.taskId ∈ generationIds
    let evaluations ← lockWhere .evaluations (view 4).evaluations fun t => t.taskId ∈ evaluationIds
    let syncTasks ← lockWhere .syncTasks (view 5).syncTasks fun t => t.taskId ∈ syncIds
    let consumers := generationConsumers references snapshot generations ++
      evaluationConsumers references snapshot evaluations ++ syncConsumers references syncTasks
    return consumers.insertionSort fun c c' =>
      c.kind < c'.kind ∨ c.kind = c'.kind ∧ c.taskId ≤ c'.taskId

def Host.lockDependenciesAndConsumers (host : Host) (view : View) (references : References)
    (expectedUserId : Option String) (snapshot : ExecutionSnapshot) :
    Transaction (List Consumer) := do
  let _ ← host.lockRuntimeDependencies view references expectedUserId
  lockActiveRuntimeDependencyConsumers (view.after dependencyStatements) references snapshot

end Consumers

end Runtime
