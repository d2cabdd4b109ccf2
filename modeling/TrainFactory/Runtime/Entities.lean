import TrainFactory.Deployment.Entities
import TrainFactory.Generation.Entities
import TrainFactory.Registry.Entities
import TrainFactory.Sync.Entities
import TrainFactory.Training.Entities
import TrainFactory.Lib.PosixPath
import Mathlib.Data.String.Basic

/-!
# The rows of runtime dependencies

The models, deployments and model configs that tasks use, and the tasks that use them, with the
columns that `runtime_dependency_service.py` reads.
-/

namespace Runtime

open Lib

/-- `DeploymentDB`, of many deployments. -/
structure DeploymentRow extends Deployment.DeploymentRow where
  deploymentId : String

/-- `DeploymentReplicaDB`, of many deployments. -/
structure ReplicaRow extends Deployment.ReplicaRow where
  deploymentId : String

/-- `ModelConfigDB`. -/
structure ConfigRow where
  configId : String
  registryId : Option String
  deploymentId : Option String
  userId : Option String

/-- `ExternalSyncTaskDB`, with the configuration of its generations. -/
structure SyncTaskRow extends Sync.ExternalSyncTask where
  generationConfig : Option Json

/-- `TrainingTaskDB`, with the configuration of its loss. -/
structure TrainingRow extends Training.TrainingTask where
  lossConfig : Option Json

/-- `GenerationTaskDB`, with the configurations of its models. -/
structure GenerationRow extends Generation.GenerationTask where
  llmConfig : Option Json
  evalLlmConfig : Option Json
  embeddingConfig : Option Json
  rerankConfig : Option Json
  embeddingConfigId : Option String

inductive EvaluationStatus where
  | pending | running | succeeded | completed | failed | cancelled
deriving DecidableEq

/-- `EvaluationTaskDB`. -/
structure EvaluationRow where
  taskId : String
  evalFramework : String
  modelConfigs : Option Json
  llmConfig : Option Json
  workerGroups : Option Json
  status : EvaluationStatus

instance : Keyed DeploymentRow String := ⟨DeploymentRow.deploymentId⟩
instance : Keyed ReplicaRow String := ⟨fun r => r.replicaId⟩
instance : Keyed ConfigRow String := ⟨ConfigRow.configId⟩
instance : Keyed SyncTaskRow String := ⟨fun t => t.taskId⟩
instance : Keyed TrainingRow String := ⟨fun t => t.taskId⟩
instance : Keyed GenerationRow String := ⟨fun t => t.taskId⟩
instance : Keyed EvaluationRow String := ⟨EvaluationRow.taskId⟩

@[simp] theorem key_runtimeDeployment (d : DeploymentRow) : Keyed.key d = d.deploymentId := rfl
@[simp] theorem key_runtimeReplica (r : ReplicaRow) : Keyed.key r = r.replicaId := rfl
@[simp] theorem key_config (c : ConfigRow) : Keyed.key c = c.configId := rfl
@[simp] theorem key_syncTask (t : SyncTaskRow) : Keyed.key t = t.taskId := rfl
@[simp] theorem key_training (t : TrainingRow) : Keyed.key t = t.taskId := rfl
@[simp] theorem key_generation (t : GenerationRow) : Keyed.key t = t.taskId := rfl
@[simp] theorem key_evaluation (t : EvaluationRow) : Keyed.key t = t.taskId := rfl

/-- The tables that runtime locks are taken in, and that they are computed from. -/
structure Database where
  models : Table Registry.ModelRow
  versions : Table Registry.VersionRow
  deployments : Table DeploymentRow
  configs : Table ConfigRow
  replicas : Table ReplicaRow
  syncTasks : Table SyncTaskRow
  syncTargets : Table Sync.ExternalSyncTrainingTarget
  syncTrainings : Table Sync.ExternalSyncTraining
  trainings : Table TrainingRow
  generations : Table GenerationRow
  evaluations : Table EvaluationRow
  collections : Table Milvus.CollectionRow

def Database.empty : Database :=
  ⟨Table.empty, Table.empty, Table.empty, Table.empty, Table.empty, Table.empty, Table.empty,
    Table.empty, Table.empty, Table.empty, Table.empty, Table.empty⟩

inductive LockTable where
  | models | deployments | configs | syncTasks | syncTargets | syncTrainings | replicas | trainings
  | generations | evaluations | collections
deriving DecidableEq

abbrev Lock := LockTable × String

/-- `RuntimeDependencyUnavailableError`, and the errors derived from it. -/
inductive RuntimeError where
  | unavailable (message : String)
  /-- `RuntimeDependencyChangedError`. -/
  | changed (message : String)
  /-- `RuntimeDependencyClaimConflictError`. -/
  | claimConflict (message : String)
deriving DecidableEq

/-- `RuntimeExecutionSnapshot`. -/
structure ExecutionSnapshot where
  generationTaskIds : List String
  evaluationTaskIds : List String

/-- `RuntimeDependencyConsumer`. -/
structure Consumer where
  kind : String
  taskId : String
deriving DecidableEq

end Runtime

/-!
## What a task references

The parsers of the model configs, deployments and artifact paths that a task of each kind uses.
They inspect the fields of the schema only: another `config_id` in a JSON value is no reference.
-/

namespace Runtime

open Lib

/-- What the paths depend on besides the rows. -/
structure Host where
  /-- `os.path.normcase(os.path.normpath(Path(_normalize_path(path)).resolve(strict=False)))`, in a
  file system without loops of symbolic links. -/
  resolve : String → String

/-! ## Paths -/

section Paths

variable (host : Host)

def Host.canonicalizeArtifactPath (path : Option String) : Option String :=
  match path with
  | none => none
  | some path => if strip path = "" then none else some (host.resolve (strip path))

/-- `artifact_path_uses_root`: the candidate is the root, or below it. -/
def Host.artifactPathUsesRoot (candidate root : Option String) : Bool :=
  match host.canonicalizeArtifactPath candidate, host.canonicalizeArtifactPath root with
  | some candidate, some root => commonPath candidate root = some root
  | _, _ => false

end Paths

/-! ## Identifiers -/

/-- `tuple(sorted(set(values)))`. -/
def sortedSet (values : List String) : List String := values.dedup.insertionSort (· ≤ ·)

@[simp] theorem mem_sortedSet {values : List String} {v : String} :
    v ∈ sortedSet values ↔ v ∈ values := by
  simp [sortedSet]

/-- `_identifier`, of a string. -/
def identifier (value : Option String) : Option String :=
  match value with
  | none => none
  | some value => if strip value = "" then none else some (strip value)

def asString (value : Option Json) : Option String :=
  match value with
  | some (.str s) => some s
  | _ => none

/-- `_identifier(value.get(key))`, of a value that is a dict. -/
def identifierAt (value : Option Json) (key : String) : Option String :=
  identifier (asString (value.bind fun v => v.get? key))

def asList (value : Option Json) : List Json :=
  match value with
  | some (.arr xs) => xs
  | _ => []

/-- `RuntimeDependencyReferences`. -/
structure References where
  configIds : List String
  deploymentIds : List String
  artifactPaths : List String
deriving DecidableEq

/-- `_references_overlap`. -/
def References.overlaps (left right : References) : Bool :=
  left.configIds.any (fun id => id ∈ right.configIds) ||
    left.deploymentIds.any fun id => id ∈ right.deploymentIds

/-! ## The parsers -/

section Parsers

variable (host : Host)

/-- `_references`, without paths. -/
def references (configIds deploymentIds : List String) : References :=
  ⟨sortedSet configIds, sortedSet deploymentIds, []⟩

def generationRuntimeDependencyReferences (task : GenerationRow) : References :=
  let fields := [task.llmConfig, task.evalLlmConfig, task.embeddingConfig, task.rerankConfig]
  references ((fields.filterMap fun field => identifierAt field "config_id") ++
    (identifier task.embeddingConfigId).toList) []

/-- The values of an evaluated model that may name a config or a deployment: its own, and those of
its groups. -/
def evaluatedGroups (raw : Json) : List (Option Json) :=
  if raw.isObj then
    some raw :: ["embedding", "rerank", "llm"].map fun group => raw.get? group
  else []

def evaluationRuntimeDependencyReferences (task : EvaluationRow) : References :=
  let groups := (asList task.modelConfigs).flatMap evaluatedGroups
  references
    ((groups.filterMap fun group => identifierAt group "config_id") ++
      (identifierAt task.llmConfig "config_id").toList ++
      (identifierAt (task.workerGroups.bind fun w => w.get? "retrieval_embedding_config")
        "config_id").toList)
    (groups.filterMap fun group => identifierAt group "deployment_id")

def externalSyncRuntimeDependencyReferences (task : SyncTaskRow) : References :=
  let fields := ["llm_config", "eval_llm_config", "embedding_config", "rerank_config"]
  references
    (fields.filterMap fun field =>
      identifierAt (task.generationConfig.bind fun config => config.get? field) "config_id") []

def Host.externalSyncTrainingArtifactPaths (task : SyncTaskRow)
    (targets : List Sync.ExternalSyncTrainingTarget) : List String :=
  if task.isActive then
    sortedSet
      ((host.canonicalizeArtifactPath
          (asString (task.trainingConfig.bind fun config => config.get? "base_model_path"))).toList
        ++ (targets.filter fun target => target.isActive).filterMap fun target =>
          host.canonicalizeArtifactPath (some target.baseModelPath))
  else []

def Host.externalSyncWriterDependencyReferences (task : SyncTaskRow)
    (targets : List Sync.ExternalSyncTrainingTarget) : References :=
  { configIds :=
      if task.isActive then (externalSyncRuntimeDependencyReferences task).configIds else []
    deploymentIds :=
      sortedSet ((identifier task.baseDeploymentId).toList ++
        targets.filterMap fun target => identifier target.baseDeploymentId)
    artifactPaths :=
      sortedSet ((host.externalSyncTrainingArtifactPaths task targets).filterMap fun path =>
        host.canonicalizeArtifactPath (some path)) }

def trainingArtifactPaths (task : TrainingRow) : List String :=
  let guideModel (lossConfig : Option Json) :=
    asString (lossConfig.bind fun c => c.get? "guide_model")
  [task.baseModelPath, guideModel task.lossConfig,
    asString (task.trainingParams.get? "base_model_path"),
    guideModel (task.trainingParams.get? "loss_config")].filterMap identifier

end Parsers

/-! ## Active tasks -/

def generationActiveStatuses : List Generation.GenerationStatus :=
  [.pending, .running, .stopping, .publishing, .recovering, .restarting]

def evaluationActiveStatuses : List EvaluationStatus := [.pending, .running]

def syncDeletingStatuses : List Sync.SyncStatus := [.deleting, .deletingCascade]

def trainingActiveStatuses : List Training.TrainingStatus :=
  [.pending, .preparing, .running, .evaluating]

def syncBindingActiveTrainingStatuses : List Sync.SyncTrainingStatus :=
  [.pending, .completed, .adapterLoaded]

def generationIsActive (snapshot : ExecutionSnapshot) (task : GenerationRow) : Bool :=
  task.status ∈ generationActiveStatuses || task.taskId ∈ snapshot.generationTaskIds

def evaluationIsActive (snapshot : ExecutionSnapshot) (task : EvaluationRow) : Bool :=
  task.status ∈ evaluationActiveStatuses || task.taskId ∈ snapshot.evaluationTaskIds

def externalSyncIsActive (task : SyncTaskRow) : Bool :=
  task.isActive && task.status ∉ syncDeletingStatuses

def trainingIsActive (executionTaskIds : List String) (task : TrainingRow) : Bool :=
  task.status ∈ trainingActiveStatuses || task.processPid.isSome || task.processStatus.isSome ||
    task.processCreateTime.isSome || task.taskId ∈ executionTaskIds

end Runtime
