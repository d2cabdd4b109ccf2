import TrainFactory.Lib.Json
import TrainFactory.Lib.Result
import TrainFactory.Lib.Table

/-!
# Model configs

The rows of `model_configs`, and the columns of the deployments and of their replicas that a local
config is bound to.
-/

namespace ModelConfig

open Lib

/-- `ModelConfigDB`. -/
structure ConfigRow where
  configId : String
  configName : String
  sourceType : String
  registryId : Option String
  deploymentId : Option String
  deploymentReplicaId : Option String
  containerName : Option String
  inferenceFramework : Option String
  modelType : String
  provider : String
  apiEndpoint : String
  apiKey : Option String
  modelName : String
  providerConfig : Option Json
  defaultParams : Option Json
  description : Option String
  tags : Option (List String)
  status : String
  /-- Whether this is the default config for its `model_type`. -/
  isDefault : Bool
  lastCheckStatus : Option String
  lastCheckTime : Option Nat
  lastCheckError : Option String
  userId : Option String
  updatedAt : Nat

instance : Keyed ConfigRow String := ⟨ConfigRow.configId⟩

@[simp] theorem key_config (c : ConfigRow) : Keyed.key c = c.configId := rfl

/-- `DeploymentDB`. -/
structure DeploymentRow where
  deploymentId : String
  userId : Option String
  replicaOperationKind : Option String
  xinferenceEndpoint : String
  containerName : Option String
  inferenceFramework : Option String

/-- `DeploymentReplicaDB`. -/
structure ReplicaRow where
  replicaId : String
  deploymentId : String
  replicaIndex : Nat
  endpoint : String
  containerName : String
  status : String
  healthStatus : String

structure Deployments where
  deployments : List DeploymentRow
  replicas : List ReplicaRow

inductive ConfigError where
  | valueError (message : String)
  | integrityError
  /-- `ReplicaOperationBusyError`. -/
  | busy (message : String)
  /-- `ModelDeletionInProgressError`. -/
  | modelDeletionInProgress (message : String)
  /-- `RuntimeDependencyUnavailableError`. -/
  | dependencyUnavailable (message : String)

/-- The endpoint, container, framework and replica of a local config, and whether they are those of
a replica. -/
structure Binding where
  endpoint : String
  containerName : String
  inferenceFramework : String
  replicaId : Option String
  trustedChild : Bool

/-- `value or default`. -/
def orElse (value : Option String) (default : String) : String :=
  if truthy value then value.getD default else default

def chooseReplica (replicas : List ReplicaRow) (deploymentReplicaId : Option String) :
    Except ConfigError ReplicaRow :=
  match deploymentReplicaId with
  | none =>
    match replicas with
    | [replica] => .ok replica
    | _ => .error (.valueError "replica_id is required for multi-replica deployment")
  | some replicaId =>
    match replicas.find? fun r => r.replicaId = replicaId with
    | some replica => .ok replica
    | none => .error (.valueError "deployment replica not found")

def Deployments.resolveLocalDeploymentBinding (db : Deployments)
    (deploymentId deploymentReplicaId userId : Option String) (requireHealthy : Bool) :
    Except ConfigError Binding :=
  if ¬ truthy deploymentId then
    .error (.valueError "local deployment config requires deployment_id")
  else
    match db.deployments.find? fun d => some d.deploymentId = deploymentId with
    | none => .error (.valueError "deployment not found")
    | some deployment =>
      if userId.isSome ∧ deployment.userId ≠ userId then
        .error (.valueError "deployment not found")
      else if deployment.replicaOperationKind = some "delete" then
        .error (.busy "deployment is being deleted")
      else
        match (db.replicas.filter fun r => some r.deploymentId = deploymentId).mergeSort
            fun r r' => r.replicaIndex ≤ r'.replicaIndex with
        | [] => .ok
          { endpoint := deployment.xinferenceEndpoint
            containerName := orElse deployment.containerName ""
            inferenceFramework := orElse deployment.inferenceFramework "xinference"
            replicaId := none
            trustedChild := false }
        | replicas => do
          let replica ← chooseReplica replicas deploymentReplicaId
          if requireHealthy ∧ ¬ (replica.status = "running" ∧ replica.healthStatus = "HEALTHY") then
            .error (.valueError "deployment replica is not running and healthy")
          else
            .ok
              { endpoint := replica.endpoint
                containerName := replica.containerName
                inferenceFramework := orElse deployment.inferenceFramework "xinference"
                replicaId := some replica.replicaId
                trustedChild := true }

end ModelConfig
