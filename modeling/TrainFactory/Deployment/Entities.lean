import TrainFactory.Lib.Json
import TrainFactory.Lib.Table

/-!
# Deployments

The row of a deployment, those of its replicas and of the adapters that they have loaded, and the
claim under which an operation may change them.
-/

namespace Deployment

open Lib

/-- `DeploymentStatus`, and the statuses of replicas. -/
inductive DeploymentStatus where
  | pending | starting | running | degraded | restarting | stopping | stopped | failed
deriving DecidableEq

def validTransitions : DeploymentStatus → List DeploymentStatus
  | .pending => [.starting, .failed, .stopping, .stopped, .restarting]
  | .starting => [.running, .degraded, .failed, .stopping, .stopped, .restarting]
  | .running => [.degraded, .stopping, .stopped, .failed, .restarting]
  | .degraded => [.starting, .running, .stopping, .stopped, .failed, .restarting]
  | .stopping => [.stopped, .degraded, .failed, .restarting]
  | .stopped => [.starting, .pending, .restarting, .degraded]
  | .failed => [.pending, .starting, .stopping, .restarting, .degraded]
  | .restarting => [.running, .degraded, .failed, .stopped]

inductive HealthStatus where
  | healthy | unhealthy | unknown
deriving DecidableEq

/-- `replica_operation_kind`. -/
inductive OperationKind where
  | start | stop | restart | recreate | delete | loadAdapter | unloadAdapter | recover
deriving DecidableEq

/-- `ReplicaOperationClaim`, on the deployment of the state. -/
structure Claim where
  token : String
  generation : Nat
  operation : OperationKind
  replicaId : Option String
deriving DecidableEq

/-- `DeploymentDB`. -/
structure DeploymentRow where
  modelId : String
  modelUid : Option String
  xinferenceEndpoint : String
  deployMode : String
  containerName : Option String
  gpuId : Option Int
  inferenceFramework : String
  externalApiConfigId : Option String
  config : Option Json
  healthStatus : HealthStatus
  status : DeploymentStatus
  errorMessage : Option String
  userId : Option String
  updatedAt : Nat
  startedAt : Option Nat
  stoppedAt : Option Nat
  replicaOperationToken : Option String
  replicaOperationKind : Option OperationKind
  replicaOperationReplicaId : Option String
  replicaOperationGeneration : Nat
  replicaOperationStartedAt : Option Nat
  replicaOperationHeartbeatAt : Option Nat

/-- `DeploymentReplicaDB`. -/
structure ReplicaRow where
  replicaId : String
  replicaIndex : Nat
  containerName : String
  endpoint : String
  gpuIds : List Int
  status : DeploymentStatus
  healthStatus : HealthStatus
  errorMessage : Option String
  updatedAt : Nat
  startedAt : Option Nat
  stoppedAt : Option Nat
deriving DecidableEq

instance : Keyed ReplicaRow String := ⟨ReplicaRow.replicaId⟩

@[simp] theorem key_replica (r : ReplicaRow) : Keyed.key r = r.replicaId := rfl

/-- The statuses of `LoadedAdapterDB`. -/
inductive AdapterStatus where
  | loading | loaded | unloading | unloaded | failed
deriving DecidableEq

/-- `LoadedAdapterDB`. -/
structure AdapterRow where
  adapterId : String
  deploymentReplicaId : Option String
  adapterName : String
  adapterPath : String
  sourceTaskId : Option String
  sourceModelId : Option String
  status : AdapterStatus
  errorMessage : Option String
  userId : Option String
  loadedAt : Nat
  unloadedAt : Option Nat
deriving DecidableEq

instance : Keyed AdapterRow String := ⟨AdapterRow.adapterId⟩

@[simp] theorem key_adapter (a : AdapterRow) : Keyed.key a = a.adapterId := rfl

/-- The status is `loading`, `loaded` or `unloading`. -/
def AdapterRow.isActive (a : AdapterRow) : Bool :=
  a.status = .loading || a.status = .loaded || a.status = .unloading

def AdapterRow.forceStatus (a : AdapterRow) (status : AdapterStatus)
    (errorMessage : Option String) (now : Nat) : AdapterRow :=
  { a with
    status := status
    errorMessage := if errorMessage.isSome then errorMessage else a.errorMessage
    unloadedAt := if status = .unloaded then some now else a.unloadedAt }

/-- One deployment with its replicas and adapters. -/
structure Group where
  deployment : DeploymentRow
  replicas : Table ReplicaRow
  adapters : Table AdapterRow

/-- What the operations raise. -/
inductive DeploymentError where
  | valueError (message : String)
  /-- `Invalid status transition`, from the first status to the second. -/
  | invalidTransition (old new : DeploymentStatus)
  | runtimeError (message : String)
  /-- `ReplicaOperationBusyError`. -/
  | busy (message : String)
  /-- `ReplicaOperationLostError`. -/
  | lost
  /-- `DeploymentReplicaNotFoundError`. -/
  | notFound (message : String)
  /-- `DeploymentReplicaStateConflictError`. -/
  | stateConflict (message : String)
deriving DecidableEq

/-- The columns that `update_status` writes. -/
def DeploymentRow.withStatus (d : DeploymentRow) (status : DeploymentStatus)
    (errorMessage : Option String) (now : Nat) : DeploymentRow :=
  { d with
    status := status
    updatedAt := now
    errorMessage :=
      if truthy errorMessage then errorMessage
      else if status = .running then none else d.errorMessage
    startedAt := if status = .running ∧ d.startedAt = none then some now else d.startedAt
    stoppedAt := if status = .stopped ∨ status = .failed then some now else d.stoppedAt }

def DeploymentRow.updateStatus (d : DeploymentRow) (status : DeploymentStatus)
    (errorMessage : Option String) (now : Nat) : Except DeploymentError DeploymentRow :=
  if status ∉ validTransitions d.status ∧ status ≠ d.status then
    .error (.invalidTransition d.status status)
  else .ok (d.withStatus status errorMessage now)

end Deployment
