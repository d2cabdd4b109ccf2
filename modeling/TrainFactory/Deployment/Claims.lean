import TrainFactory.Deployment.Entities
import TrainFactory.Lib.PosixPath

/-!
# The claim of a deployment operation

The sessions that grant, renew, release and recover the claim of a deployment, the writes of its
owner, and the writes of a status observation, which require that nobody has claimed the deployment
since. Each function is one session, on the deployment of the state.
-/

namespace Deployment

open Lib

variable {g : Group}

/-- `REPLICA_OPERATION_LEASE_SECONDS`, in microseconds. -/
def replicaOperationLease : Nat := 120 * 1000000

def replicaSchemaVersionKey : String := "replica_schema_version"

/-- `config.get(key)`, of a config that may be missing. -/
def configGet (config : Option Json) (key : String) : Option Json :=
  config.bind fun value => value.get? key

def DeploymentRow.usesReplicaLifecycle (d : DeploymentRow) : Bool :=
  (d.inferenceFramework = "vllm" || d.inferenceFramework = "sglang") &&
    match configGet d.config replicaSchemaVersionKey with
    | some (.int version) => version = 1
    | _ => false

def requireReplicaAccess (d : DeploymentRow) (userId : Option String) :
    Except DeploymentError Unit :=
  if userId.isSome ∧ d.userId ≠ userId then .error (.notFound "deployment access denied")
  else .ok ()

def expectedReplicaContainerName (d : DeploymentRow) (r : ReplicaRow) :
    Except DeploymentError String :=
  let name := d.containerName.getD ""
  let expected := if r.replicaIndex = 0 then name else name ++ "-r" ++ toString r.replicaIndex
  if name = "" ∨ r.containerName ≠ expected then
    .error (.valueError "deployment replica container name is invalid")
  else .ok expected

/-! ## Claims -/

/-- The arguments of a claim, the verdicts that its session gets, and the token. -/
structure ClaimRequest where
  operation : OperationKind
  replicaId : Option String
  userId : Option String
  claimedAt : Nat
  token : String
  /-- The model that the runtime needs is available. -/
  modelLock : Except DeploymentError Unit
  /-- The GPU of the deployment, if the GPUs are free. -/
  gpuAdmission : Except DeploymentError (Option Int)

def claimed (token : String) (operation : OperationKind) (replicaId : Option String) (time : Nat)
    (d : DeploymentRow) : DeploymentRow :=
  { d with
    replicaOperationToken := some token
    replicaOperationKind := some operation
    replicaOperationReplicaId := replicaId
    replicaOperationGeneration := d.replicaOperationGeneration + 1
    replicaOperationStartedAt := some time
    replicaOperationHeartbeatAt := some time }

def checkClaimedReplica (g : Group) (replicaId : Option String) : Except DeploymentError Unit :=
  match replicaId with
  | none => .ok ()
  | some id =>
    if ¬ g.deployment.usesReplicaLifecycle then
      .error (.stateConflict "legacy deployment operations require replica_id=None")
    else
      match g.replicas.lookup id with
      | none => .error (.notFound "deployment replica not found")
      | some r => (expectedReplicaContainerName g.deployment r).map fun _ => ()

/-- `try_claim`: the claim, if nobody holds one. -/
def tryClaim (args : ClaimRequest) (g : Group) : Except DeploymentError (Option Claim × Group) := do
  args.modelLock
  requireReplicaAccess g.deployment args.userId
  checkClaimedReplica g args.replicaId
  let gpuId ← args.gpuAdmission
  if g.deployment.replicaOperationToken ≠ none then pure (none, g)
  else
    let d := claimed args.token args.operation args.replicaId args.claimedAt
      { g.deployment with gpuId }
    pure (some ⟨args.token, d.replicaOperationGeneration, args.operation, args.replicaId⟩,
      { g with deployment := d })

def Holds (g : Group) (claim : Claim) : Prop :=
  g.deployment.replicaOperationToken = some claim.token ∧
    g.deployment.replicaOperationGeneration = claim.generation

instance (g : Group) (claim : Claim) : Decidable (Holds g claim) :=
  inferInstanceAs (Decidable (_ ∧ _))

/-- The row has the token, the generation, the kind and the replica of the claim. -/
def HoldsExactly (g : Group) (claim : Claim) : Prop :=
  Holds g claim ∧ g.deployment.replicaOperationKind = some claim.operation ∧
    g.deployment.replicaOperationReplicaId = claim.replicaId

instance (g : Group) (claim : Claim) : Decidable (HoldsExactly g claim) :=
  inferInstanceAs (Decidable (_ ∧ _))

def Group.withDeployment (g : Group) (f : DeploymentRow → DeploymentRow) : Group :=
  { g with deployment := f g.deployment }

/-- The column of a heartbeat. -/
def beaten (now : Nat) (d : DeploymentRow) : DeploymentRow :=
  { d with replicaOperationHeartbeatAt := some now }

/-- `_heartbeat_replica_operation`, and whether the claim is held. -/
def heartbeatReplicaOperation (claim : Claim) (now : Nat) (g : Group) : Bool × Group :=
  if HoldsExactly g claim then (true, g.withDeployment (beaten now)) else (false, g)

def requireReplicaOperationOwnership (claim : Claim) (now : Nat) (g : Group) :
    Except DeploymentError Group :=
  if HoldsExactly g claim then .ok (g.withDeployment (beaten now)) else .error .lost

def released (d : DeploymentRow) : DeploymentRow :=
  { d with
    replicaOperationToken := none
    replicaOperationKind := none
    replicaOperationReplicaId := none
    replicaOperationStartedAt := none
    replicaOperationHeartbeatAt := none }

/-- `_release_replica_operation`, and whether the claim was held. -/
def releaseReplicaOperation (claim : Claim) (g : Group) : Bool × Group :=
  if HoldsExactly g claim then (true, g.withDeployment released) else (false, g)

/-! ## Writes of the owner -/

def unloadedAfterReset (resetAt : Nat) (a : AdapterRow) : AdapterRow :=
  { a with status := .unloaded, errorMessage := none, unloadedAt := some resetAt }

theorem key_unloadedAfterReset (resetAt : Nat) (a : AdapterRow) :
    Keyed.key (unloadedAfterReset resetAt a) = Keyed.key a := rfl

def markAdaptersUnloadedAfterRuntimeReset (claim : Claim) (replicaId : Option String) (now : Nat)
    (g : Group) : Except DeploymentError Group :=
  if claim.replicaId.isSome ∧ claim.replicaId ≠ replicaId then .error .lost
  else if HoldsExactly g claim then
    .ok { g.withDeployment (beaten now) with
      adapters := g.adapters.updateWhere
        (fun a => a.deploymentReplicaId = replicaId && a.isActive) (unloadedAfterReset now)
        (key_unloadedAfterReset now) }
  else .error .lost

structure ReplicaState where
  status : DeploymentStatus
  healthStatus : HealthStatus
  errorMessage : Option String
deriving DecidableEq

def withState (state : ReplicaState) (now : Nat) (r : ReplicaRow) : ReplicaRow :=
  { r with
    status := state.status
    healthStatus := state.healthStatus
    errorMessage := state.errorMessage
    updatedAt := now
    startedAt := if state.status = .running then some (r.startedAt.getD now) else r.startedAt
    stoppedAt := if state.status = .stopped ∨ state.status = .failed then some now
      else r.stoppedAt }

theorem key_withState (state : ReplicaState) (now : Nat) (r : ReplicaRow) :
    Keyed.key (withState state now r) = Keyed.key r := rfl

def Group.writeReplica (g : Group) (replicaId : String) (state : ReplicaState) (now : Nat) :
    Group :=
  { g with
    replicas := g.replicas.update replicaId (withState state now) (key_withState state now) }

def writeReplicaState (claim : Claim) (replicaId : String) (state : ReplicaState) (now : Nat)
    (g : Group) : Except DeploymentError Group :=
  if Holds g claim ∧ (g.replicas.lookup replicaId).isSome then
    .ok (g.writeReplica replicaId state now)
  else .error .lost

def deriveGroupStatus (replicas : List ReplicaRow) : Except DeploymentError DeploymentStatus :=
  if replicas = [] then .error (.valueError "deployment replica group is empty")
  else if replicas.all fun r => r.status = .running ∧ r.healthStatus = .healthy then .ok .running
  else if replicas.all fun r => r.status = .stopped then .ok .stopped
  else if replicas.all fun r => r.status = .failed then .ok .failed
  else .ok .degraded

def withGroupStatus (status : DeploymentStatus) (now : Nat) (d : DeploymentRow) : DeploymentRow :=
  { d with
    status := status
    healthStatus :=
      if status = .running then .healthy else if status = .failed then .unhealthy else .unknown
    errorMessage :=
      if status = .running ∨ status = .stopped then none else some "replica group degraded"
    updatedAt := now }

def refreshGroupStatus (claim : Claim) (now : Nat) (g : Group) : Except DeploymentError Group := do
  let status ← deriveGroupStatus g.replicas.rows
  if Holds g claim then .ok (g.withDeployment (withGroupStatus status now)) else .error .lost

/-! ## Writes of an observation -/

/-- Nobody holds a claim, nor has been granted one since the generation was read. -/
def Unclaimed (g : Group) (generation : Nat) : Prop :=
  g.deployment.replicaOperationToken = none ∧
    g.deployment.replicaOperationGeneration = generation

instance (g : Group) (generation : Nat) : Decidable (Unclaimed g generation) :=
  inferInstanceAs (Decidable (_ ∧ _))

def syncSnapshot (g : Group) : Option Nat :=
  if g.deployment.replicaOperationToken = none then
    some g.deployment.replicaOperationGeneration
  else none

/-- `_write_replica_sync_state`, and whether the observation is persisted. -/
def writeReplicaSyncState (replicaId : String) (generation : Nat) (state : ReplicaState)
    (now : Nat) (g : Group) : Bool × Group :=
  if Unclaimed g generation ∧ (g.replicas.lookup replicaId).isSome then
    (true, g.writeReplica replicaId state now)
  else (false, g)

def syncGroupStatus (generation now : Nat) (g : Group) : Except DeploymentError (Bool × Group) := do
  let status ← deriveGroupStatus g.replicas.rows
  if Unclaimed g generation then pure (true, g.withDeployment (withGroupStatus status now))
  else pure (false, g)

/-- `_legacy_status_sync_snapshot` of a deployment that nobody has claimed. -/
def legacySyncSnapshot (g : Group) : Option DeploymentRow :=
  if g.deployment.replicaOperationToken = none ∧ ¬ g.deployment.usesReplicaLifecycle then
    some g.deployment
  else none

abbrev ProbeMessage := Option (Option String)

def legacyStatusSyncValues (snapshot : DeploymentRow) (status : Option DeploymentStatus)
    (errorMessage : ProbeMessage) (now : Nat) (d : DeploymentRow) :
    Except DeploymentError DeploymentRow :=
  let nextStatus := status.getD snapshot.status
  if nextStatus ≠ snapshot.status ∧ nextStatus ∉ validTransitions snapshot.status then
    .error (.invalidTransition snapshot.status nextStatus)
  else .ok { d with
    status := nextStatus
    updatedAt := now
    errorMessage :=
      match errorMessage with
      | some message => message
      | none =>
        if nextStatus = .running ∧ nextStatus ≠ snapshot.status then none else d.errorMessage
    startedAt := if nextStatus = .running ∧ snapshot.startedAt = none then some now else d.startedAt
    stoppedAt :=
      if (nextStatus = .stopped ∨ nextStatus = .failed) ∧ nextStatus ≠ snapshot.status then some now
      else d.stoppedAt }

def SameProbe (snapshot d : DeploymentRow) : Prop :=
  d.status = snapshot.status ∧ d.updatedAt = snapshot.updatedAt ∧ d.modelId = snapshot.modelId ∧
    d.modelUid = snapshot.modelUid ∧ d.xinferenceEndpoint = snapshot.xinferenceEndpoint ∧
    d.userId = snapshot.userId ∧ d.deployMode = snapshot.deployMode ∧
    d.containerName = snapshot.containerName ∧
    d.inferenceFramework = snapshot.inferenceFramework ∧
    d.errorMessage = snapshot.errorMessage ∧ d.startedAt = snapshot.startedAt ∧
    d.stoppedAt = snapshot.stoppedAt

instance (snapshot d : DeploymentRow) : Decidable (SameProbe snapshot d) :=
  inferInstanceAs (Decidable (_ ∧ _))

/-- `_write_legacy_status_sync_state`, and whether the observation is persisted. -/
def writeLegacyStatusSyncState (snapshot : DeploymentRow) (status : Option DeploymentStatus)
    (errorMessage : ProbeMessage) (now : Nat) (g : Group) :
    Except DeploymentError (Bool × Group) := do
  let d ← legacyStatusSyncValues snapshot status errorMessage now g.deployment
  if Unclaimed g snapshot.replicaOperationGeneration ∧ SameProbe snapshot g.deployment then
    pure (true, { g with deployment := d })
  else pure (false, g)

end Deployment
