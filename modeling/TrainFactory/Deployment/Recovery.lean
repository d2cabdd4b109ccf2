import Mathlib.Data.List.Sort
import TrainFactory.Deployment.Claims

/-!
# Recovery of a stale claim

`_recover_stale_replica_operation`: what its first session reads, what it concludes from the
runtime, and the session that takes the claim over, reconciles the adapters and marks the recovery.
-/

namespace Deployment

open Lib

def claimIsStale (d : DeploymentRow) (observedAt : Nat) : Bool :=
  truthy d.replicaOperationToken &&
    (d.replicaOperationHeartbeatAt <|> d.replicaOperationStartedAt).any fun heartbeatAt =>
      heartbeatAt + replicaOperationLease < observedAt

/-- The adapters that satisfy a condition, by their ids. -/
def Group.adaptersById (g : Group) (p : AdapterRow → Bool) : List AdapterRow :=
  (g.adapters.select p).insertionSort fun a b => a.adapterId ≤ b.adapterId

structure StaleClaim where
  usesReplicaLifecycle : Bool
  oldToken : Option String
  oldGeneration : Nat
  oldHeartbeat : Option Nat
  oldOperation : Option OperationKind
  oldReplicaId : Option String
  runtimeDeployment : DeploymentRow
  staleAdapters : List AdapterRow
  runtimeResetAdapters : List AdapterRow
  replicas : List ReplicaRow

def staleAdapters (g : Group) : List AdapterRow :=
  let d := g.deployment
  if d.usesReplicaLifecycle then []
  else
    match d.replicaOperationKind with
    | some .loadAdapter =>
      g.adaptersById fun a => a.deploymentReplicaId = none && a.status = .loading
    | some .unloadAdapter =>
      g.adaptersById fun a => a.deploymentReplicaId = none && a.status = .unloading
    | _ => []

def resetBinding (d : DeploymentRow) (a : AdapterRow) : Bool :=
  if d.usesReplicaLifecycle then
    match d.replicaOperationReplicaId with
    | none => a.deploymentReplicaId.isSome
    | some replicaId => a.deploymentReplicaId = some replicaId
  else a.deploymentReplicaId = none

def OperationKind.resetsRuntime : OperationKind → Bool
  | .start | .stop | .restart | .recreate => true
  | _ => false

def runtimeResetAdapters (g : Group) : List AdapterRow :=
  let d := g.deployment
  if d.replicaOperationKind.any OperationKind.resetsRuntime ∧
      (d.inferenceFramework = "vllm" ∨ d.inferenceFramework = "sglang") then
    g.adaptersById fun a => resetBinding d a && a.isActive
  else []

def readStaleClaim (userId : Option String) (observedAt : Nat) (g : Group) :
    Except DeploymentError (Option StaleClaim) := do
  let d := g.deployment
  requireReplicaAccess d userId
  if ¬ claimIsStale d observedAt then pure none
  else pure (some {
    usesReplicaLifecycle := d.usesReplicaLifecycle
    oldToken := d.replicaOperationToken
    oldGeneration := d.replicaOperationGeneration
    oldHeartbeat := d.replicaOperationHeartbeatAt <|> d.replicaOperationStartedAt
    oldOperation := d.replicaOperationKind
    oldReplicaId := d.replicaOperationReplicaId
    runtimeDeployment := d
    staleAdapters := staleAdapters g
    runtimeResetAdapters := runtimeResetAdapters g
    replicas :=
      if d.usesReplicaLifecycle then
        g.replicas.rows.insertionSort fun r s => r.replicaIndex ≤ s.replicaIndex
      else [] })

/-! ## The runtime -/

inductive ContainerView where
  | absent
  | notRunning
  | running (ready : Bool)

def observedReplicaState : ContainerView → ReplicaState
  | .absent => ⟨.stopped, .unknown, none⟩
  | .notRunning => ⟨.stopped, .unknown, none⟩
  | .running true => ⟨.running, .healthy, none⟩
  | .running false => ⟨.running, .unhealthy, some "replica readiness probe failed"⟩

/-- What the runtime answers while a claim is recovered; `none` is a call that raises. -/
structure RuntimeView where
  container : ReplicaRow → Option ContainerView
  /-- `_observe_legacy_runtime_status`. -/
  legacyStatus : Option (Option DeploymentStatus)
  /-- The names and paths of the adapters that a replica lists, or the deployment. -/
  adapters : Option ReplicaRow → Option (List (String × Option String))

variable (view : RuntimeView)

def staleLifecycleOperationMayHaveResetRuntime (operation : Option OperationKind)
    (persistedStatus observedStatus : DeploymentStatus) : Bool :=
  match operation with
  | some .stop => observedStatus = .stopped
  | some .start => persistedStatus = .starting
  | some .recreate => persistedStatus = .starting
  | some .restart => persistedStatus = .restarting
  | _ => false

def expectedAdapterPath (a : AdapterRow) : String :=
  normPath (replaceChar (strip a.adapterPath) '\\' "/")

def matchingPaths (a : AdapterRow) (runtimeAdapters : List (String × Option String)) :
    List (Option String) :=
  (runtimeAdapters.filter fun item => item.1 = a.adapterName).map Prod.snd

/-- `_runtime_reset_adapter_ids_absent_from_observation`; `none` where it raises. -/
def absentFromObservation (adapters : List AdapterRow)
    (runtimeAdapters : List (String × Option String)) : Option (List String) :=
  adapters.foldrM (fun a absent =>
    let paths := matchingPaths a runtimeAdapters
    if paths = [] then some (a.adapterId :: absent)
    else if some (expectedAdapterPath a) ∈ paths then some absent
    else none) []

/-- `_reconcile_stale_legacy_adapters`; `none` where it raises. -/
def reconcileStaleLegacyAdapters (adapters : List AdapterRow) (operation : Option OperationKind)
    (runtimeAdapters : List (String × Option String)) : Option (List (String × AdapterStatus)) :=
  adapters.mapM fun a =>
    let paths := matchingPaths a runtimeAdapters
    if paths = [] then
      some (a.adapterId, if operation = some .loadAdapter then .failed else .unloaded)
    else if some (expectedAdapterPath a) ∈ paths then some (a.adapterId, .loaded)
    else none

structure Observation where
  observedStates : List (String × ReplicaState)
  legacyStatus : Option DeploymentStatus
  staleAdapterUpdates : List (String × AdapterStatus)
  resetAdapterIds : List String

def resetAdapterIdsOf (stale : StaleClaim) (runtime : Option ReplicaRow)
    (persistedStatus observedStatus : DeploymentStatus) (bound : List AdapterRow) :
    Option (List String) :=
  if ¬ staleLifecycleOperationMayHaveResetRuntime stale.oldOperation persistedStatus
      observedStatus then some []
  else if observedStatus = .stopped then some (bound.map AdapterRow.adapterId)
  else if bound = [] then some []
  else (view.adapters runtime).bind fun listed => absentFromObservation bound listed

def observeReplicas (stale : StaleClaim) : Option Observation := do
  let states ← stale.replicas.mapM fun r => do
    let _ ← (expectedReplicaContainerName stale.runtimeDeployment r).toOption
    let seen ← view.container r
    pure (r, observedReplicaState seen)
  let resets ←
    if stale.runtimeResetAdapters = [] then pure []
    else
      (states.filter fun rs => stale.oldReplicaId.all (· = rs.1.replicaId)).mapM
        fun (r, state) => resetAdapterIdsOf view stale (some r) r.status state.status
          (stale.runtimeResetAdapters.filter fun a => a.deploymentReplicaId = some r.replicaId)
  pure ⟨states.map fun rs => (rs.1.replicaId, rs.2), none, [], resets.flatten⟩

def observeLegacy (stale : StaleClaim) : Option Observation := do
  let status ← view.legacyStatus
  let updates ←
    if stale.staleAdapters = [] then pure []
    else do
      let listed ← view.adapters none
      reconcileStaleLegacyAdapters stale.staleAdapters stale.oldOperation listed
  let resets ←
    if stale.runtimeResetAdapters = [] then pure []
    else
      resetAdapterIdsOf view stale none stale.runtimeDeployment.status (status.getD .stopped)
        stale.runtimeResetAdapters
  pure ⟨[], status, updates, resets⟩

/-- What a recovery observes; `none` where it refuses to recover. -/
def observeStaleClaim (stale : StaleClaim) : Option Observation :=
  if stale.usesReplicaLifecycle ∧ stale.replicas = [] ∧ stale.oldOperation ≠ some .delete then none
  else if stale.usesReplicaLifecycle then observeReplicas view stale
  else observeLegacy view stale

/-! ## Taking the claim over -/

def staleClock (stale : StaleClaim) (observedAt : Nat) (d : DeploymentRow) : Bool :=
  if stale.oldHeartbeat.isNone then
    d.replicaOperationHeartbeatAt.isNone &&
      d.replicaOperationStartedAt.any fun startedAt =>
        startedAt + replicaOperationLease < observedAt
  else
    d.replicaOperationHeartbeatAt.any fun heartbeatAt =>
      heartbeatAt + replicaOperationLease < observedAt

def StillStale (stale : StaleClaim) (observedAt : Nat) (d : DeploymentRow) : Prop :=
  d.replicaOperationToken = stale.oldToken ∧
    d.replicaOperationGeneration = stale.oldGeneration ∧ staleClock stale observedAt d = true

instance (stale : StaleClaim) (observedAt : Nat) (d : DeploymentRow) :
    Decidable (StillStale stale observedAt d) := inferInstanceAs (Decidable (_ ∧ _))

def resetAdapters (stale : StaleClaim) (observation : Observation) (observedAt : Nat) (g : Group) :
    Option (Table AdapterRow) :=
  let adaptersToReset :=
    stale.runtimeResetAdapters.filter fun a => a.adapterId ∈ observation.resetAdapterIds
  if adaptersToReset = [] then some g.adapters
  else
    let locked := (g.adaptersById AdapterRow.isActive).filter
      fun a => a.adapterId ∈ observation.resetAdapterIds
    if locked ≠ adaptersToReset then none
    else some (g.adapters.updateWhere
      (fun a => a.adapterId ∈ adaptersToReset.map AdapterRow.adapterId && a.isActive)
      (unloadedAfterReset observedAt) (key_unloadedAfterReset observedAt))

def legacyAdapterRecoverySignature (a : AdapterRow) :
    String × String × String × AdapterStatus × Option String :=
  (a.adapterId, a.adapterName, a.adapterPath, a.status, a.sourceModelId)

def reconciled (updates : List (String × AdapterStatus)) (now : Nat) (a : AdapterRow) :
    AdapterRow :=
  match updates.lookup a.adapterId with
  | none => a
  | some status => a.forceStatus status
      (if status = .failed then some "Adapter was absent during stale load recovery" else none) now

theorem key_reconciled (updates : List (String × AdapterStatus)) (now : Nat) (a : AdapterRow) :
    Keyed.key (reconciled updates now a) = Keyed.key a := by
  unfold reconciled
  cases updates.lookup a.adapterId <;> rfl

/-- The stale adapters of a legacy deployment, if they are still as they were read. -/
def reconcileAdapters (stale : StaleClaim) (observation : Observation) (now : Nat)
    (adapters : Table AdapterRow) : Option (Table AdapterRow) :=
  if stale.staleAdapters = [] then some adapters
  else
    let isStale (a : AdapterRow) : Bool := a.adapterId ∈ stale.staleAdapters.map AdapterRow.adapterId
    let locked := (adapters.select isStale).insertionSort fun a b => a.adapterId ≤ b.adapterId
    if locked.map legacyAdapterRecoverySignature ≠
        stale.staleAdapters.map legacyAdapterRecoverySignature then none
    else some (adapters.updateWhere isStale (reconciled observation.staleAdapterUpdates now)
      (key_reconciled observation.staleAdapterUpdates now))

def observedDeployment (observation : Observation) (now : Nat) (d : DeploymentRow) :
    Except DeploymentError DeploymentRow :=
  match observation.legacyStatus with
  | none => .ok d
  | some status => d.updateStatus status none now

def takeStaleClaim (stale : StaleClaim) (observation : Observation) (recoveryToken : String)
    (observedAt now : Nat) (g : Group) : Except DeploymentError (Option Claim × Group) :=
  if ¬ StillStale stale observedAt g.deployment then .ok (none, g)
  else
    let claim : Claim := ⟨recoveryToken, stale.oldGeneration + 1, .recover, none⟩
    let d := claimed recoveryToken .recover none observedAt g.deployment
    match resetAdapters stale observation observedAt g with
    | none => .ok (none, g)
    | some adapters =>
      if stale.usesReplicaLifecycle then
        .ok (some claim, { g with deployment := d, adapters := adapters })
      else
        match reconcileAdapters stale observation now adapters with
        | none => .ok (none, g)
        | some adapters => do
          let d ← observedDeployment observation now d
          .ok (some claim, { g with deployment := d, adapters := adapters })

/-! ## Runs -/

inductive ClaimOp where
  | tryClaim (args : ClaimRequest)
  | heartbeat (claim : Claim)
  | requireOwnership (claim : Claim)
  | release (claim : Claim)
  | takeStale (stale : StaleClaim) (observation : Observation) (recoveryToken : String)
      (observedAt : Nat)
  | markUnloaded (claim : Claim) (replicaId : Option String)
  | writeState (claim : Claim) (replicaId : String) (state : ReplicaState)
  | refreshGroup (claim : Claim)
  | syncReplica (replicaId : String) (generation : Nat) (state : ReplicaState)
  | syncGroup (generation : Nat)
  | syncLegacy (snapshot : DeploymentRow) (status : Option DeploymentStatus)
      (errorMessage : ProbeMessage)

/-- A session, and `now_naive()` in it. -/
structure TimedOp where
  op : ClaimOp
  now : Nat

/-- What a session leaves of the state: one that raises leaves it as it is. -/
def committed {α : Type} (g : Group) : Except DeploymentError (α × Group) → Group
  | .ok (_, g') => g'
  | .error _ => g

def plain (result : Except DeploymentError Group) : Except DeploymentError (Unit × Group) :=
  result.map fun g => ((), g)

/-- The state after a session. -/
def stepClaims (g : Group) (t : TimedOp) : Group :=
  match t.op with
  | .tryClaim args => committed g (tryClaim args g)
  | .heartbeat claim => (heartbeatReplicaOperation claim t.now g).2
  | .requireOwnership claim => committed g (plain (requireReplicaOperationOwnership claim t.now g))
  | .release claim => (releaseReplicaOperation claim g).2
  | .takeStale stale observation recoveryToken observedAt =>
    committed g (takeStaleClaim stale observation recoveryToken observedAt t.now g)
  | .markUnloaded claim replicaId =>
    committed g (plain (markAdaptersUnloadedAfterRuntimeReset claim replicaId t.now g))
  | .writeState claim replicaId state =>
    committed g (plain (writeReplicaState claim replicaId state t.now g))
  | .refreshGroup claim => committed g (plain (refreshGroupStatus claim t.now g))
  | .syncReplica replicaId generation state =>
    (writeReplicaSyncState replicaId generation state t.now g).2
  | .syncGroup generation => committed g (syncGroupStatus generation t.now g)
  | .syncLegacy snapshot status errorMessage =>
    committed g (writeLegacyStatusSyncState snapshot status errorMessage t.now g)

def grantedBy : Except DeploymentError (Option Claim × Group) → List Claim
  | .ok (some claim, _) => [claim]
  | _ => []

def grants (g : Group) (t : TimedOp) : List Claim :=
  match t.op with
  | .tryClaim args => grantedBy (tryClaim args g)
  | .takeStale stale observation recoveryToken observedAt =>
    grantedBy (takeStaleClaim stale observation recoveryToken observedAt t.now g)
  | _ => []

end Deployment
