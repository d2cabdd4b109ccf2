import TrainFactory.Lib.Json

/-!
# Replica planner

`replica_planner.py`: the GPUs, the container name and the port of each replica of a deployment. The
GPUs are planned first; then the ports are reserved one by one, and given back if the plan fails.
-/

namespace Deployment

open Lib

/-! ## Launch configs -/

structure ParallelSize where
  size : Nat
  atLeastOne : 1 ≤ size
  atMost64 : size ≤ 64

structure ReplicaGpuOverride where
  replicaIndex : Nat
  gpuIds : List Nat
  nonempty : gpuIds ≠ []
  nodup : gpuIds.Nodup

structure CommonLaunchConfig where
  tensorParallelSize : ParallelSize
  pipelineParallelSize : ParallelSize
  dataParallelSize : ParallelSize
  gpuPool : List Nat
  replicaGpuOverrides : List ReplicaGpuOverride
  allowGpuReuse : Bool
  poolNodup : gpuPool.Nodup
  uniqueIndexes : (replicaGpuOverrides.map ReplicaGpuOverride.replicaIndex).Nodup

def CommonLaunchConfig.required (config : CommonLaunchConfig) : Nat :=
  config.tensorParallelSize.size * config.pipelineParallelSize.size * config.dataParallelSize.size

/-- `overrides`: the indexes are unique, so that the dictionary has the entries of the list. -/
def CommonLaunchConfig.overrides (config : CommonLaunchConfig) : List (Nat × List Nat) :=
  config.replicaGpuOverrides.map fun override => (override.replicaIndex, override.gpuIds)

/-! ## GPUs -/

inductive PlanError where
  | valueError (message : String)
  | runtimeError (message : String)
  /-- What `find_available_port` raises. -/
  | allocator (message : String)
deriving DecidableEq

/-- `type(gpu_id) is int and gpu_id >= 0`. -/
def inventoryGpu : Json → Option Nat
  | .int gpuId => if 0 ≤ gpuId then some gpuId.toNat else none
  | _ => none

def strictGpuInventory (gpuInventory : List Json) : Except PlanError (List Nat) :=
  match gpuInventory.mapM inventoryGpu with
  | none => .error (.valueError "GPU inventory must contain non-negative integers")
  | some inventory =>
    if inventory.dedup.length ≠ inventory.length then
      .error (.valueError "GPU inventory must not contain duplicates")
    else .ok inventory

/-- `tuple(launch_config.gpu_pool) or inventory`. -/
def CommonLaunchConfig.pool (config : CommonLaunchConfig) (inventory : List Nat) : List Nat :=
  if config.gpuPool = [] then inventory else config.gpuPool

def checkOverrides (required : Nat) (pool : List Nat) :
    List (Nat × List Nat) → Except PlanError Unit
  | [] => .ok ()
  | (_, gpuIds) :: overrides =>
    if gpuIds.length ≠ required then
      .error (.valueError
        ("each replica override must contain exactly " ++ toString required ++ " GPUs"))
    else if gpuIds.any (· ∉ pool) then
      .error (.valueError "replica override contains a GPU outside the GPU pool")
    else checkOverrides required pool overrides

def overriddenIds (overrides : List (Nat × List Nat)) : List Nat := overrides.flatMap Prod.snd

def remainingGpus (pool : List Nat) (overrides : List (Nat × List Nat)) : List Nat :=
  pool.filter fun gpuId => gpuId ∉ overriddenIds overrides

def assignReplicas (required : Nat) (overrides : List (Nat × List Nat)) (remaining : List Nat) :
    Nat → List Nat → List (List Nat)
  | _, [] => []
  | cursor, replicaIndex :: replicas =>
    match overrides.lookup replicaIndex with
    | some override => override :: assignReplicas required overrides remaining cursor replicas
    | none => (remaining.drop cursor).take required ::
        assignReplicas required overrides remaining (cursor + required) replicas

/-- `type(replica_count) is int and 1 <= replica_count <= 8`. -/
def replicaCountOf : Json → Option Nat
  | .int count => if 1 ≤ count ∧ count ≤ 8 then some count.toNat else none
  | _ => none

def planGpuAssignments (launchConfig : CommonLaunchConfig) (replicaCount : Json)
    (gpuInventory : List Json) : Except PlanError (List (List Nat)) :=
  match replicaCountOf replicaCount with
  | none => .error (.valueError "replica count must be an integer between 1 and 8")
  | some count =>
    match strictGpuInventory gpuInventory with
    | .error e => .error e
    | .ok inventory =>
      let pool := launchConfig.pool inventory
      let required := launchConfig.required
      let overrides := launchConfig.overrides
      if pool.any (· ∉ inventory) then
        .error (.valueError "GPU pool contains an ID outside the trusted GPU inventory")
      else if overrides.any fun override => count ≤ override.1 then
        .error (.valueError "replica override index is outside the requested replica count")
      else
        match checkOverrides required pool overrides with
        | .error e => .error e
        | .ok () =>
          let overridden := overriddenIds overrides
          let remaining := remainingGpus pool overrides
          if !launchConfig.allowGpuReuse ∧ overridden.dedup.length ≠ overridden.length then
            .error (.valueError "GPU reuse across replicas requires allow_gpu_reuse=true")
          else if (remaining.length : Int) < ((count : Int) - overrides.length) * required then
            .error (.valueError "insufficient GPUs for the requested replica topology")
          else .ok (assignReplicas required overrides remaining 0 (List.range count))

/-! ## Ports -/

inductive PortCall where
  | findAvailablePort (ownerToken : String) (answer : Except PlanError Json)
  | releasePort (port : Nat) (ownerToken : String)

/-- `PortAllocator`: the answer of the next `find_available_port`, after the calls so far. -/
abbrev PortAllocator := List PortCall → Except PlanError Json

/-- `type(port) is int and 1 <= port <= 65535`. -/
def portOf : Json → Option Nat
  | .int port => if 1 ≤ port ∧ port ≤ 65535 then some port.toNat else none
  | _ => none

/-- What the loop over the ports has done. -/
structure Reservation where
  raised : Option PlanError
  reservedPorts : List Nat
  calls : List PortCall

def reservePorts (portAllocator : PortAllocator) (ownerToken : String) :
    Nat → List Nat → List PortCall → Reservation
  | 0, reservedPorts, calls => ⟨none, reservedPorts, calls⟩
  | replicas + 1, reservedPorts, calls =>
    let answer := portAllocator calls
    let calls := calls ++ [.findAvailablePort ownerToken answer]
    match answer with
    | .error e => ⟨some e, reservedPorts, calls⟩
    | .ok value =>
      match portOf value with
      | none => ⟨some (.runtimeError "port allocator returned an invalid port"), reservedPorts, calls⟩
      | some port =>
        if port ∈ reservedPorts then
          ⟨some (.runtimeError "port allocator returned a duplicate port"), reservedPorts, calls⟩
        else reservePorts portAllocator ownerToken replicas (reservedPorts ++ [port]) calls

def releasePorts (ownerToken : String) (reservedPorts : List Nat) (calls : List PortCall) :
    List PortCall :=
  calls ++ reservedPorts.reverse.map fun port => .releasePort port ownerToken

/-! ## Plans -/

def isContainerName (name : String) : Bool :=
  match name.toList with
  | [] => false
  | c :: cs => c.isAlphanum && cs.length ≤ 127 &&
      cs.all fun c => c.isAlphanum || c = '_' || c = '.' || c = '-'

structure ReplicaPlan where
  replicaIndex : Nat
  containerName : String
  gpuIds : List Nat
  port : Nat
  endpoint : String

structure DeploymentPlan where
  replicas : List ReplicaPlan
  requiredGpusPerReplica : Nat
  reservationOwner : String

def replicaName (baseContainerName : String) (replicaIndex : Nat) : String :=
  if replicaIndex = 0 then baseContainerName
  else baseContainerName ++ "-r" ++ toString replicaIndex

/-- The loop that builds the replicas, from an index on; a name that is not valid gives back the
ports. -/
def buildReplicas (baseContainerName ownerToken : String) (reservedPorts : List Nat)
    (calls : List PortCall) :
    Nat → List (List Nat) → List Nat → Except PlanError (List ReplicaPlan) × List PortCall
  | _, [], [] => (.ok [], calls)
  | replicaIndex, gpuIds :: assignments, port :: ports =>
    let containerName := replicaName baseContainerName replicaIndex
    if ¬ isContainerName containerName then
      (.error (.valueError "replica container name is invalid"),
        releasePorts ownerToken reservedPorts calls)
    else
      match buildReplicas baseContainerName ownerToken reservedPorts calls (replicaIndex + 1)
          assignments ports with
      | (.error e, calls) => (.error e, calls)
      | (.ok replicas, calls) =>
        (.ok ({ replicaIndex, containerName, gpuIds, port
                endpoint := "http://" ++ containerName ++ ":" ++ toString port } :: replicas),
          calls)
  -- `zip(..., strict=True)` of sequences of different lengths
  | _, _, _ => (.error (.valueError "zip() arguments differ in length"), calls)

def planDeploymentReplicas (baseContainerName : String) (replicaCount : Json)
    (launchConfig : CommonLaunchConfig) (gpuInventory : List Json) (portAllocator : PortAllocator)
    (ownerToken : String) : Except PlanError DeploymentPlan × List PortCall :=
  if ¬ isContainerName baseContainerName then
    (.error (.valueError "base container name is invalid"), [])
  else if ownerToken = "" then
    (.error (.valueError "port reservation owner token must be non-empty"), [])
  else
    match planGpuAssignments launchConfig replicaCount gpuInventory with
    | .error e => (.error e, [])
    | .ok assignments =>
      match reservePorts portAllocator ownerToken ((replicaCountOf replicaCount).getD 0) [] [] with
      | ⟨some e, reservedPorts, calls⟩ => (.error e, releasePorts ownerToken reservedPorts calls)
      | ⟨none, reservedPorts, calls⟩ =>
        match buildReplicas baseContainerName ownerToken reservedPorts calls 0 assignments
            reservedPorts with
        | (.error e, calls) => (.error e, calls)
        | (.ok replicas, calls) =>
          (.ok { replicas, requiredGpusPerReplica := launchConfig.required
                 reservationOwner := ownerToken }, calls)

end Deployment
