import TrainFactory.Lib.Text
import TrainFactory.Lib.Dict
import TrainFactory.Training.Entities

/-!
# GPU leases and reservations

`GPUResourceManager`: the in-memory tables that say which lease holds which GPU, the reservations
that are read from the database on every admission, and the entry points that grant a GPU.
-/

namespace Gpu

open Lib Training

/-- What an admission raises. -/
inductive GpuError where
  /-- `GPUReservationConflict`. -/
  | reservationConflict (message : String)
  | valueError (message : String)
  | typeError (message : String)
  /-- The database cannot be read. -/
  | database
deriving DecidableEq

/-! ## Rows -/

inductive DeploymentStatus where
  | pending | starting | running | degraded | restarting | stopping | stopped | failed
deriving DecidableEq

structure Deployment where
  deploymentId : String
  status : DeploymentStatus
  deployMode : String
  xinferenceEndpoint : String
  gpuId : Option Int
  replicaOperationToken : Option String
  replicaOperationKind : Option String
  replicaOperationReplicaId : Option String

structure DeploymentReplica where
  replicaId : String
  deploymentId : String
  status : DeploymentStatus
  gpuIds : List Json

instance : Keyed Deployment String := ⟨Deployment.deploymentId⟩
instance : Keyed DeploymentReplica String := ⟨DeploymentReplica.replicaId⟩

@[simp] theorem key_deployment (d : Deployment) : Keyed.key d = d.deploymentId := rfl
@[simp] theorem key_deploymentReplica (r : DeploymentReplica) : Keyed.key r = r.replicaId := rfl

/-- The rows an admission reads. Task ids and run tokens are `uuid4` strings: they have no colon. -/
structure RuntimeRows where
  tasks : Table TrainingTask
  deployments : Table Deployment
  replicas : Table DeploymentReplica
  noColon : ∀ t ∈ tasks, ':' ∉ t.taskId.toList ∧ ':' ∉ (t.runToken.getD "").toList

/-- What the host and the standard library say about an endpoint. -/
structure Host where
  /-- `urlsplit(endpoint).hostname or ""`; `none` where it raises `ValueError`. -/
  urlHostname : String → Option String
  /-- `ip_address(hostname).is_loopback`; `none` where it raises `ValueError`. -/
  isLoopback : String → Option Bool
  /-- `XINFERENCE_CONTAINER_NAME` and `COMPOSE_PROJECT_NAME`. -/
  xinferenceContainerName : Option String
  composeProjectName : Option String

/-! ## Reservations -/

def strictDeviceParts : List String → Except GpuError (Option (List Int))
  | [] => .ok (some [])
  | part :: parts =>
    let digits := dropChars part 5
    if ¬ startsWith part "cuda:" ∨ digits = "" ∨ ¬ digits.toList.all Char.isDigit then .ok none
    else
      match parseInt digits with
      | none => .error (.valueError "Exceeds the limit for integer string conversion")
      | some gpuId =>
        match strictDeviceParts parts with
        | .error e => .error e
        | .ok none => .ok none
        | .ok (some gpuIds) => .ok (some (gpuId :: gpuIds))

/-- `_strict_device_ids`; `none` is an unknown device. -/
def strictDeviceIds : Json → Except GpuError (Option (List Int))
  | .str device =>
    if device = "cpu" then .ok (some [])
    else if device = "" then .ok none
    else strictDeviceParts (split device ',')
  | _ => .ok none

/-- `hostname.rstrip(".")`. -/
def stripDots (hostname : String) : String :=
  String.ofList ((hostname.toList.reverse.dropWhile (· = '.')).reverse)

def deploymentUsesLocalGpus (host : Host) (deployment : Deployment) : Bool :=
  if deployment.deployMode = "container" then true
  else
    match host.urlHostname deployment.xinferenceEndpoint with
    | none => false
    | some name =>
      let hostname := stripDots name.toLower
      let localNames := ["xinference", "localhost", "host.docker.internal",
        (host.xinferenceContainerName.getD "xinference").toLower,
        (host.composeProjectName.getD "trainfactory" ++ "-xinference").toLower]
      if hostname ∈ localNames then true
      else (host.isLoopback hostname).getD false

def isActiveTraining (task : TrainingTask) : Bool :=
  task.processPid.isSome || task.processStatus = some "running" ||
    task.processStatus = some "stopping" || task.status ∈ [.running, .evaluating]

def trainingOwner (task : TrainingTask) : String :=
  match task.runToken with
  | some runToken =>
    if runToken = "" then task.taskId else "training:" ++ task.taskId ++ ":" ++ runToken
  | none => task.taskId

def deploymentOwner (deploymentId : String) : String := "deployment:" ++ deploymentId

def reservingKinds : List String := ["start", "restart", "recreate", "create", "stop", "delete"]

def isStarting (deployment : Deployment) : Bool :=
  truthy deployment.replicaOperationToken &&
    reservingKinds.contains (deployment.replicaOperationKind.getD "") &&
    !(deployment.replicaOperationKind = some "create" && deployment.status = .stopped)

/-- `not claimed and not pending_start and replica.status in {"stopped", "pending"}` fails: the
replica may have a running container. -/
def occupies (deployment : Deployment) (replica : DeploymentReplica) : Bool :=
  let claimed := isStarting deployment &&
    (deployment.replicaOperationReplicaId = none ||
      deployment.replicaOperationReplicaId = some replica.replicaId)
  let pendingStart := replica.status = .pending &&
    !(deployment.status ∈ [.stopped, .pending])
  claimed || pendingStart || !(replica.status ∈ [.stopped, .pending])

/-- `type(gpu_id) is int and gpu_id >= 0`. -/
def gpuIdOf : Json → Option Int
  | .int gpuId => if 0 ≤ gpuId then some gpuId else none
  | _ => none

/-- The devices of a replica; `none` if they are unknown. -/
def replicaGpuIds (replica : DeploymentReplica) : Option (List Int) :=
  if replica.gpuIds = [] then none else replica.gpuIds.mapM gpuIdOf

def occupiedGpuIds (deployment : Deployment) : List DeploymentReplica → Option (List Int)
  | [] => some []
  | replica :: replicas =>
    if occupies deployment replica then
      match replicaGpuIds replica with
      | none => none
      | some gpuIds => (occupiedGpuIds deployment replicas).map fun rest => gpuIds ++ rest
    else occupiedGpuIds deployment replicas

def deploymentReservation (host : Host) (replicas : List DeploymentReplica)
    (deployment : Deployment) : Option (Option (List Int)) :=
  if ¬ deploymentUsesLocalGpus host deployment then none
  else
    match replicas.filter fun r => r.deploymentId = deployment.deploymentId with
    | [] =>
      if isStarting deployment ∨ deployment.status ∉ [.stopped, .pending] then
        match deployment.gpuId with
        | none => some none
        | some gpuId => if 0 ≤ gpuId then some (some [gpuId]) else some none
      else none
    | replica :: replicas =>
      match occupiedGpuIds deployment (replica :: replicas) with
      | none => some none
      | some [] => none
      | some gpuIds => some (some gpuIds)

/-- A dictionary of reservations: known devices, or `none`. -/
abbrev Reservations := Dict String (Option (List Int))

def reserveTrainings : List TrainingTask → Reservations → Except GpuError Reservations
  | [], reservations => .ok reservations
  | task :: tasks, reservations =>
    if isActiveTraining task then
      match strictDeviceIds (task.trainingParams.getD "device" .null) with
      | .error e => .error e
      | .ok gpuIds => reserveTrainings tasks (reservations.insert (trainingOwner task) gpuIds)
    else reserveTrainings tasks reservations

def reserveDeployments (host : Host) (replicas : List DeploymentReplica) :
    List Deployment → Reservations → Reservations
  | [], reservations => reservations
  | deployment :: deployments, reservations =>
    match deploymentReservation host replicas deployment with
    | none => reserveDeployments host replicas deployments reservations
    | some gpuIds => reserveDeployments host replicas deployments
        (reservations.insert (deploymentOwner deployment.deploymentId) gpuIds)

def persistedGpuReservations (host : Host) (rows : RuntimeRows) : Except GpuError Reservations :=
  match reserveTrainings rows.tasks.rows ∅ with
  | .error e => .error e
  | .ok reservations =>
    .ok (reserveDeployments host rows.replicas.rows rows.deployments.rows reservations)

/-! ## The manager -/

/-- The tables of a `GPUResourceManager`. -/
structure Manager where
  gpuAllocations : Dict Int String
  taskGpus : Dict String (List Int)
  allocationTimes : Dict String Nat
  maxGpus : Int

def Manager.new (maxGpus : Int) : Manager := ⟨∅, ∅, ∅, maxGpus⟩

/-- `range(self.max_gpus)`. -/
def Manager.gpus (m : Manager) : List Int := (List.range m.maxGpus.toNat).map fun n => (n : Int)

def blockedByReservations (owner : String) :
    List (Sigma fun _ : String => Option (List Int)) → Except GpuError (List Int)
  | [] => .ok []
  | ⟨holder, gpuIds⟩ :: reservations =>
    if holder = owner then blockedByReservations owner reservations
    else
      match gpuIds with
      | none => .error (.reservationConflict
          "GPU admission is blocked by an unresolved runtime with unknown devices")
      | some gpuIds =>
        match blockedByReservations owner reservations with
        | .error e => .error e
        | .ok blocked => .ok (gpuIds ++ blocked)

/-- `_reserved_gpu_ids`, of the rows the session reads or the error it raises. -/
def Manager.reservedGpuIds (host : Host) (m : Manager) (session : Except GpuError RuntimeRows)
    (owner : String) : Except GpuError (List Int) :=
  let held := m.gpuAllocations.keys.filter fun gpuId => m.gpuAllocations.lookup gpuId ≠ some owner
  match session with
  | .error e => .error e
  | .ok rows =>
    match persistedGpuReservations host rows with
    | .error e => .error e
    | .ok reservations =>
      match blockedByReservations owner reservations.entries with
      | .error e => .error e
      | .ok blocked => .ok (held ++ blocked)

/-! ## Deployments -/

def numericValue : Json → Option Rat
  | .bool b => some (if b then 1 else 0)
  | .int n => some n
  | .float q => some q
  | _ => none

/-- `a == b` of two hashable values. -/
def hashableEq (a b : Json) : Bool :=
  match numericValue a, numericValue b with
  | some x, some y => x = y
  | none, none =>
    match a, b with
    | .null, .null => true
    | .str s, .str t => s = t
    | _, _ => false
  | _, _ => false

/-- Whether a value can be in a set. -/
def isHashable : Json → Bool
  | .arr _ | .obj _ => false
  | _ => true

/-- `set(values)`: of equal values the first one stays. -/
def setOf (values : List Json) : List Json :=
  values.foldl (fun ids value => if ids.any (hashableEq value) then ids else ids ++ [value]) []

def Manager.assertDeploymentGpusAvailable (host : Host) (m : Manager)
    (session : Except GpuError RuntimeRows) (deploymentId : String) (gpuIds : List Json) :
    Except GpuError Unit :=
  if ¬ gpuIds.all isHashable then .error (.typeError "unhashable type")
  else
    match setOf gpuIds with
    | [] => .error (.reservationConflict "Deployment GPU assignment is unknown")
    | ids =>
      match ids.mapM gpuIdOf with
      | none => .error (.reservationConflict "Deployment GPU assignment is unknown")
      | some ids =>
        match m.reservedGpuIds host session (deploymentOwner deploymentId) with
        | .error e => .error e
        | .ok blocked =>
          if ids.any (· ∈ blocked) then
            .error (.reservationConflict "Deployment GPU is reserved by another workload")
          else .ok ()

def Manager.selectDeploymentGpu (host : Host) (m : Manager)
    (session : Except GpuError RuntimeRows) (deploymentId : String) : Except GpuError Int :=
  match m.reservedGpuIds host session (deploymentOwner deploymentId) with
  | .error e => .error e
  | .ok blocked =>
    match m.gpus.find? fun gpuId => gpuId ∉ blocked with
    | some gpuId => .ok gpuId
    | none => .error (.reservationConflict "No local GPU is available for this deployment")

def Manager.availableDeploymentGpus (host : Host) (m : Manager)
    (session : Except GpuError RuntimeRows) (deploymentId : String) (gpuIds : List Int) :
    Except GpuError (List Int) :=
  match m.reservedGpuIds host session (deploymentOwner deploymentId) with
  | .error e => .error e
  | .ok blocked => .ok (gpuIds.filter fun gpuId => gpuId ∉ blocked)

/-! ## Trainings -/

/-- The loop of `_parse_device_request` over the parts of a `cuda:` request: the valid and the
invalid ids; `none` where it raises. -/
def parseCudaParts (maxGpus : Int) : List String → Option (List Int × List Int)
  | [] => some ([], [])
  | part :: parts =>
    let part := strip part
    if startsWith part "cuda:" then
      match ((split part ':')[1]?).bind parseInt, parseCudaParts maxGpus parts with
      | some gpuId, some (gpuIds, invalidIds) =>
        if 0 ≤ gpuId ∧ gpuId < maxGpus then some (gpuId :: gpuIds, invalidIds)
        else some (gpuIds, gpuId :: invalidIds)
      | _, _ => none
    else parseCudaParts maxGpus parts

/-- `_parse_device_request`: the requested GPUs, if the request names some, and their number. -/
def parseDeviceRequest (maxGpus : Int) (deviceRequest : String) : Option (List Int) × Int :=
  if deviceRequest = "auto" then (none, 1)
  else if startsWith deviceRequest "auto:" then
    match ((split deviceRequest ':')[1]?).bind parseInt with
    | some numGpus => (none, numGpus)
    | none => (none, 1)
  else if startsWith deviceRequest "cuda:" then
    match parseCudaParts maxGpus (split deviceRequest ',') with
    | none => (none, 1)
    | some (gpuIds, invalidIds) =>
      if invalidIds ≠ [] then (some [], 0)
      else if gpuIds ≠ [] then (some gpuIds, gpuIds.length)
      else (none, 0)
  else (none, 1)

def Manager.canAllocateSpecificGpus (m : Manager) (gpuIds : List Int) : Bool :=
  gpuIds.all fun gpuId => gpuId < m.maxGpus && gpuId ∉ m.gpuAllocations

def collectAvailable (isFree : Int → Bool) (numNeeded : Int) : List Int → List Int → List Int
  | available, [] => available
  | available, gpuId :: gpuIds =>
    if isFree gpuId then
      let available := available ++ [gpuId]
      if numNeeded ≤ available.length then available
      else collectAvailable isFree numNeeded available gpuIds
    else collectAvailable isFree numNeeded available gpuIds

/-- `xs[:n]`. -/
def sliceTo (xs : List Int) (n : Int) : List Int :=
  if 0 ≤ n then xs.take n.toNat else xs.take (xs.length + n).toNat

def Manager.getAvailableGpus (m : Manager) (numNeeded : Int) (blocked : List Int) :
    Option (List Int) :=
  let isFree := fun gpuId => gpuId ∉ m.gpuAllocations && gpuId ∉ blocked
  let available := collectAvailable isFree numNeeded [] m.gpus
  if numNeeded ≤ available.length then some (sliceTo available numNeeded) else none

def cudaDevice (gpuId : Int) : String := "cuda:" ++ toString gpuId

def deviceString (gpuIds : List Int) : String :=
  match gpuIds with
  | [gpuId] => cudaDevice gpuId
  | gpuIds => join "," (gpuIds.map cudaDevice)

def Manager.doAllocateGpus (m : Manager) (taskId : String) (gpuIds : List Int) (now : Nat) :
    String × Manager :=
  (deviceString gpuIds, { m with
    gpuAllocations := m.gpuAllocations.setAll gpuIds taskId
    taskGpus := m.taskGpus.insert taskId gpuIds.dedup
    allocationTimes := m.allocationTimes.insert taskId now })

/-- Whether a request is empty or `"None"`. -/
def isBlankRequest : Option String → Bool
  | none => true
  | some request => request = "None" || strip request = ""

/-- `allocate_gpus_for_task`; `none` is a failed allocation. -/
def Manager.allocateGpusForTask (host : Host) (m : Manager) (taskId : String)
    (deviceRequest : Option String) (session : Except GpuError RuntimeRows) (now : Nat) :
    Option String × Manager :=
  if isBlankRequest deviceRequest ∨ deviceRequest = some "cpu" then (some "cpu", m)
  else
    match parseDeviceRequest m.maxGpus (deviceRequest.getD "cpu") with
    | (some [], _) => (none, m)
    | (requestedGpus, numGpus) =>
      match m.reservedGpuIds host session taskId with
      | .error _ => (none, m)
      | .ok blocked =>
        match requestedGpus with
        | some gpuIds =>
          if ¬ gpuIds.any (· ∈ blocked) ∧ m.canAllocateSpecificGpus gpuIds then
            let (device, m) := m.doAllocateGpus taskId gpuIds now
            (some device, m)
          else (none, m)
        | none =>
          match m.getAvailableGpus numGpus blocked with
          | none | some [] => (none, m)
          | some gpuIds =>
            let (device, m) := m.doAllocateGpus taskId gpuIds now
            (some device, m)

def Manager.releaseGpusForTask (m : Manager) (taskId : String) : Manager :=
  match m.taskGpus.lookup taskId with
  | none => m
  | some gpuIds => { m with
      gpuAllocations := m.gpuAllocations.deleteAll gpuIds
      taskGpus := m.taskGpus.erase taskId
      allocationTimes := m.allocationTimes.erase taskId }

def Manager.forceReleaseGpuForTask (m : Manager) (taskId : String) : Manager :=
  { m with
    gpuAllocations := m.gpuAllocations.deleteValue taskId
    taskGpus := m.taskGpus.erase taskId
    allocationTimes := m.allocationTimes.erase taskId }

/-! ## Runs -/

inductive LeaseCall where
  | allocate (taskId : String) (deviceRequest : Option String)
      (session : Except GpuError RuntimeRows) (now : Nat)
  | release (taskId : String)
  | forceRelease (taskId : String)

def Manager.step (host : Host) (m : Manager) : LeaseCall → Manager
  | .allocate taskId deviceRequest session now =>
    (m.allocateGpusForTask host taskId deviceRequest session now).2
  | .release taskId => m.releaseGpusForTask taskId
  | .forceRelease taskId => m.forceReleaseGpuForTask taskId

/-- `task_gpus[task_id]`. -/
def Manager.gpusOf (m : Manager) (taskId : String) : List Int := (m.taskGpus.lookup taskId).getD []

end Gpu
