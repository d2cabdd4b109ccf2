import TrainFactory.Deployment.Entities
import TrainFactory.Lib.Dict
import TrainFactory.Lib.PosixPath
import TrainFactory.Lib.Run

/-!
# Adapters on a replica

`adapter_service.py`: LoRA adapters are loaded and unloaded on the runtime of a replica, and its
rows of `loaded_adapters` follow. The claim of an operation keeps others away from the rows; each
call to the runtime may fail, before or after it has taken effect.
-/

namespace Deployment

open Lib

/-! ## The runtime -/

inductive CallOutcome where
  | succeeds
  | failsBefore
  /-- The call has taken effect, but raises. -/
  | failsAfter
deriving DecidableEq

abbrev Runtime := Dict String String

def Runtime.add (runtime : Runtime) (name path : String) : Runtime :=
  if name ∈ runtime then runtime else runtime.insert name path

/-- `client.load_lora_adapter`, with whether it returns. The runtime refuses an empty name. -/
def loadLoraAdapter (runtime : Runtime) (name path : String) (outcome : CallOutcome) :
    Runtime × Bool :=
  if name = "" then (runtime, false)
  else
    match outcome with
    | .succeeds => (runtime.add name path, true)
    | .failsBefore => (runtime, false)
    | .failsAfter => (runtime.add name path, false)

/-- `client.unload_lora_adapter`, with whether it returns. -/
def unloadLoraAdapter (runtime : Runtime) (name : String) (outcome : CallOutcome) :
    Runtime × Bool :=
  match outcome with
  | .succeeds => (runtime.erase name, true)
  | .failsBefore => (runtime, false)
  | .failsAfter => (runtime.erase name, false)

/-- What an operation depends on besides the state. -/
structure AdapterHost where
  collation : Collation
  /-- The first row of a query without an order. -/
  first : List AdapterRow → Option AdapterRow
  first_eq_none : ∀ {rows}, first rows = none → rows = []
  mem_of_first : ∀ {rows a}, first rows = some a → a ∈ rows
  /-- `max_loras` of the deployment. -/
  maxLoras : Nat
  /-- The deployment has no replicas of its own: the operations have the name `legacy`. -/
  legacy : Bool
  /-- The list of the runtime has the paths of the adapters. -/
  listsPaths : Bool

/-- `_runtime_adapter_path`, of a path. -/
def runtimeAdapterPath (path : String) : Option String :=
  if strip path = "" then none else some (normPath (replaceChar (strip path) '\\' "/"))

/-! ## The state -/

structure ReplicaAdapters where
  adapters : Table AdapterRow
  runtime : Runtime

def ReplicaAdapters.initial : ReplicaAdapters := ⟨Table.empty, ∅⟩

/-- The clauses of a query on the name and the status. -/
def AdapterRow.isNamed (host : AdapterHost) (a : AdapterRow) (name : String)
    (status : AdapterStatus) : Bool :=
  host.collation.same a.adapterName name && a.status = status

def AdapterRow.isStale (host : AdapterHost) (a : AdapterRow) (name : String) : Bool :=
  a.isNamed host name .failed || a.isNamed host name .loading

def ReplicaAdapters.loadedRows (host : AdapterHost) (s : ReplicaAdapters) (name : String) :
    List AdapterRow :=
  s.adapters.select fun a => a.isNamed host name .loaded

/-- The loaded rows with the very name. -/
def ReplicaAdapters.rowsOf (s : ReplicaAdapters) (name : String) : List AdapterRow :=
  s.adapters.select fun a => a.adapterName = name && a.status = .loaded

def ReplicaAdapters.loadedCount (s : ReplicaAdapters) : Nat :=
  (s.adapters.select fun a => a.status = .loaded).length

/-! ## Loading -/

/-- The calls to the runtime and what else may raise in a load. -/
structure LoadEnv where
  /-- What the claim and the checks of the deployment and of its replica raise. -/
  admission : Option DeploymentError
  /-- The call that unloads a stale adapter. -/
  unload : CallOutcome
  /-- The list that is read if that call raises. -/
  unloadListed : Bool
  /-- What the locks, and the checks under them, raise. -/
  locks : Option DeploymentError
  load : CallOutcome
  /-- The text of what that call raises, if it does. -/
  loadError : String
  /-- The list that is read then. -/
  loadListed : Bool
  now : Nat

/-- The arguments of `load_adapter`, and the id of a new row. -/
structure LoadRequest where
  adapterId : String
  adapterName : String
  adapterPath : String
  sourceTaskId : Option String
  sourceModelId : Option String
  deploymentReplicaId : Option String
  userId : Option String

/-- `_verify_runtime_adapter_absence`, with whether it returns. -/
def verifyRuntimeAdapterAbsence (runtime : Runtime) (name : String) (unload : CallOutcome)
    (listed : Bool) : Runtime × Bool :=
  let unloaded := unloadLoraAdapter runtime name unload
  if unloaded.2 then unloaded
  else (unloaded.1, listed && name ∉ unloaded.1)

inductive RuntimeState where
  | loaded | absent | unknown
deriving DecidableEq

def listsAt (host : AdapterHost) (runtime : Runtime) (name path : String) : Bool :=
  match runtime.lookup name with
  | none => false
  | some served =>
    host.listsPaths && (runtimeAdapterPath served).isSome &&
      runtimeAdapterPath served = runtimeAdapterPath path

def loadRuntimeWithReconciliation (host : AdapterHost) (runtime : Runtime) (name path : String)
    (load : CallOutcome) (listed : Bool) : Runtime × RuntimeState :=
  let loaded := loadLoraAdapter runtime name path load
  if loaded.2 then (loaded.1, .loaded)
  else if listed then
    if name ∉ loaded.1 then (loaded.1, .absent)
    else if listsAt host loaded.1 name path then (loaded.1, .loaded)
    else (loaded.1, .unknown)
  else (loaded.1, .unknown)

/-- The columns that `_finalize_adapter_loading` writes after a load that raises `runtimeError`. -/
def AdapterRow.finalize (a : AdapterRow) (runtimeError : String) : RuntimeState → AdapterRow
  | .loaded => { a with status := .loaded }
  | .absent =>
    { a with
      status := .failed
      errorMessage := if runtimeError = "" then a.errorMessage else some runtimeError }
  | .unknown =>
    { a with
      errorMessage := some ("adapter load result could not be verified: " ++ runtimeError) }

theorem AdapterRow.key_finalize (runtimeError : String) (state : RuntimeState) (a : AdapterRow) :
    Keyed.key (a.finalize runtimeError state) = Keyed.key a := by
  cases state <;> rfl

/-- `_finalize_adapter_loading` of a row that is loading, and what the load raises then. -/
def finalizeAdapterLoading (s : ReplicaAdapters) (adapterId runtimeError : String)
    (state : RuntimeState) : ReplicaAdapters × Except DeploymentError AdapterRow :=
  match s.adapters.lookup adapterId with
  | none => (s, .error .lost)
  | some adapter =>
    if adapter.status = .loading then
      (⟨s.adapters.update adapterId (fun a => a.finalize runtimeError state)
        (AdapterRow.key_finalize runtimeError state), s.runtime⟩,
        match state with
        | .loaded => .ok (adapter.finalize runtimeError state)
        | .absent => .error (.runtimeError ("Failed to load adapter: " ++ runtimeError))
        | .unknown => .error (.runtimeError
          "Failed to load adapter: runtime state could not be verified"))
    else (s, .error .lost)

def newAdapterRow (request : LoadRequest) (now : Nat) : AdapterRow where
  adapterId := request.adapterId
  deploymentReplicaId := request.deploymentReplicaId
  adapterName := request.adapterName
  adapterPath := request.adapterPath
  sourceTaskId := request.sourceTaskId
  sourceModelId := request.sourceModelId
  status := .loading
  errorMessage := none
  userId := request.userId
  loadedAt := now
  unloadedAt := none

def existingRow (host : AdapterHost) (s : ReplicaAdapters) (name : String) : Option AdapterRow :=
  host.first (s.adapters.select fun a =>
    a.isNamed host name .loaded || !host.legacy && a.isNamed host name .loading)

def loadPrepared (host : AdapterHost) (s : ReplicaAdapters) (request : LoadRequest)
    (env : LoadEnv) : ReplicaAdapters × Except DeploymentError AdapterRow :=
  match env.locks with
  | some error => (s, .error error)
  | none =>
    match existingRow host s request.adapterName with
    | some existing => if existing.status = .loaded then (s, .ok existing) else (s, .error .lost)
    | none =>
      if host.maxLoras ≤ s.loadedCount then
        (s, .error (.valueError "Maximum number of adapters reached. Unload an adapter first."))
      else
        match s.adapters.insert (newAdapterRow request env.now) with
        -- the database refuses a second row with the id
        | none => (s, .error (.runtimeError "IntegrityError"))
        | some adapters =>
          let loaded := loadRuntimeWithReconciliation host s.runtime request.adapterName
            request.adapterPath env.load env.loadListed
          finalizeAdapterLoading ⟨adapters, loaded.1⟩ request.adapterId env.loadError loaded.2

def finalizeStaleAdapterCleanup (host : AdapterHost) (adapters : Table AdapterRow) (name : String)
    (now : Nat) : Table AdapterRow :=
  adapters.updateWhere (fun a => a.isStale host name) fun a =>
    a.forceStatus .unloaded (some "Cleaned up before retry") now

def loadAdapter (host : AdapterHost) (s : ReplicaAdapters) (request : LoadRequest)
    (env : LoadEnv) : ReplicaAdapters × Except DeploymentError AdapterRow :=
  match env.admission with
  | some error => (s, .error error)
  | none =>
    if (s.adapters.select fun a => a.isStale host request.adapterName) = [] then
      loadPrepared host s request env
    else
      let verified := verifyRuntimeAdapterAbsence s.runtime request.adapterName env.unload
        env.unloadListed
      if verified.2 then
        loadPrepared host
          ⟨finalizeStaleAdapterCleanup host s.adapters request.adapterName env.now, verified.1⟩
          request env
      else
        (⟨s.adapters, verified.1⟩, .error (.runtimeError
          "Failed to verify adapter runtime absence during unload recovery"))

/-! ## Unloading -/

/-- The calls to the runtime and what else may raise in an unload. -/
structure UnloadEnv where
  /-- What the claim and the checks of the deployment and of its replica raise. -/
  admission : Option DeploymentError
  unload : CallOutcome
  /-- The text of what that call raises, if it does. -/
  unloadError : String
  /-- The list that is read then. -/
  unloadListed : Bool
  now : Nat

/-- A row that an unload that has succeeded marks as unloaded; a replica includes other loaded
rows. -/
def AdapterRow.isUnloadCandidate (host : AdapterHost) (a : AdapterRow) (name : String) : Bool :=
  a.isNamed host name .loading || a.isNamed host name .failed || a.isNamed host name .unloading ||
    !host.legacy && a.isNamed host name .loaded

/-- The loaded row that an unload marks: on a replica, the first by its id. -/
def markedRow (host : AdapterHost) (s : ReplicaAdapters) (name : String) : Option AdapterRow :=
  if host.legacy then host.first (s.loadedRows host name)
  else ((s.loadedRows host name).insertionSort fun a b => a.adapterId ≤ b.adapterId).head?

def markUnloading (host : AdapterHost) (s : ReplicaAdapters) (name : String) : Table AdapterRow :=
  match markedRow host s name with
  | none => s.adapters
  | some adapter =>
    s.adapters.update adapter.adapterId fun a => { a with status := .unloading }

def revertUnloading (host : AdapterHost) (s : ReplicaAdapters) (adapters : Table AdapterRow)
    (name : String) (errorMessage : String) (now : Nat) : Table AdapterRow :=
  match markedRow host s name with
  | none => adapters
  | some adapter =>
    adapters.update adapter.adapterId fun a =>
      a.forceStatus .loaded (some errorMessage) now

/-- The text of a row whose unload has failed: a replica has that of the verification. -/
def unloadErrorMessage (host : AdapterHost) (env : UnloadEnv) : String :=
  if host.legacy then env.unloadError
  else "Failed to verify adapter runtime absence during unload recovery"

def unloadAdapter (host : AdapterHost) (s : ReplicaAdapters) (name : String) (env : UnloadEnv) :
    ReplicaAdapters × Except DeploymentError Unit :=
  match env.admission with
  | some error => (s, .error error)
  | none =>
    let marked := markUnloading host s name
    let verified := verifyRuntimeAdapterAbsence s.runtime name env.unload env.unloadListed
    if verified.2 then
      -- a replica compares the names of the rows that its query has found with the name once more
      if !host.legacy && marked.rows.any fun a =>
          a.isUnloadCandidate host name && a.adapterName ≠ name then
        (⟨marked, verified.1⟩, .error .lost)
      else
        (⟨marked.updateWhere (fun a => a.isUnloadCandidate host name) fun a =>
          a.forceStatus .unloaded none env.now, verified.1⟩, .ok ())
    else
      (⟨revertUnloading host s marked name (unloadErrorMessage host env) env.now, verified.1⟩,
        .error (.runtimeError
          "Failed to verify adapter runtime absence during unload recovery"))

/-! ## Synchronization -/

/-- The list of the runtime and what else may raise in a synchronization. -/
structure SyncEnv where
  /-- What the claim and the checks of the deployment and of its replica raise. -/
  admission : Option DeploymentError
  listed : Bool
  /-- What the locks, and the checks under them, raise. -/
  locks : Option DeploymentError
  /-- The id of a new row for a name. -/
  newId : String → String
  deploymentReplicaId : Option String
  userId : Option String
  now : Nat

def actualNames (s : ReplicaAdapters) : List String := s.runtime.keys.filter (· ≠ "")

/-- The rows, latest first: `order_by(loaded_at.desc(), adapter_id.desc())`. -/
def latestFirst (adapters : Table AdapterRow) : List AdapterRow :=
  adapters.rows.insertionSort fun a b =>
    b.loadedAt < a.loadedAt ∨ b.loadedAt = a.loadedAt ∧ b.adapterId ≤ a.adapterId

def previousRow (adapters : Table AdapterRow) (name : String) : Option AdapterRow :=
  (latestFirst adapters).find? fun a => a.adapterName = name

def namesToReconcile (s : ReplicaAdapters) : List String :=
  (actualNames s).filter fun name => s.rowsOf name = []

def adaptersToRestore (s : ReplicaAdapters) : List AdapterRow :=
  (namesToReconcile s).filterMap fun name =>
    (previousRow s.adapters name).filter fun a => a.status = .unloaded || a.status = .failed

def adapterNamesToCreate (s : ReplicaAdapters) : List String :=
  (namesToReconcile s).filter fun name => previousRow s.adapters name = none

def unknownAdapterRow (env : SyncEnv) (name : String) : AdapterRow where
  adapterId := env.newId name
  deploymentReplicaId := env.deploymentReplicaId
  adapterName := name
  adapterPath := "<unknown:auto-sync>"
  sourceTaskId := none
  sourceModelId := none
  status := .loaded
  errorMessage := none
  userId := env.userId
  loadedAt := env.now
  unloadedAt := none

def createUnknown (env : SyncEnv) (adapters : Table AdapterRow) :
    List String → Option (Table AdapterRow)
  | [] => some adapters
  | name :: names =>
    (adapters.insert (unknownAdapterRow env name)).bind fun adapters =>
      createUnknown env adapters names

def unloadMissing (s : ReplicaAdapters) (now : Nat) : Table AdapterRow :=
  s.adapters.updateWhere (fun a => a.status = .loaded && a.adapterName ∉ actualNames s) fun a =>
    a.forceStatus .unloaded (some "Adapter not found on service (auto-sync)") now

def restoreAdapters (restored : List AdapterRow) (adapters : Table AdapterRow) : Table AdapterRow :=
  adapters.updateWhere (fun a => a.adapterId ∈ restored.map AdapterRow.adapterId) fun a =>
    { a with status := .loaded, unloadedAt := none }

def syncLoadedAdapters (s : ReplicaAdapters) (env : SyncEnv) :
    ReplicaAdapters × Except DeploymentError Nat :=
  match env.admission with
  | some error => (s, .error error)
  | none =>
    if env.listed then
      match env.locks with
      | some error => (s, .error error)
      | none =>
        let restored := adaptersToRestore s
        let created := adapterNamesToCreate s
        let unloaded := s.adapters.select fun a =>
          a.status = .loaded && a.adapterName ∉ actualNames s
        match createUnknown env (restoreAdapters restored (unloadMissing s env.now)) created with
        -- the database refuses a second row with the id
        | none => (s, .error (.runtimeError "IntegrityError"))
        | some adapters =>
          (⟨adapters, s.runtime⟩, .ok (unloaded.length + restored.length + created.length))
    else (s, .error (.runtimeError "Failed to list LoRA adapters"))

/-! ## Histories -/

/-- An operation on the replica. -/
inductive AdapterOp where
  | load (request : LoadRequest) (env : LoadEnv)
  | unload (name : String) (env : UnloadEnv)
  | sync (env : SyncEnv)

/-- The state after an operation. -/
def adapterStep (host : AdapterHost) (s : ReplicaAdapters) : AdapterOp → ReplicaAdapters
  | .load request env => (loadAdapter host s request env).1
  | .unload name env => (unloadAdapter host s name env).1
  | .sync env => (syncLoadedAdapters s env).1

end Deployment
