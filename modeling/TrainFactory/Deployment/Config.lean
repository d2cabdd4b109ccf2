import TrainFactory.Deployment.Recovery

/-!
# The config of a deployment

The sessions that write the config column: an update of the config, the intent of a deferred start,
and the start of a deployment without replicas, which keeps a copy of the row while it launches the
runtime.
-/

namespace Deployment

open Lib

/-! ## Keys -/

def runtimeManagedKey : String := "runtime_managed"

def readOnlyKey : String := "read_only"

def deferredAutoStartKey : String := "_deferred_auto_start"

def registryArtifactSignatureKey : String := "_registry_artifact_signature"

def legacyReplicaSchemaMarkerBackupKey : String :=
  "_operator_054_legacy_replica_schema_marker_backup"

abbrev Entries := List (String × Json)

def entriesOf : Option Json → Entries
  | some (.obj kvs) => kvs
  | _ => []

theorem lookup_entriesOf (config : Option Json) (key : String) :
    (entriesOf config).lookup key = configGet config key := by
  cases config with
  | none => rfl
  | some value => cases value <;> rfl

/-! ## Sanitization -/

/-- The flag of a user that the operator's policy replaces; no other character lowers to one of
`trust_remote_code`. -/
def isRemoteCodeKey (key : String) : Bool :=
  replaceChar (String.ofList ((strip key).toList.map Char.toLower)) '-' "_" = "trust_remote_code"

mutual

def sanitizeRemoteCodeValue : Json → Json
  | .obj kvs => .obj (sanitizeEntries kvs)
  | .arr xs => .arr (sanitizeElements xs)
  | value => value

/-- `_sanitize_remote_code_value` of the entries of an object. -/
def sanitizeEntries : List (String × Json) → List (String × Json)
  | [] => []
  | (key, value) :: kvs =>
    if isRemoteCodeKey key then sanitizeEntries kvs
    else (key, sanitizeRemoteCodeValue value) :: sanitizeEntries kvs

/-- `_sanitize_remote_code_value` of the elements of a list. -/
def sanitizeElements : List Json → List Json
  | [] => []
  | x :: xs => sanitizeRemoteCodeValue x :: sanitizeElements xs

end

def operatorKeys : List String :=
  [runtimeManagedKey, readOnlyKey, replicaSchemaVersionKey, deferredAutoStartKey,
    registryArtifactSignatureKey, legacyReplicaSchemaMarkerBackupKey]

def sanitizeDeploymentConfig (config : Option Entries) : Option Entries :=
  config.map fun kvs => operatorKeys.foldl Json.popEntry (sanitizeEntries kvs)

def markUnmanagedBinding (config : Option Entries) : Entries :=
  Json.setEntry (Json.setEntry (config.getD []) runtimeManagedKey (.bool false)) readOnlyKey
    (.bool true)

def hasUnmanagedBindingMarker (d : DeploymentRow) : Bool :=
  (match configGet d.config runtimeManagedKey with
    | some (.bool managed) => !managed
    | _ => false) &&
  match configGet d.config readOnlyKey with
    | some (.bool readOnly) => readOnly
    | _ => false

/-! ## Updates -/

/-- The launch configs of `launch_config.py` and `replica_planner.py`. -/
structure LaunchConfigs (Launch : Type) where
  /-- `str(value)` of a value that is not a text. -/
  str : Json → String
  /-- `parse_launch_config`; `none` where it raises. -/
  parse : Json → Option Launch
  framework : Launch → String
  /-- `model_dump(mode="json")`. -/
  modelDump : Launch → Json
  /-- The topology can be derived from one GPU for each replica, and nothing else is set. -/
  isDerivable : Launch → Bool
  /-- `_plan_gpu_assignments`; `none` where it raises. -/
  planGpuAssignments : Launch → Nat → List Int → Option (List (List Int))
  /-- The `topology` of both is the same. -/
  sameTopology : Launch → Launch → Bool

variable {Launch : Type} (launch : LaunchConfigs Launch)

def LaunchConfigs.extractExternalApiConfigId (config : Option Entries) : Option String :=
  match (config.getD []).lookup "external_api_config_id" with
  | none => none
  | some .null => none
  | some (.str text) => if strip text = "" then none else some (strip text)
  | some value => if strip (launch.str value) = "" then none else some (strip (launch.str value))

def LaunchConfigs.externalApiConfigIdOf (d : DeploymentRow) : Option String :=
  if truthy d.externalApiConfigId then d.externalApiConfigId
  else launch.extractExternalApiConfigId (some (entriesOf d.config))

/-- What the first session of an update reads. -/
structure ObservedDeployment where
  modelId : String
  userId : Option String
  externalApiConfigId : Option String
deriving DecidableEq

/-- The first session of `update_deployment_config`. -/
def LaunchConfigs.observeConfigUpdate (userId : Option String) (g : Group) :
    Except DeploymentError ObservedDeployment := do
  requireReplicaAccess g.deployment userId
  pure ⟨g.deployment.modelId, g.deployment.userId, launch.externalApiConfigIdOf g.deployment⟩

/-- `value is not None`: a missing entry and `null` are `None`. -/
def entryOf (kvs : Entries) (key : String) : Option Json :=
  match kvs.lookup key with
  | some .null => none
  | entry => entry

def LaunchConfigs.requestedLaunch (persisted existing : Entries) : Except DeploymentError Launch :=
  match persisted.lookup "launch_config" with
  | none =>
    match (entryOf existing "launch_config").bind launch.parse with
    | none =>
      .error (.valueError ("existing launch_config is missing or invalid; " ++
        "provide a valid launch_config to repair"))
    | some config => .ok config
  | some payload =>
    match launch.parse payload with
    | none => .error (.valueError "launch_config is invalid")
    | some config => .ok config

def firstOccurrences (xs : List Int) : List Int := xs.reverse.dedup.reverse

def Group.orderedReplicas (g : Group) : List ReplicaRow :=
  g.replicas.rows.insertionSort fun r s => r.replicaIndex ≤ s.replicaIndex

def LaunchConfigs.checkTopology (g : Group) (existing : Option Launch) (config : Launch) :
    Except DeploymentError Unit :=
  let assignments := g.orderedReplicas.map ReplicaRow.gpuIds
  if launch.framework config ≠ g.deployment.inferenceFramework then
    .error (.valueError "launch_config framework does not match deployment")
  else if g.replicas.rows = [] then
    .error (.stateConflict "replica lifecycle deployment has no persisted child plan")
  else if existing.isNone ∧
      ((assignments.any fun gpuIds => gpuIds.length ≠ 1) ∨ ¬ launch.isDerivable config) then
    .error (.valueError
      "launch_config topology cannot be repaired unambiguously; recreate deployment")
  else if launch.planGpuAssignments config g.replicas.rows.length
      (firstOccurrences assignments.flatten) ≠ some assignments then
    .error (.valueError "launch_config topology does not match persisted child plan")
  else if existing.any fun old => ¬ launch.sameTopology old config then
    .error (.valueError "launch_config topology is immutable; recreate deployment")
  else .ok ()

def carryOver (existing persisted : Entries) (key : String) : Entries :=
  match existing.lookup key with
  | none => persisted
  | some entry => Json.setEntry persisted key entry

def LaunchConfigs.persistedReplicaConfig (g : Group) (existing persisted : Entries) :
    Except DeploymentError Entries := do
  let config ← launch.requestedLaunch persisted existing
  let old := (entryOf existing "launch_config").bind launch.parse
  launch.checkTopology g old config
  let entries := Json.setEntry persisted "launch_config" (launch.modelDump config)
  let entries := Json.setEntry entries replicaSchemaVersionKey (.int 1)
  pure ([deferredAutoStartKey, registryArtifactSignatureKey].foldl (carryOver existing) entries)

def updatesReplicaLifecycle (g : Group) : Bool :=
  (g.deployment.inferenceFramework = "vllm" || g.deployment.inferenceFramework = "sglang") &&
    (g.replicas.rows ≠ [] || g.deployment.usesReplicaLifecycle)

/-- The arguments of `update_deployment_config`, and the verdicts that its session gets. -/
structure ConfigUpdate where
  config : Option Entries
  userId : Option String
  /-- The API configs and the model can be locked. -/
  locks : Except DeploymentError Unit
  /-- The model is bound externally, or cannot be resolved. -/
  modelUnmanaged : Bool

def LaunchConfigs.persistedConfig (args : ConfigUpdate) (g : Group) :
    Except DeploymentError (Option Entries) := do
  let existing := entriesOf g.deployment.config
  let sanitized := sanitizeDeploymentConfig args.config
  let persisted :=
    match existing.lookup legacyReplicaSchemaMarkerBackupKey with
    | none => sanitized
    | some backup => some (Json.setEntry (sanitized.getD []) legacyReplicaSchemaMarkerBackupKey backup)
  let persisted ←
    if updatesReplicaLifecycle g then
      (launch.persistedReplicaConfig g existing (persisted.getD [])).map some
    else pure persisted
  if hasUnmanagedBindingMarker g.deployment ∨ args.modelUnmanaged then
    pure (some (markUnmanagedBinding persisted))
  else pure persisted

/-- The second session of `update_deployment_config`: the config that it persists. -/
def LaunchConfigs.updateDeploymentConfig (args : ConfigUpdate) (observed : ObservedDeployment)
    (now : Nat) (g : Group) : Except DeploymentError (Option Entries × Group) := do
  args.locks
  requireReplicaAccess g.deployment args.userId
  if (⟨g.deployment.modelId, g.deployment.userId,
      launch.externalApiConfigIdOf g.deployment⟩ : ObservedDeployment) ≠ observed then
    .error (.busy "deployment changed while acquiring external API locks")
  else
    let persisted ← launch.persistedConfig args g
    .ok (persisted, g.withDeployment fun d => { d with
      config := persisted.map Json.obj
      externalApiConfigId :=
        launch.extractExternalApiConfigId (sanitizeDeploymentConfig args.config)
      updatedAt := now })

/-! ## The intent of a deferred start -/

def setDeferredStartIntent (claim : Claim) (enabled : Bool) (now : Nat) (g : Group) :
    Except DeploymentError Group :=
  if Holds g claim then
    let config := entriesOf g.deployment.config
    .ok (g.withDeployment fun d => { d with
      config := some (.obj (if enabled then Json.setEntry config deferredAutoStartKey (.bool true)
        else Json.popEntry config deferredAutoStartKey))
      updatedAt := now })
  else .error .lost

/-! ## The lifecycle of a deployment without replicas -/

def claimedLegacyDeployment (claim : Claim) (userId : Option String) (g : Group) :
    Except DeploymentError DeploymentRow := do
  if claim.replicaId.isSome then
    .error (.stateConflict "legacy deployment operations require replica_id=None")
  else if ¬ HoldsExactly g claim then .error .lost
  else
    requireReplicaAccess g.deployment userId
    if g.deployment.usesReplicaLifecycle then
      .error (.stateConflict "deployment changed to replica lifecycle during legacy operation")
    else .ok g.deployment

def writeLegacyStatus (claim : Claim) (userId : Option String) (status : DeploymentStatus)
    (errorMessage : Option String) (now : Nat) (g : Group) : Except DeploymentError Group := do
  let d ← claimedLegacyDeployment claim userId g
  let d ← d.updateStatus status errorMessage now
  pure { g with deployment := d }

structure LegacyStart where
  claim : Claim
  userId : Option String
  /-- `source_type` of the model is `external_bind`. -/
  externallyBound : Bool
  /-- `_require_managed_container`. -/
  managedContainer : Except DeploymentError Unit
  sharedContainerName : String
  /-- The identifier of a model that has none. -/
  modelUid : String

def normalizeDeployMode (mode : String) : String :=
  if mode = "" ∨ mode = "external" then "shared" else mode

def LegacyStart.containerName (args : LegacyStart) (d : DeploymentRow) : Option String :=
  if d.deployMode ≠ "container" ∧ ¬ truthy d.containerName ∧
      (d.inferenceFramework = "" ∨ d.inferenceFramework = "xinference") then
    some args.sharedContainerName
  else d.containerName

/-- The session of `_start_legacy_deployment_claimed` before the launch: the copy of the row that
the launch works on, unless the deployment is already running. -/
def beginLegacyStart (args : LegacyStart) (now : Nat) (g : Group) :
    Except DeploymentError (Option DeploymentRow × Group) := do
  let d ← claimedLegacyDeployment args.claim args.userId g
  if hasUnmanagedBindingMarker d ∨ args.externallyBound then
    .error (.valueError "Externally bound deployments are read-only and cannot be started")
  else if d.status = .running then pure (none, g)
  else
    if normalizeDeployMode d.deployMode = "container" then args.managedContainer else pure ()
    let d ← ({ d with containerName := args.containerName d }).updateStatus .starting none now
    let d := { d with modelUid := if truthy d.modelUid then d.modelUid else some args.modelUid }
    pure (some d, { g with deployment := d })

inductive Launched where
  /-- `_start_external_deployment`. -/
  | shared
  /-- `_start_xinference_container`. -/
  | xinference (dockerCmd : Json)
  /-- `_start_vllm_container`. -/
  | vllm (dockerCmd dtype enforceEager : Json)
  /-- `_start_sglang_container`. -/
  | sglang (dockerCmd dtype attentionBackend : Json)

/-- `config.get("dtype") or "bfloat16"`. -/
def dtypeOf (config : Entries) : Json :=
  match config.lookup "dtype" with
  | none => .str "bfloat16"
  | some dtype => if dtype.truthy then dtype else .str "bfloat16"

def Launched.entries (config : Entries) : Launched → Entries
  | .shared => [("dtype", dtypeOf config)]
  | .xinference dockerCmd => [("docker_cmd", dockerCmd), ("dtype", dtypeOf config)]
  | .vllm dockerCmd dtype enforceEager =>
    [("docker_cmd", dockerCmd), ("dtype", dtype), ("enforce_eager", enforceEager)]
  | .sglang dockerCmd dtype attentionBackend =>
    [("docker_cmd", dockerCmd), ("dtype", dtype)] ++
      if attentionBackend.truthy then [("attention_backend", attentionBackend)] else []

def mergeEntries (config added : Entries) : Entries :=
  added.foldl (fun kvs kv => Json.setEntry kvs kv.1 kv.2) config

def Launched.config (launched : Launched) (config : Option Json) : Option Json :=
  some (.obj (mergeEntries (entriesOf config) (launched.entries (entriesOf config))))

/-- The session of `_start_legacy_deployment_claimed` after the launch, which writes the config of
the copy. -/
def completeLegacyStart (claim : Claim) (userId : Option String) (copy : DeploymentRow) (now : Nat)
    (g : Group) : Except DeploymentError Group := do
  let d ← claimedLegacyDeployment claim userId g
  let d ← ({ d with modelUid := copy.modelUid, config := copy.config }).updateStatus .running none
    now
  pure { g with deployment := d }

/-! ## Runs -/

structure StartInFlight where
  claim : Claim
  userId : Option String
  copied : Option Json
  runtime : DeploymentRow

/-- A deployment with the starts in flight. -/
structure ConfigState where
  group : Group
  starts : List StartInFlight

/-- A session that may write the config, or another one of the operations. -/
inductive ConfigOp where
  | updateConfig (args : ConfigUpdate) (observed : ObservedDeployment)
  | setIntent (claim : Claim) (enabled : Bool)
  | beginStart (args : LegacyStart)
  | launched (start : Nat) (result : Launched)
  | completeStart (start : Nat)
  | writeStatus (claim : Claim) (userId : Option String) (status : DeploymentStatus)
      (errorMessage : Option String)
  | claims (op : ClaimOp)

/-- A session, and `now_naive()` in it. -/
structure TimedConfigOp where
  op : ConfigOp
  now : Nat

def committedGroup (g : Group) : Except DeploymentError Group → Group
  | .ok g' => g'
  | .error _ => g

def recordLaunch (starts : List StartInFlight) (start : Nat) (result : Launched) :
    List StartInFlight :=
  starts.modify start fun s =>
    { s with runtime := { s.runtime with config := result.config s.runtime.config } }

def LaunchConfigs.stepConfig (s : ConfigState) (t : TimedConfigOp) : ConfigState :=
  let g := s.group
  match t.op with
  | .updateConfig args observed =>
    { s with group := committed g (launch.updateDeploymentConfig args observed t.now g) }
  | .setIntent claim enabled =>
    { s with group := committedGroup g (setDeferredStartIntent claim enabled t.now g) }
  | .beginStart args =>
    match beginLegacyStart args t.now g with
    | .ok (some copy, g') => ⟨g', s.starts ++ [⟨args.claim, args.userId, copy.config, copy⟩]⟩
    | _ => s
  | .launched start result => { s with starts := recordLaunch s.starts start result }
  | .completeStart start =>
    match s.starts[start]? with
    | none => s
    | some started => { s with
        group := committedGroup g
          (completeLegacyStart started.claim started.userId started.runtime t.now g) }
  | .writeStatus claim userId status errorMessage =>
    { s with
      group := committedGroup g (writeLegacyStatus claim userId status errorMessage t.now g) }
  | .claims op => { s with group := stepClaims g ⟨op, t.now⟩ }

def LaunchConfigs.persistedBy (s : ConfigState) (t : TimedConfigOp) : List (Option Entries) :=
  match t.op with
  | .updateConfig args observed =>
    match launch.updateDeploymentConfig args observed t.now s.group with
    | .ok (persisted, _) => [persisted]
    | .error _ => []
  | _ => []

end Deployment
