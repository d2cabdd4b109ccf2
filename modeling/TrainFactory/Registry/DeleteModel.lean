import TrainFactory.Registry.Service

/-!
# Deleting a model

`delete_model` as the sequence of its transactions and external steps: the intent it publishes in
the row, the checks that renew or require it, the external cleanup, the final transaction, and what
a run that fails restores. `Deletions.step` interleaves the runs on one row, each of which may raise
or stop at any step.
-/

namespace Registry

open Lib

/-- A date as `datetime.fromisoformat` returns it: naive, in microseconds, or with a time zone. -/
inductive IsoDate where
  | naive (time : Nat)
  | aware

/-- What the intent depends on besides the row. -/
structure Clock where
  /-- `datetime.isoformat`. -/
  isoformat : Nat → String
  /-- `datetime.fromisoformat(str(value))`; `none` where it raises. -/
  fromIsoFormat : Json → Option IsoDate

variable (clock : Clock)

/-- `MODEL_DELETE_INTENT_LEASE_SECONDS`, in microseconds. -/
def modelDeleteIntentLease : Nat := 120 * 1000000

def jsonOf (value : Option Json) : Json := value.getD .null

/-- `intent.get(key)`: a missing entry and `null` are `None`. -/
def valueOf (intent : List (String × Json)) (key : String) : Option Json :=
  match intent.lookup key with
  | some .null => none
  | entry => entry

structure Original where
  status : String
  extraMetadata : Option Json

/-- The heartbeat of the intent is naive, and its age is beyond the lease. -/
def Clock.isStale (intent : List (String × Json)) (now : Nat) : Bool :=
  match intent.lookup "heartbeat_at" with
  | none => false
  | some heartbeatAt =>
    match clock.fromIsoFormat heartbeatAt with
    | some (.naive time) => modelDeleteIntentLease + time < now
    | _ => false

def canonicalPublicMetadata (extraMetadata : Option Json) (hadExtraMetadata : Bool) :
    Option Json :=
  let publicMetadata := publicModelExtraMetadata extraMetadata
  if hadExtraMetadata then publicMetadata
  else
    match publicMetadata with
    | some (.obj []) => none
    | _ => publicMetadata

def originalOf (m : ModelRow) (intent : List (String × Json)) : Option Original :=
  match valueOf intent "original_status", valueOf intent "had_extra_metadata" with
  | some (.str status), some (.bool had) =>
    let extraMetadata := valueOf intent "original_extra_metadata"
    if status = "deleting" ∨
        (had ∧ ¬ extraMetadata.any Json.isObj) ∨ (¬ had ∧ extraMetadata.isSome) ∨
        ¬ Json.beq (jsonOf (canonicalPublicMetadata m.extraMetadata had)) (jsonOf extraMetadata)
    then none
    else some ⟨status, extraMetadata⟩
  | _, _ => none

def Clock.intentEntries (token : String) (original : Original) (now : Nat) :
    List (String × Json) :=
  [("token", .str token), ("started_at", .str (clock.isoformat now)),
    ("heartbeat_at", .str (clock.isoformat now)), ("original_status", .str original.status),
    ("original_extra_metadata", jsonOf original.extraMetadata),
    ("had_extra_metadata", .bool original.extraMetadata.isSome)]

/-- `ReplicaOperationBusyError("model deletion is already in progress")`. -/
def deletionBusy : RegistryError := .busy "model deletion is already in progress"

/-- What the row was before: as it is, or as a stale intent says. -/
def Clock.findOriginal (m : ModelRow) (now : Nat) : Except RegistryError Original :=
  if m.status = "deleting" then
    match m.intentToken, intentOf m.extraMetadata with
    | some _, some intent =>
      if clock.isStale intent now then
        match originalOf m intent with
        | some original => .ok original
        | none => .error deletionBusy
      else .error deletionBusy
    | _, _ => .error deletionBusy
  else if isReserved m.extraMetadata then
    .error (.valueError "model delete intent metadata is reserved")
  else .ok ⟨m.status, m.extraMetadata⟩

/-- `deepcopy(original_extra_metadata) or {}`, as a dict that takes the intent. -/
def metadataEntries (extraMetadata : Option Json) : Except RegistryError (List (String × Json)) :=
  match extraMetadata with
  | some (.obj kvs) => .ok kvs
  | some value => if value.truthy then .error .typeError else .ok []
  | none => .ok []

def Clock.publishIntent (m : ModelRow) (token : String) (now : Nat) :
    Except RegistryError (ModelRow × Original) :=
  if m.downloadStatus = some "pending" ∨ m.downloadStatus = some "downloading" then
    .error (.valueError ("Cannot delete model " ++ m.modelId ++ ": download is active"))
  else do
    let original ← clock.findOriginal m now
    let metadata ← metadataEntries original.extraMetadata
    pure ({ m with
      status := "deleting"
      extraMetadata := some (.obj (Json.setEntry metadata modelDeleteIntentMetadataKey
        (.obj (clock.intentEntries token original now)))) }, original)

def Clock.renewed (m : ModelRow) (now : Nat) : ModelRow :=
  let intent := Json.setEntry ((intentOf m.extraMetadata).getD []) "heartbeat_at"
    (.str (clock.isoformat now))
  { m with
    extraMetadata := some (.obj (Json.setEntry (entries m.extraMetadata)
      modelDeleteIntentMetadataKey (.obj intent))) }

def Clock.renewModelDeleteIntent (row : Option ModelRow) (token : String) (now : Nat) :
    Except RegistryError ModelRow :=
  match row with
  | none => .error (.ownershipLost "model deletion ownership was lost")
  | some m =>
    if m.intentToken ≠ some token then
      .error (.ownershipLost "model deletion ownership was lost")
    else .ok (clock.renewed m now)

def requireDeleteIntent (row : Option ModelRow) (token : String) : Except RegistryError Unit :=
  match row with
  | none => .error (.dependencyUnavailable "Model deletion ownership was lost")
  | some m =>
    if m.intentToken ≠ some token then
      .error (.dependencyUnavailable "Model deletion ownership was lost")
    else .ok ()

/-- What a run restores if it fails before its external cleanup. -/
def restoreIntent (row : Option ModelRow) (token : String) (original : Original) :
    Option ModelRow :=
  row.map fun m =>
    if m.intentToken = some token then
      { m with
        status := if original.status = "" then "registered" else original.status
        extraMetadata := original.extraMetadata }
    else m

/-! ## Runs -/

/-- What a run does next. -/
inductive Stage where
  /-- Phase A2: the dependency scope and the checks of what depends on the model. -/
  | discover
  | renew
  /-- The claim of a deployment. -/
  | claim
  /-- A dependency scope with its checks: phase B, or a validation of the snapshot. -/
  | validate
  /-- The removal of the runtime of a deployment. -/
  | removeContainer
  /-- The look at the artifact directory. -/
  | lookup
  /-- The removal of the artifact directory. -/
  | removeStorage
  /-- The final validation and transaction. -/
  | finalDelete
deriving DecidableEq

/-- What a stage meets: what its checks and calls say, the deployments that phase A2 finds to be
claimed, and whether the artifact directory is there. -/
structure Verdict where
  raises : Bool
  deployments : Nat
  stored : Bool

/-- What follows phase A2. -/
def stagesAfterDiscovery (deployments : Nat) : List Stage :=
  (List.replicate deployments [Stage.renew, .claim]).flatten ++
    [.renew, .validate, .renew, .validate] ++
    (List.replicate deployments [Stage.renew, .removeContainer]).flatten ++
    [.renew, .validate, .lookup]

def stagesAfterLookup (stored : Bool) : List Stage :=
  (if stored then [.renew, .removeStorage] else []) ++ [.renew, .finalDelete]

/-- A run is under way, has raised and is to be handled, or is over. -/
inductive RunPhase where
  | running | raised | ended
deriving DecidableEq

structure DeleteRun where
  token : String
  original : Original
  externalCleanupStarted : Bool
  stages : List Stage
  phase : RunPhase

/-- The row of one model, and the runs that have published an intent for it. -/
structure Deletions where
  row : Option ModelRow
  runs : List DeleteRun

/-- The external calls, before which the run notes that its cleanup has started. -/
def Stage.isExternal : Stage → Bool
  | .removeContainer | .removeStorage => true
  | _ => false

def Clock.runStage (stage : Stage) (row : Option ModelRow) (token : String) (now : Nat) :
    Except RegistryError (Option ModelRow) :=
  match stage with
  | .discover | .validate => do
    requireDeleteIntent row token
    pure row
  | .renew => do
    let m ← clock.renewModelDeleteIntent row token now
    pure (some m)
  | .claim | .removeContainer | .lookup | .removeStorage => .ok row
  | .finalDelete => do
    requireDeleteIntent row token
    pure none

def Stage.next (stage : Stage) (verdict : Verdict) (stages : List Stage) : List Stage :=
  match stage with
  | .discover => stagesAfterDiscovery verdict.deployments
  | .lookup => stagesAfterLookup verdict.stored
  | _ => stages

def Clock.advance (row : Option ModelRow) (run : DeleteRun) (verdict : Verdict) (now : Nat) :
    Option ModelRow × DeleteRun :=
  match run.phase, run.stages with
  | .running, stage :: stages =>
    let run := { run with
      externalCleanupStarted := run.externalCleanupStarted || stage.isExternal }
    if verdict.raises then (row, { run with phase := .raised })
    else
      match clock.runStage stage row run.token now with
      | .error _ => (row, { run with phase := .raised })
      | .ok row => (row, { run with stages := stage.next verdict stages })
  | .running, [] => (row, { run with phase := .ended })
  | _, _ => (row, run)

def Clock.heartbeat (row : Option ModelRow) (run : DeleteRun) (now : Nat) : Option ModelRow :=
  match clock.renewModelDeleteIntent row run.token now with
  | .ok m => some m
  | .error _ => row

/-- The handler of a run that has raised: it restores the row, unless the run has started its
external cleanup. -/
def handle (row : Option ModelRow) (run : DeleteRun) : Option ModelRow × DeleteRun :=
  if run.phase = .raised then
    (if run.externalCleanupStarted then row else restoreIntent row run.token run.original,
      { run with phase := .ended })
  else (row, run)

/-- A step: a new run with the token `uuid4` has given it, a stage of a run, a heartbeat, the
handler of a run, or the crash of its process. -/
inductive DeleteCall where
  | start (token : String) (now : Nat)
  | advance (run : Nat) (verdict : Verdict) (now : Nat)
  | heartbeat (run : Nat) (now : Nat)
  | handle (run : Nat)
  | crash (run : Nat)

def Deletions.step (s : Deletions) : DeleteCall → Deletions
  | .start token now =>
    if token = "" ∨ s.runs.any fun run => run.token = token then s
    else
      match s.row with
      | none => s
      | some m =>
        match clock.publishIntent m token now with
        | .error _ => s
        | .ok (m', original) =>
          { row := some m', runs := s.runs ++ [⟨token, original, false, [.discover], .running⟩] }
  | .advance i verdict now =>
    match s.runs[i]? with
    | none => s
    | some run =>
      { row := (clock.advance s.row run verdict now).1
        runs := s.runs.set i (clock.advance s.row run verdict now).2 }
  | .heartbeat i now =>
    match s.runs[i]? with
    | none => s
    | some run => { s with row := clock.heartbeat s.row run now }
  | .handle i =>
    match s.runs[i]? with
    | none => s
    | some run => { row := (handle s.row run).1, runs := s.runs.set i (handle s.row run).2 }
  | .crash i =>
    match s.runs[i]? with
    | none => s
    | some run => { s with runs := s.runs.set i { run with phase := .ended } }

def Deletions.ofRow (m : ModelRow) : Deletions := ⟨some m, []⟩

end Registry
