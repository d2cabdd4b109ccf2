import TrainFactory.Sync.Finalization
import TrainFactory.Sync.Trainings

/-!
# The datasets of a target training

`get_all_completed_qa_datasets` and `get_all_completed_generation_datasets` give
`_launch_training_for_target` the outputs of the completed generations, from which it collects the
datasets of the training and the samples that it claims. The launch is modelled up to its call of
`create_training_with_claim`.
-/

namespace SyncTraining

open Lib Sync

/-! ## Completed generations -/

def completedGenerations (db : StoredDatabase) (taskId : String)
    (datasetId : ExternalSyncGeneration → Option String) : List (StoredRow ExternalSyncGeneration) :=
  db.generations.select fun g =>
    g.row.taskId = taskId && g.row.status = .completed && (datasetId g.row).isSome &&
      !g.row.disabled

def jsonOfOption : Option String → Json
  | none => .null
  | some s => .str s

def generationDict (isoformat : DateTime → String) (g : StoredRow ExternalSyncGeneration) : Json :=
  .obj
    [("id", .int g.id),
      ("task_id", .str g.row.taskId),
      ("generation_task_id", .str g.row.generationTaskId),
      ("user_id", .str g.row.userId),
      ("input_batch_ids", .arr (g.row.inputBatchIds.map .str)),
      ("input_record_count", .int g.row.inputRecordCount),
      ("output_dataset_id", jsonOfOption g.row.outputDatasetId),
      ("output_sample_count", .int g.row.outputSampleCount),
      ("status", .str (StatusValue.value g.row.status)),
      ("created_at", .str (isoformat g.row.createdAt)),
      ("completed_at", jsonOfOption (g.row.completedAt.map isoformat)),
      ("disabled", .bool g.row.disabled)]

def finalGenerations (db : StoredDatabase) (taskId : String) : List (StoredRow ExternalSyncGeneration) :=
  (completedGenerations db taskId ExternalSyncGeneration.outputDatasetId).mergeSort
    fun g g' => g.row.createdAt ≤ g'.row.createdAt

def getAllCompletedGenerationDatasets (isoformat : DateTime → String) (db : StoredDatabase)
    (taskId : String) : List Json :=
  (finalGenerations db taskId).map (generationDict isoformat)

def qaGenerations (db : StoredDatabase) (taskId : String) : List (StoredRow ExternalSyncGeneration) :=
  completedGenerations db taskId ExternalSyncGeneration.qaDatasetId

def qaDict (g : StoredRow ExternalSyncGeneration) : Json :=
  .obj [("dataset_id", jsonOfOption g.row.qaDatasetId), ("sample_count", .int g.row.qaSampleCount),
    ("generation_task_id", .str g.row.generationTaskId)]

def getAllCompletedQaDatasets (db : StoredDatabase) (taskId : String) : List Json :=
  (qaGenerations db taskId).map qaDict

/-! ## The launch -/

inductive LaunchError where
  | keyError (key : String)
  | typeError
  /-- An error of the sync service. -/
  | sync (e : SyncError)
  /-- A path that `_normalize_training_config_paths` refuses. -/
  | path (message : String)
deriving DecidableEq

structure DatasetInfo where
  storageUri : Option String := none
  storagePath : Option String := none

structure DatasetConfig where
  path : String
  datasetId : String
  sampleCount : Int

structure TrainingConfig where
  baseModelPath : String
  modelType : String
  trainingMethod : String
  trainDatasetPath : String
  datasetConfigs : List DatasetConfig
  /-- The entries of the target's own configuration. -/
  trainConfig : Json
  userId : String

structure LaunchEnv where
  isoformat : DateTime → String
  /-- `dataset_service.get_dataset`. -/
  getDataset : String → Option DatasetInfo
  /-- `_resolve_base_model_path` of a deployment; `none` where it raises. -/
  resolveBaseModelPath : String → Option String
  /-- Whether `_normalize_training_config_paths` raises. -/
  normalize : TrainingConfig → Except LaunchError Unit
  /-- `uuid.uuid4()`. -/
  trainingTaskId : String
  now : DateTime

variable (env : LaunchEnv)

/-- `ds_info.get("storage_uri") or ds_info.get("storage_path")`. -/
def DatasetInfo.storageLocation (info : DatasetInfo) : Option String :=
  if truthy info.storageUri then info.storageUri else info.storagePath

def storedLocation (datasetId : String) : Option String :=
  ((env.getDataset datasetId).bind DatasetInfo.storageLocation).filter (· ≠ "")

/-- `ds["dataset_id"]`. -/
def datasetIdOf (ds : Json) : Except LaunchError String :=
  match ds.get? "dataset_id" with
  | none => .error (.keyError "dataset_id")
  | some (.str datasetId) => .ok datasetId
  | some _ => .error .typeError

/-- `ds.get("sample_count", 0)`, as a number that is added. -/
def sampleCountOf (ds : Json) : Except LaunchError Int :=
  match ds.getD "sample_count" (.int 0) with
  | .int n => .ok n
  | _ => .error .typeError

def collectDatasets : List Json → Except LaunchError (List DatasetConfig × Int)
  | [] => .ok ([], 0)
  | ds :: rest =>
    match datasetIdOf ds with
    | .error e => .error e
    | .ok datasetId =>
      match storedLocation env datasetId with
      | none => collectDatasets rest
      | some path =>
        match sampleCountOf ds with
        | .error e => .error e
        | .ok count =>
          match collectDatasets rest with
          | .error e => .error e
          | .ok (configs, total) =>
            .ok ({ path := path, datasetId := datasetId, sampleCount := count } :: configs,
              count + total)

def baseModelPath (target : ExternalSyncTrainingTarget) : String :=
  if target.baseModelPath = "" ∧ truthy target.baseDeploymentId then
    ((target.baseDeploymentId).bind env.resolveBaseModelPath).getD ""
  else target.baseModelPath

def targetDatasets (db : StoredDatabase) (taskId : String) (target : ExternalSyncTrainingTarget) :
    List Json :=
  if target.dataPhase = "qa" then getAllCompletedQaDatasets db taskId
  else getAllCompletedGenerationDatasets env.isoformat db taskId

def trainingConfigOf (task : ExternalSyncTask) (target : ExternalSyncTrainingTarget)
    (configs : List DatasetConfig) : TrainingConfig where
  baseModelPath := baseModelPath env target
  modelType := target.modelType
  trainingMethod := target.trainingMethod
  trainDatasetPath := (configs.map DatasetConfig.path).headD ""
  datasetConfigs := configs
  trainConfig := target.trainingConfig
  userId := task.userId

/-- `_launch_training_for_target` up to its claim: the arguments of the claim, or `none` where it
returns `False` before. -/
def launchTrainingForTarget (db : StoredDatabase) (configId : String)
    (target : ExternalSyncTrainingTarget) (requireThreshold : Bool) :
    Except LaunchError (Option CreateTraining) :=
  match db.tasks.rows.find? fun t => t.row.taskId = configId with
  | none => .error (.sync (.valueError ("Sync task not found: " ++ configId)))
  | some task =>
    if target.taskId ≠ "" ∧ target.taskId ≠ configId then
      .error (.sync (.permissionError "Training target belongs to another sync task"))
    else if baseModelPath env target = "" then .ok none
    else if (targetDatasets env db configId target).isEmpty then .ok none
    else
      match collectDatasets env (targetDatasets env db configId target) with
      | .error e => .error e
      | .ok (configs, totalSamples) =>
        if configs.isEmpty then .ok none
        else
          match env.normalize (trainingConfigOf env task.row target configs) with
          | .error e => .error e
          | .ok () =>
            .ok (some
              { now := env.now
                taskId := configId
                trainingTaskId := env.trainingTaskId
                userId := task.row.userId
                inputDatasetIds := configs.map DatasetConfig.datasetId
                totalSamples := totalSamples
                trainingRound := target.totalTrainings + 1
                targetId := some target.targetId
                requireThreshold := requireThreshold })

/-! ## What the target is trained on -/

def phaseGenerations (db : StoredDatabase) (taskId : String) (dataPhase : String) :
    List (StoredRow ExternalSyncGeneration) :=
  if dataPhase = "qa" then qaGenerations db taskId else finalGenerations db taskId

def phaseDataset (dataPhase : String) (g : StoredRow ExternalSyncGeneration) : String :=
  (if dataPhase = "qa" then g.row.qaDatasetId else g.row.outputDatasetId).getD ""

def phaseSamples (dataPhase : String) (g : StoredRow ExternalSyncGeneration) : Int :=
  if dataPhase = "qa" then g.row.qaSampleCount else g.row.outputSampleCount

end SyncTraining
