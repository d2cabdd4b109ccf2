import TrainFactory.Lib.Json
import TrainFactory.Lib.Table

/-!
# The model registry

The rows of `model_registry` and `model_versions`, and the intent that a deletion keeps in the
metadata of a row.
-/

namespace Registry

open Lib

/-- `ModelRegistryDB`. -/
structure ModelRow where
  modelId : String
  modelName : String
  version : String
  modelType : String
  sourceTaskId : Option String
  baseModelPath : Option String
  modelPath : String
  modelPathHash : Option String
  sourceType : String
  isAdapter : Bool
  downloadStatus : Option String
  description : Option String
  tags : Option Json
  category : Option String
  extraMetadata : Option Json
  metrics : Option Json
  fileSize : Option Nat
  status : String
  /-- Whether this is the latest version for its model name. -/
  isLatest : Bool
  userId : Option String

instance : Keyed ModelRow String := ⟨ModelRow.modelId⟩

@[simp] theorem key_model (m : ModelRow) : Keyed.key m = m.modelId := rfl

/-- `ModelVersionDB`. -/
structure VersionRow where
  versionId : String
  modelId : String
  version : String
  modelPath : String
  changelog : Option String
  metrics : Option Json

instance : Keyed VersionRow String := ⟨VersionRow.versionId⟩

@[simp] theorem key_version (v : VersionRow) : Keyed.key v = v.versionId := rfl

structure Tables where
  models : Table ModelRow
  versions : Table VersionRow

/-- A registry without models. -/
def Tables.empty : Tables := ⟨Table.empty, Table.empty⟩

inductive RegistryError where
  | valueError (message : String)
  | typeError
  | integrityError
  /-- `ModelDeletionInProgressError`. -/
  | modelDeletionInProgress (message : String)
  /-- `ModelDeletionOwnershipLostError`. -/
  | ownershipLost (message : String)
  /-- `RuntimeDependencyUnavailableError`. -/
  | dependencyUnavailable (message : String)
  /-- `ReplicaOperationBusyError`. -/
  | busy (message : String)
  /-- What a check of the dependencies of a model, or a step of its external cleanup, raises. -/
  | raised (message : String)

def modelDeleteIntentMetadataKey : String := "_train_factory_model_delete_intent_v1"

/-- `extra_metadata.get(MODEL_DELETE_INTENT_METADATA_KEY)`, if both are dicts. -/
def intentOf (extraMetadata : Option Json) : Option (List (String × Json)) :=
  match extraMetadata.bind fun value => value.get? modelDeleteIntentMetadataKey with
  | some (.obj intent) => some intent
  | _ => none

def isReserved (extraMetadata : Option Json) : Bool :=
  (extraMetadata.bind fun value => value.get? modelDeleteIntentMetadataKey).isSome

/-- `_model_delete_intent_token`. -/
def ModelRow.intentToken (m : ModelRow) : Option String :=
  if m.status ≠ "deleting" then none
  else
    match intentOf m.extraMetadata with
    | none => none
    | some intent =>
      match intent.lookup "token" with
      | some (.str token) => if token = "" then none else some token
      | _ => none

def publicModelExtraMetadata (extraMetadata : Option Json) : Option Json :=
  match extraMetadata with
  | some (.obj kvs) =>
    let stripped : Option Json := some (.obj (Json.popEntry kvs modelDeleteIntentMetadataKey))
    match intentOf extraMetadata with
    | none => stripped
    | some intent =>
      match intent.lookup "had_extra_metadata" with
      | some (.bool false) => none
      | _ => stripped
  | _ => extraMetadata

end Registry
