import TrainFactory.Sync.Cycle
import TrainFactory.Sync.Proofs.OperationsProofs

/-!
# Proofs: what the transactions of the service keep of the sync position

The cursor, the boundary and the rollback of a task are written by `update_task` alone, and no
transaction but a position reset deletes a batch row or moves its file.
-/

namespace Sync

open Lib

/-- The columns of a task that decide what the next cycle takes in. -/
def ExternalSyncTask.position (t : ExternalSyncTask) : Option DateTime × List String × Nat :=
  (t.lastSyncAt, t.lastSyncBoundaryIds, t.boundaryRollbackSeconds)

def ExternalSyncBatch.place (b : ExternalSyncBatch) : String × String := (b.taskId, b.storagePath)

abbrev SamePosition (t t' : Table ExternalSyncTask) : Prop :=
  Table.SameColumn ExternalSyncTask.position t t'

abbrev BatchesKept (t t' : Table ExternalSyncBatch) : Prop :=
  Table.SameColumn ExternalSyncBatch.place t' t

variable {env : Env} {db : Database}

/-! ## Batches -/

theorem BatchMove.kept {creates : CreateBatch → Prop} {batches : Table ExternalSyncBatch}
    {generations : Table ExternalSyncGeneration} {uuids : List String}
    (h : BatchMove creates db batches generations uuids) : BatchesKept db.batches batches := by
  cases h with
  | stay => exact .refl _
  | create args batches hargs huuid hstatus hins => exact .ofInsert hins
  | promote batch hbatch hstatus => exact .ofUpdate (by intro _; exact ⟨rfl, rfl⟩)
  | reset taskId => exact .ofUpdateWhere (by intro _; exact ⟨rfl, rfl⟩)
  | claim args n generations hne hpending hfetched hins =>
    rw [claimBatches_batches]
    exact .ofUpdateWhere (by intro _; exact ⟨rfl, rfl⟩)
  | complete now g outputDatasetId sampleCount hg hpending howns =>
    rw [consumeBatches_batches]
    exact .ofUpdateWhere (by intro _; exact ⟨rfl, rfl⟩)
  | fail now g reason hg hpending =>
    rw [restoreBatches_batches]
    exact .ofUpdateWhere (by intro _; exact ⟨rfl, rfl⟩)
  | toggle g disabled hg =>
    unfold movedBatches
    split
    · split
      · exact .ofUpdateWhere (by intro _; exact ⟨rfl, rfl⟩)
      · exact .ofUpdateWhere (by intro _; exact ⟨rfl, rfl⟩)
    · exact .refl _
  | recordQa g qaDatasetId qaSampleCount hg hnone => exact .refl _

theorem Op.keepsPosition.resetsPosition {op : Op} (h : op.keepsPosition) :
    op.resetsPosition = false := by
  cases op with
  | updateTask verdict args =>
    have hcursor : args.patch.lastSyncAt = none := h.1
    simp [Op.resetsPosition, hcursor]
  | _ => rfl

theorem Op.keepsPosition.batchesKept {op : Op} (h : op.keepsPosition) :
    BatchesKept db.batches (op.apply env db).batches :=
  (apply_batchMove h.resetsPosition).kept

/-! ## Tasks -/

theorem creditFinalOutput_samePosition (taskId : String) (dataset : Option String) (count : Int) :
    SamePosition db.tasks (creditFinalOutput taskId dataset count db).tasks := by
  rw [creditFinalOutput_tasks]
  split
  · exact .update (by intro _; exact ⟨rfl, rfl⟩)
  · exact .refl _

theorem recountPending_samePosition (db : Database) (taskId : String) :
    SamePosition db.tasks (recountPending db taskId).tasks := .update (by intro _; exact ⟨rfl, rfl⟩)

theorem shiftCounters_samePosition (g : ExternalSyncGeneration) (disabled : Bool) :
    SamePosition db.tasks (shiftCounters g disabled db).tasks := by
  rw [shiftCounters_tasks]
  split
  · exact .update (by intro _; exact ⟨rfl, rfl⟩)
  · exact .refl _

theorem leaveGenerating_position (t : ExternalSyncTask) :
    t.leaveGenerating.position = t.position := by
  unfold ExternalSyncTask.leaveGenerating
  split <;> rfl

theorem failGenerating_position (reason : String) (t : ExternalSyncTask) :
    (t.failGenerating reason).position = t.position := by
  unfold ExternalSyncTask.failGenerating
  split <;> rfl

theorem patchedTask_position {legacyTrainingTargetId : String → String} {p : TaskPatch}
    {final : Option (List TargetValues)} {targets : List ExternalSyncTrainingTarget}
    (hcursor : p.lastSyncAt = none) (hboundary : p.lastSyncBoundaryIds = none)
    (t : ExternalSyncTask) :
    (patchedTask legacyTrainingTargetId p final targets t).position = t.position := by
  unfold patchedTask
  split <;> simp [ExternalSyncTask.position, TaskPatch.apply, hcursor, hboundary,
    ExternalSyncTask.clearLegacyTrainingSources]

theorem Op.keepsPosition.samePosition {op : Op} (hop : op.keepsPosition) :
    SamePosition db.tasks (op.apply env db).tasks := by
  have heffect := op.effect env db
  generalize op.apply env db = db' at heffect ⊢
  cases heffect with
  | stay | create | writeTraining | unload | createTarget | updateTarget => exact .refl _
  | complete now g outputDatasetId outputSampleCount hg hpending howns =>
    rw [consumeBatches_tasks]
    exact (creditFinalOutput_samePosition _ _ _).trans (.update fun t =>
      ⟨ExternalSyncTask.leaveGenerating_taskId t, leaveGenerating_position t⟩)
  | fail now g reason reason' hg hpending =>
    simp only [restoreBatches]
    refine .trans ?_ (.update fun t =>
      ⟨ExternalSyncTask.failGenerating_taskId reason' t, failGenerating_position reason' t⟩)
    exact recountPending_samePosition _ g.taskId
  | toggle g disabled hg hdisabled =>
    have hmoved : SamePosition db.tasks (movedBatches g disabled { db with
        generations := db.generations.update g.generationTaskId fun g =>
          { g with disabled := disabled } }).tasks := by
      rw [movedBatches_tasks]
      exact .refl _
    have hcounted := hmoved.trans (recountPending_samePosition _ g.taskId)
    simp only [toggled]
    split
    · split
      · exact hcounted.trans (shiftCounters_samePosition g disabled)
      · exact hmoved.trans (shiftCounters_samePosition g disabled)
    · split
      · exact hcounted
      · exact hmoved
  | recordQa =>
    simp only [recordQaOutput]
    split <;> exact .refl _
  | claimForTask =>
    exact .trans (.update (by intro _; exact ⟨rfl, rfl⟩)) (.update (by intro _; exact ⟨rfl, rfl⟩))
  | consume now training hmem hopen =>
    simp only [consumeClaim]
    split
    · exact .refl _
    · exact .update (by intro _; exact ⟨rfl, rfl⟩)
  | updateTask verdict args task final written htask hguard hfinal hwritten =>
    obtain ⟨hcursor, hboundary⟩ := hop
    have hnot : isPositionReset args.patch task = false := by
      simp [isPositionReset, hcursor]
    rw [writeTask_of_not_reset hnot]
    exact .update fun t => ⟨patchedTask_taskId _ _ _ _ t, patchedTask_position hcursor hboundary t⟩
  | _ => exact .update (by intro _; exact ⟨rfl, rfl⟩)

end Sync
