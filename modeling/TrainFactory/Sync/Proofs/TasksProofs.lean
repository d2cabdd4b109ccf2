import TrainFactory.Sync.Tasks
import TrainFactory.Sync.Proofs.BatchesProofs
import TrainFactory.Sync.Proofs.TrainingsProofs

/-!
# Proofs: the task and target writers

Every writer of a task or of its targets goes through the writer scope, which refuses a task under
deletion, or through the transition table, which has no way out of it.
-/

namespace Sync

open Lib

variable {db : Database}

/-! ## The writer scope -/

theorem lockWriterScope_eq_some {verdict : DependencyVerdict} {taskId : String}
    {expectedUserId : Option String} {requested : List String} {task : ExternalSyncTask}
    {targets : List ExternalSyncTrainingTarget}
    (h : lockWriterScope verdict taskId expectedUserId requested db = .ok (some (task, targets))) :
    db.tasks.lookup taskId = some task ∧ task.status.isDeleting = false ∧
      targets = db.targetsOf taskId := by
  unfold lockWriterScope at h
  split at h
  · cases h
  rename_i task' htask
  split at h
  · cases h
  split at h
  · cases h
  split at h
  · cases h
  split at h
  · cases h
  rename_i hdel
  split at h
  · cases h
  · cases h
    exact ⟨htask, by simpa using hdel, rfl⟩

/-! ## Updating a task -/

theorem checkTaskUpdate_eq_ok {verdict : DependencyVerdict} {p : TaskPatch}
    {final : Option (List TargetValues)} {task : ExternalSyncTask}
    {targets : List ExternalSyncTrainingTarget}
    (h : checkTaskUpdate verdict p final task targets db = .ok ()) :
    task.status = p.status.getD task.status ∨
      p.status.getD task.status ∈ taskStatusTransitions task.status := by
  unfold checkTaskUpdate at h
  split at h
  · cases h
  split at h
  · cases h
  split at h
  · cases h
  split at h
  · cases h
  · rename_i hvalid
    exact validateTransition_eq_ok.mp hvalid

theorem replaceTargets_none {legacyTrainingTargetId : String → String} {task : ExternalSyncTask}
    {targets : List ExternalSyncTrainingTarget} {written : Table ExternalSyncTrainingTarget}
    (h : replaceTargets legacyTrainingTargetId none task targets db = .ok written) :
    written = db.targets := by
  cases h
  rfl

/-- `update_task` writes the row of a task that is not being deleted, along the transition table, and
replaces its targets if it is given targets, or changes nothing. -/
theorem updateTask_commit (db : Database) (legacyTrainingTargetId : String → String)
    (verdict : DependencyVerdict) (args : UpdateTask) :
    (updateTask legacyTrainingTargetId verdict args db).commit db = db ∨
    ∃ task final written, db.tasks.lookup args.taskId = some task ∧
      task.status.isDeleting = false ∧
      (task.status = args.patch.status.getD task.status ∨
        args.patch.status.getD task.status ∈ taskStatusTransitions task.status) ∧
      finalTargets args.trainingTargets = .ok final ∧
      replaceTargets legacyTrainingTargetId final task (db.targetsOf args.taskId) db =
        .ok written ∧
      (updateTask legacyTrainingTargetId verdict args db).commit db =
        { (writeTask legacyTrainingTargetId args.patch final task (db.targetsOf args.taskId) db).2
          with targets := written } := by
  unfold updateTask
  cases hfinal : finalTargets args.trainingTargets with
  | error e => exact Or.inl rfl
  | ok final =>
    simp only []
    cases hlock : lockWriterScope verdict args.taskId args.expectedUserId
        ((final.getD []).map TargetValues.targetId) db with
    | error e => exact Or.inl rfl
    | ok scope =>
      cases scope with
      | none => exact Or.inl rfl
      | some scope =>
        obtain ⟨task, targets⟩ := scope
        obtain ⟨htask, hdel, rfl⟩ := lockWriterScope_eq_some hlock
        simp only []
        cases hcheck : checkTaskUpdate verdict args.patch final task (db.targetsOf args.taskId) db with
        | error e => exact Or.inl rfl
        | ok u =>
          simp only []
          cases hwritten : replaceTargets legacyTrainingTargetId final task
              (db.targetsOf args.taskId) db with
          | error e => exact Or.inl rfl
          | ok written =>
            exact Or.inr ⟨task, final, written, htask, hdel, checkTaskUpdate_eq_ok hcheck, rfl,
              hwritten, rfl⟩

theorem patchedTask_totalTrainingSamples (legacyTrainingTargetId : String → String)
    (p : TaskPatch) (final : Option (List TargetValues))
    (targets : List ExternalSyncTrainingTarget) (task : ExternalSyncTask) :
    (patchedTask legacyTrainingTargetId p final targets task).totalTrainingSamples =
      task.totalTrainingSamples := by
  unfold patchedTask
  split <;> rfl

section WriteTask

variable {legacyTrainingTargetId : String → String} {p : TaskPatch}
  {final : Option (List TargetValues)} {task : ExternalSyncTask}
  {targets : List ExternalSyncTrainingTarget}

@[simp] theorem writeTask_generations :
    (writeTask legacyTrainingTargetId p final task targets db).2.generations = db.generations := by
  unfold writeTask invalidateFetchedBatches
  simp only []
  split <;> [split <;> rfl; rfl]

@[simp] theorem writeTask_trainings :
    (writeTask legacyTrainingTargetId p final task targets db).2.trainings = db.trainings := by
  unfold writeTask invalidateFetchedBatches
  simp only []
  split <;> [split <;> rfl; rfl]

theorem writeTask_lookup_of_ne {taskId : String} (h : taskId ≠ task.taskId) :
    (writeTask legacyTrainingTargetId p final task targets db).2.tasks.lookup taskId =
      db.tasks.lookup taskId := by
  unfold writeTask
  simp only []
  split
  · rw [invalidateFetchedBatches_lookup_of_ne h]
    rw [Table.lookup_update, if_neg h]
  · rw [Table.lookup_update, if_neg h]

@[simp] theorem writeTask_uuids :
    (writeTask legacyTrainingTargetId p final task targets db).2.uuids = db.uuids := by
  unfold writeTask invalidateFetchedBatches
  simp only []
  split <;> [split <;> rfl; rfl]

theorem writeTask_of_not_reset (h : isPositionReset p task = false) :
    (writeTask legacyTrainingTargetId p final task targets db).2 = { db with
      tasks := (db.tasks.update task.taskId
        (patchedTask legacyTrainingTargetId p final targets)
        (patchedTask_taskId legacyTrainingTargetId p final targets)) } := by
  unfold writeTask
  simp only [h, Bool.false_eq_true, ↓reduceIte]

theorem mem_writeTask_tasks {t : ExternalSyncTask}
    (h : t ∈ (writeTask legacyTrainingTargetId p final task targets db).2.tasks) :
    ∃ t₀ ∈ db.tasks, (t₀.taskId ≠ task.taskId ∧ t = t₀) ∨ (t₀.taskId = task.taskId ∧
      ∃ n, t = (patchedTask legacyTrainingTargetId p final targets t₀).setPending n) := by
  have hplain : ∀ t ∈ db.tasks.update task.taskId
        (patchedTask legacyTrainingTargetId p final targets)
        (patchedTask_taskId legacyTrainingTargetId p final targets),
      ∃ t₀ ∈ db.tasks, (t₀.taskId ≠ task.taskId ∧ t = t₀) ∨ (t₀.taskId = task.taskId ∧
        ∃ n, t = (patchedTask legacyTrainingTargetId p final targets t₀).setPending n) := by
    intro t ht
    obtain ⟨t₀, ht₀, rfl⟩ := Table.mem_update.mp ht
    refine ⟨t₀, ht₀, ?_⟩
    by_cases hid : t₀.taskId = task.taskId
    · exact Or.inr ⟨hid, (patchedTask legacyTrainingTargetId p final targets t₀).pendingRecordCount,
        by simp [hid, ExternalSyncTask.setPending]⟩
    · exact Or.inl ⟨hid, by simp [hid]⟩
  unfold writeTask invalidateFetchedBatches at h
  simp only [] at h
  split at h
  · split at h
    · exact hplain t h
    · dsimp only at h
      obtain ⟨t₁, ht₁, rfl⟩ := Table.mem_update.mp h
      obtain ⟨t₀, ht₀, hcase⟩ := hplain t₁ ht₁
      refine ⟨t₀, ht₀, ?_⟩
      rcases hcase with ⟨hid, rfl⟩ | ⟨hid, n, rfl⟩
      · exact Or.inl ⟨hid, by simp [hid]⟩
      · rw [if_pos (by simp [patchedTask_taskId, hid])]
        exact Or.inr ⟨hid, _, rfl⟩
  · exact hplain t h

end WriteTask

/-! ## Status writers -/

theorem compareAndSetTaskStatus_commit (db : Database) (taskId : String)
    (expectedStatus status : SyncStatus)
    (errorMessage : Option String) :
    (compareAndSetTaskStatus taskId expectedStatus status errorMessage db).commit db = db ∨
    ∃ task, db.tasks.lookup taskId = some task ∧
      (task.status = status ∨ status ∈ taskStatusTransitions task.status) ∧
      task.status = expectedStatus ∧
      (compareAndSetTaskStatus taskId expectedStatus status errorMessage db).commit db = { db with
        tasks := db.tasks.update taskId fun t => { t with
          status := status
          errorMessage := if errorMessage = none then t.errorMessage else errorMessage } } := by
  unfold compareAndSetTaskStatus
  split
  · exact Or.inl rfl
  rename_i hvalid
  split
  · rename_i hany
    rw [Option.any_eq_true] at hany
    obtain ⟨task, htask, hs⟩ := hany
    have hs : task.status = expectedStatus := by simpa using hs
    exact Or.inr ⟨task, htask, hs ▸ validateTransition_eq_ok.mp hvalid, hs, rfl⟩
  · exact Or.inl rfl

theorem transitionTaskIfNoPendingGeneration_commit (db : Database) (taskId : String)
    (status : SyncStatus)
    (errorMessage : Option String) (expectedStatus : Option SyncStatus) :
    (transitionTaskIfNoPendingGeneration taskId status errorMessage expectedStatus db).commit db =
      db ∨
    ∃ task, db.tasks.lookup taskId = some task ∧
      (task.status = status ∨ status ∈ taskStatusTransitions task.status) ∧
      (transitionTaskIfNoPendingGeneration taskId status errorMessage expectedStatus db).commit db =
        { db with tasks := db.tasks.update taskId fun t =>
          { t with status := status, errorMessage := errorMessage } } := by
  unfold transitionTaskIfNoPendingGeneration
  cases htask : db.tasks.lookup taskId with
  | none => exact Or.inl rfl
  | some task =>
    simp only []
    split
    · exact Or.inl rfl
    split
    · exact Or.inl rfl
    split
    · exact Or.inl rfl
    · rename_i hvalid
      exact Or.inr ⟨task, rfl, validateTransition_eq_ok.mp hvalid, rfl⟩

theorem beginTaskDeletion_commit (db : Database) (taskId : String) (cascade : Bool)
    (expectedUserId : String) :
    (beginTaskDeletion taskId cascade expectedUserId db).commit db = db ∨
    ∃ task, db.tasks.lookup taskId = some task ∧ task.status.isDeleting = false ∧
      (beginTaskDeletion taskId cascade expectedUserId db).commit db = { db with
        tasks := db.tasks.update taskId fun t => { t with
          status := if cascade then .deletingCascade else .deleting
          isActive := false
          errorMessage := none } } := by
  unfold beginTaskDeletion
  cases htask : db.tasks.lookup taskId with
  | none => exact Or.inl rfl
  | some task =>
    simp only []
    split
    · exact Or.inl rfl
    by_cases hdel : task.status.isDeleting = true
    · rw [if_pos hdel]
      left
      generalize (if cascade = true then SyncStatus.deletingCascade else .deleting) = requested
      split <;> rfl
    · rw [if_neg hdel]
      split
      · exact Or.inl rfl
      · exact Or.inr ⟨task, rfl, by simpa using hdel, rfl⟩

/-! ## Target writers -/

theorem createTrainingTarget_commit (db : Database) (verdict : DependencyVerdict)
    (args : CreateTarget) :
    (createTrainingTarget verdict args db).commit db = db ∨
    ∃ task targets, db.tasks.lookup args.taskId = some task ∧ task.status.isDeleting = false ∧
      db.targets.insert (args.stored.row args.taskId 0) = some targets ∧
      (createTrainingTarget verdict args db).commit db = { db with targets := targets } := by
  unfold createTrainingTarget
  split
  · exact Or.inl rfl
  split
  · exact Or.inl rfl
  · exact Or.inl rfl
  rename_i hlock
  obtain ⟨htask, hdel, -⟩ := lockWriterScope_eq_some hlock
  split
  · exact Or.inl rfl
  · cases hins : db.targets.insert (args.stored.row args.taskId 0) with
    | none => exact Or.inl (by simp only [hins]; rfl)
    | some targets => exact Or.inr ⟨_, targets, htask, hdel, rfl, by simp only [hins]; rfl⟩

/-- `migrate_legacy_training_target` clears the legacy sources of a task that is not being deleted, and
credits its samples to one target of it, which it may create; or it changes nothing. -/
theorem migrateLegacyTrainingTarget_commit (db : Database) (verdict : DependencyVerdict)
    (args : CreateTarget) :
    (migrateLegacyTrainingTarget verdict args db).commit db = db ∨
    ∃ task targets, db.tasks.lookup args.taskId = some task ∧ task.status.isDeleting = false ∧
      ((∃ id, targets = db.targets.update id (·.credit task.pendingTrainingSamples)) ∨
        db.targets.insert (args.stored.row args.taskId task.pendingTrainingSamples) =
          some targets) ∧
      (migrateLegacyTrainingTarget verdict args db).commit db = { db with
        targets := targets
        tasks := db.tasks.update args.taskId ExternalSyncTask.clearLegacyTrainingSources } := by
  unfold migrateLegacyTrainingTarget
  split
  · exact Or.inl rfl
  split
  · exact Or.inl rfl
  · exact Or.inl rfl
  · rename_i hlock
    obtain ⟨htask, hdel, -⟩ := lockWriterScope_eq_some hlock
    split
    · exact Or.inr ⟨_, _, htask, hdel, Or.inl ⟨_, rfl⟩, rfl⟩
    · exact Or.inl rfl
  · rename_i hlock
    obtain ⟨htask, hdel, -⟩ := lockWriterScope_eq_some hlock
    split
    · exact Or.inl rfl
    · rename_i parent _ _
      cases hins : db.targets.insert
          (args.stored.row args.taskId parent.pendingTrainingSamples) with
      | none => exact Or.inl (by simp only [hins]; rfl)
      | some targets =>
        exact Or.inr ⟨_, targets, htask, hdel, Or.inr hins, by simp only [hins]; rfl⟩

/-- `update_training_target` patches one target of a task that is not being deleted, along the table
of target statuses, or changes nothing. -/
theorem updateTrainingTarget_commit (db : Database) (verdict : DependencyVerdict)
    (args : UpdateTarget) :
    (updateTrainingTarget verdict args db).commit db = db ∨
    ∃ task target, task ∈ db.tasks ∧ task.status.isDeleting = false ∧
      db.targets.lookup args.targetId = some target ∧ target.taskId = task.taskId ∧
      (target.status = args.patch.status.getD target.status ∨
        args.patch.status.getD target.status ∈ targetStatusTransitions target.status) ∧
      (updateTrainingTarget verdict args db).commit db =
        { db with targets := db.targets.update args.targetId args.patch.apply } := by
  unfold updateTrainingTarget
  split
  · exact Or.inl rfl
  split
  · exact Or.inl rfl
  · exact Or.inl rfl
  rename_i parent targets hlock
  obtain ⟨htask, hdel, rfl⟩ := lockWriterScope_eq_some hlock
  split
  · exact Or.inl rfl
  rename_i target hfind
  split
  · exact Or.inl rfl
  split
  · exact Or.inl rfl
  split
  · exact Or.inl rfl
  rename_i hvalid
  obtain ⟨htarget, htid⟩ := mem_targetsOf.mp (List.mem_of_find?_eq_some hfind)
  have hkey : target.targetId = args.targetId := by simpa using List.find?_some hfind
  obtain ⟨hmem, hid⟩ := Table.lookup_eq_some.mp htask
  exact Or.inr ⟨parent, target, hmem, hdel, Table.lookup_eq_some.mpr ⟨htarget, hkey⟩,
    htid.trans hid.symm, validateTransition_eq_ok.mp hvalid, rfl⟩

end Sync
