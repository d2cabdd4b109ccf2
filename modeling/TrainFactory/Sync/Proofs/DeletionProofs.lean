import TrainFactory.Sync.Proofs.OperationsProofs

/-!
# Proofs: deletion intent is absorbing

A task under deletion stays under deletion in the same mode, stays inactive, and gains no batch,
generation, training or target: every writer that could do otherwise checks the status first, or
goes through the transition table, which has no way out of a deleting status.
-/

namespace Sync

open Lib

/-- The task is under deletion with this status and activity, and has no rows that `db₀` did not
have. -/
structure DeletionInv (taskId : String) (status : SyncStatus) (active : Bool)
    (db₀ db : Database) : Prop where
  task : ∃ t, db.tasks.lookup taskId = some t ∧ t.status = status ∧ t.isActive = active
  batches : Table.RowsFrom (fun b => b.taskId = taskId) db₀.batches db.batches
  generations : Table.RowsFrom (fun g => g.taskId = taskId) db₀.generations db.generations
  trainings : Table.RowsFrom (fun t => t.taskId = taskId) db₀.trainings db.trainings
  targets : Table.RowsFrom (fun t => t.taskId = taskId) db₀.targets db.targets

section Step

variable {env : Env} {db db₀ : Database} {taskId : String} {status : SyncStatus} {active : Bool}

theorem deleting_update {taskId' : String} {f : ExternalSyncTask → ExternalSyncTask}
    (h : ∃ t, db.tasks.lookup taskId = some t ∧ t.status = status ∧ t.isActive = active)
    (hf : ∀ t, Keyed.key (f t) = Keyed.key t)
    (hkeep : ∀ t, db.tasks.lookup taskId = some t → taskId = taskId' → t.status = status →
      t.isActive = active → (f t).status = status ∧ (f t).isActive = active) :
    ∃ t, (db.tasks.update taskId' f hf).lookup taskId = some t ∧ t.status = status ∧
      t.isActive = active := by
  obtain ⟨t, ht, hs, ha⟩ := h
  rw [Table.lookup_update]
  by_cases hid : taskId = taskId'
  · rw [if_pos hid, ← hid, ht]
    exact ⟨f t, rfl, hkeep t ht hid hs ha⟩
  · rw [if_neg hid]
    exact ⟨t, ht, hs, ha⟩

theorem DeletionInv.ne_of_guard (hI : DeletionInv taskId status active db₀ db)
    (hdel : status.isDeleting = true) {taskId' : String} {t' : ExternalSyncTask}
    (ht' : db.tasks.lookup taskId' = some t') (hguard : t'.status.isDeleting = false) :
    taskId ≠ taskId' := by
  rintro rfl
  obtain ⟨t, ht, rfl, -⟩ := hI.task
  cases ht.symm.trans ht'
  rw [hdel] at hguard
  cases hguard

theorem writeTargets_rowsFrom {taskId' : String} (hne : taskId ≠ taskId') {share : String → Int}
    {values : List TargetValues} {targets written : Table ExternalSyncTrainingTarget}
    (h : writeTargets taskId' share values targets = .ok written) :
    Table.RowsFrom (fun t => t.taskId = taskId) targets written := by
  induction values generalizing targets with
  | nil =>
    cases h
    exact .refl _
  | cons v values ih =>
    rw [writeTargets] at h
    split at h
    · refine Table.RowsFrom.trans ?_ (ih h)
      exact .update (by intro _; exact ⟨rfl, id⟩)
    · split at h
      · cases h
      · rename_i targets' hins
        refine Table.RowsFrom.trans (.insert ?_ hins) (ih h)
        exact fun hc => hne hc.symm

theorem replaceTargets_rowsFrom {legacyTrainingTargetId : String → String}
    {final : Option (List TargetValues)} {task : ExternalSyncTask} (hne : taskId ≠ task.taskId)
    {targets : List ExternalSyncTrainingTarget} {written : Table ExternalSyncTrainingTarget}
    (h : replaceTargets legacyTrainingTargetId final task targets db = .ok written) :
    Table.RowsFrom (fun t => t.taskId = taskId) db.targets written := by
  cases final with
  | none =>
    rw [replaceTargets_none h]
    exact .refl _
  | some values =>
    rw [replaceTargets] at h
    exact Table.RowsFrom.trans .deleteWhere (writeTargets_rowsFrom hne h)

theorem writeTask_rowsFrom {legacyTrainingTargetId : String → String} {p : TaskPatch}
    {final : Option (List TargetValues)} {task : ExternalSyncTask}
    {targets : List ExternalSyncTrainingTarget} :
    Table.RowsFrom (fun b => b.taskId = taskId) db.batches
      (writeTask legacyTrainingTargetId p final task targets db).2.batches := by
  unfold writeTask
  simp only []
  split
  · intro b hb htid
    exact ⟨b, ((invalidateFetchedBatches_batches task.taskId b).mp hb).1, rfl, htid⟩
  · exact .refl _

end Step

/-! ## One operation -/

section Apply

variable {env : Env} {db db₀ : Database} {taskId : String} {status : SyncStatus} {active : Bool}

theorem DeletionInv.claimForTask (hI : DeletionInv taskId status active db₀ db)
    (hdel : status.isDeleting = true) {args : CreateTraining} {task : ExternalSyncTask}
    {trainings : Table ExternalSyncTraining} (htask : db.tasks.lookup args.taskId = some task)
    (hguard : task.status.isDeleting = false)
    (hins : db.trainings.insert (args.row task task.asClaim) = some trainings) :
    DeletionInv taskId status active db₀ (claimedForTask args trainings db) := by
  have hne := hI.ne_of_guard hdel htask hguard
  refine ⟨?_, hI.batches, hI.generations,
    hI.trainings.trans (.insert (fun hc => hne hc.symm) hins), hI.targets⟩
  rw [claimedForTask, Table.lookup_update, if_neg hne]
  exact deleting_update hI.task _ fun _ _ hid => absurd hid hne

theorem DeletionInv.claimForTarget (hI : DeletionInv taskId status active db₀ db)
    (hdel : status.isDeleting = true) {args : CreateTraining} {task : ExternalSyncTask}
    {target : ExternalSyncTrainingTarget} {trainings : Table ExternalSyncTraining}
    (htask : db.tasks.lookup args.taskId = some task) (hguard : task.status.isDeleting = false)
    (hins : db.trainings.insert (args.row task (target.asClaim task)) = some trainings) :
    DeletionInv taskId status active db₀
      (claimedForTarget args target.targetId trainings db) := by
  have hne := hI.ne_of_guard hdel htask hguard
  exact ⟨deleting_update hI.task (by intro _; rfl) fun _ _ hid => absurd hid hne, hI.batches,
    hI.generations, hI.trainings.trans (.insert (fun hc => hne hc.symm) hins),
    hI.targets.trans (.update (by intro _; exact ⟨rfl, id⟩))⟩

theorem DeletionInv.consumeClaim (hI : DeletionInv taskId status active db₀ db)
    (hdel : status.isDeleting = true) (now : DateTime) (training : ExternalSyncTraining) :
    DeletionInv taskId status active db₀ (consumeClaim now training db) := by
  unfold Sync.consumeClaim
  refine ⟨?_, hI.batches, hI.generations,
    hI.trainings.trans (.update (by intro _; exact ⟨rfl, id⟩)), ?_⟩
  · dsimp only
    split
    · exact hI.task
    · rename_i hnot
      refine deleting_update hI.task (by intro _; rfl) ?_
      intro t ht hid hs _
      exact absurd (by simp [deletionPending, ← hid, ht, hs, hdel]) hnot
  · dsimp only
    split
    · exact hI.targets.trans (.updateWhere (by intro _; exact ⟨rfl, id⟩))
    · exact hI.targets

theorem DeletionInv.restoreClaim (hI : DeletionInv taskId status active db₀ db)
    (hdel : status.isDeleting = true) (now : DateTime) (training : ExternalSyncTraining)
    (reason : String) :
    DeletionInv taskId status active db₀ (restoreClaim now training reason db) := by
  unfold Sync.restoreClaim
  refine ⟨?_, hI.batches, hI.generations,
    hI.trainings.trans (.update (by intro _; exact ⟨rfl, id⟩)), ?_⟩
  · refine deleting_update hI.task (by intro _; rfl) ?_
    intro t _ _ hs ha
    simp [ExternalSyncTask.restore, hs, hdel, ha]
  · dsimp only
    split
    · exact hI.targets.trans (.updateWhere (by intro _; exact ⟨rfl, id⟩))
    · exact hI.targets

theorem DeletionInv.recountPending (hI : DeletionInv taskId status active db₀ db)
    (taskId' : String) :
    DeletionInv taskId status active db₀ (recountPending db taskId') := by
  unfold Sync.recountPending
  exact ⟨deleting_update hI.task (by intro _; rfl) (by
        intro _ _ _ hs ha
        exact ⟨hs, ha⟩), hI.batches, hI.generations,
    hI.trainings, hI.targets⟩

theorem DeletionInv.creditTargets (hI : DeletionInv taskId status active db₀ db)
    (taskId' phase : String) (count : Int) :
    DeletionInv taskId status active db₀ (creditTargets taskId' phase count db) := by
  unfold Sync.creditTargets
  exact ⟨hI.task, hI.batches, hI.generations, hI.trainings,
    hI.targets.trans (.updateWhere (by intro _; exact ⟨rfl, id⟩))⟩

theorem DeletionInv.creditFinalOutput (hI : DeletionInv taskId status active db₀ db)
    (taskId' : String)
    (dataset : Option String) (count : Int) :
    DeletionInv taskId status active db₀ (creditFinalOutput taskId' dataset count db) := by
  unfold Sync.creditFinalOutput
  split
  · split
    · exact hI.creditTargets taskId' "final" count
    · unfold creditTask
      exact ⟨deleting_update hI.task (by intro _; rfl) (by
        intro _ _ _ hs ha
        exact ⟨hs, ha⟩), hI.batches, hI.generations,
        hI.trainings, hI.targets⟩
  · exact hI

theorem DeletionInv.creditQaOutput (hI : DeletionInv taskId status active db₀ db) (taskId' : String)
    (dataset : Option String) (count : Int) :
    DeletionInv taskId status active db₀ (creditQaOutput taskId' dataset count db) := by
  unfold Sync.creditQaOutput
  split
  · exact hI.creditTargets taskId' "qa" count
  · exact hI

theorem DeletionInv.leaveGenerating (hI : DeletionInv taskId status active db₀ db)
    (hdel : status.isDeleting = true) {taskId' : String}
    {f : ExternalSyncTask → ExternalSyncTask} (hf : ∀ t, Keyed.key (f t) = Keyed.key t)
    (hkeep : ∀ t : ExternalSyncTask, t.status ≠ .generating → f t = t) :
    DeletionInv taskId status active db₀ { db with tasks := db.tasks.update taskId' f hf } := by
  refine ⟨deleting_update hI.task hf ?_, hI.batches, hI.generations,
    hI.trainings, hI.targets⟩
  intro t _ _ hs ha
  have hne : t.status ≠ .generating := by
    rw [hs]
    rintro rfl
    cases hdel
  rw [hkeep t hne]
  exact ⟨hs, ha⟩

theorem DeletionInv.consumeBatches (hI : DeletionInv taskId status active db₀ db)
    (hdel : status.isDeleting = true) (now : DateTime) (g : ExternalSyncGeneration)
    (outputDatasetId : Option String) (sampleCount : Int) :
    DeletionInv taskId status active db₀ (consumeBatches now g outputDatasetId sampleCount db) := by
  have hmoved : DeletionInv taskId status active db₀ { db with
      generations := db.generations.update g.generationTaskId
        (fun g => { g with
          status := .completed
          outputDatasetId := outputDatasetId
          outputSampleCount := sampleCount
          completedAt := some now })
        fun _ => rfl
      batches := db.batches.updateWhere
        (fun b => b.taskId = g.taskId && b.batchId ∈ g.inputBatchIds)
        (fun b => { b with status := .generationDone })
        fun _ => rfl } :=
    ⟨hI.task, hI.batches.trans (.updateWhere (by intro _; exact ⟨rfl, id⟩)),
      hI.generations.trans (.update (by intro _; exact ⟨rfl, id⟩)), hI.trainings, hI.targets⟩
  have hcredited := (hmoved.creditFinalOutput g.taskId outputDatasetId sampleCount).creditQaOutput
    g.taskId g.qaDatasetId (max g.qaSampleCount 0)
  exact hcredited.leaveGenerating hdel ExternalSyncTask.leaveGenerating_taskId (by
    intro t ht
    simp [ExternalSyncTask.leaveGenerating, ht])

theorem DeletionInv.restoreBatches (hI : DeletionInv taskId status active db₀ db)
    (hdel : status.isDeleting = true) (now : DateTime) (g : ExternalSyncGeneration)
    (reason : String) : DeletionInv taskId status active db₀ (restoreBatches now g reason db) := by
  have hmoved : DeletionInv taskId status active db₀ { db with
      batches := db.batches.updateWhere
        (fun b => b.batchId ∈ g.inputBatchIds && b.taskId = g.taskId)
        (fun b => { b with status := .fetched, generationTaskId := none, datasetId := none })
        fun _ => rfl
      generations := db.generations.update g.generationTaskId
        (fun g => { g with status := .failed, completedAt := some now })
        fun _ => rfl } :=
    ⟨hI.task, hI.batches.trans (.updateWhere (by intro _; exact ⟨rfl, id⟩)),
      hI.generations.trans (.update (by intro _; exact ⟨rfl, id⟩)), hI.trainings, hI.targets⟩
  exact (hmoved.recountPending g.taskId).leaveGenerating hdel
      (ExternalSyncTask.failGenerating_taskId reason) (by
    intro t ht
    simp [ExternalSyncTask.failGenerating, ht])

theorem DeletionInv.toggle (hI : DeletionInv taskId status active db₀ db)
    (g : ExternalSyncGeneration) (disabled : Bool) :
    DeletionInv taskId status active db₀ (toggled g disabled db) := by
  simp only [toggled]
  have hflagged : DeletionInv taskId status active db₀ { db with
      generations := db.generations.update g.generationTaskId
        (fun g => { g with disabled := disabled })
        fun _ => rfl } :=
    ⟨hI.task, hI.batches,
      hI.generations.trans (.update (by intro _; exact ⟨rfl, id⟩)), hI.trainings, hI.targets⟩
  have hmoved : ∀ {db : Database}, DeletionInv taskId status active db₀ db →
      DeletionInv taskId status active db₀ (movedBatches g disabled db) := by
    intro db hI
    unfold movedBatches
    split
    · split
      · exact ⟨hI.task,
          hI.batches.trans (.updateWhere (by intro _; exact ⟨rfl, id⟩)), hI.generations,
          hI.trainings, hI.targets⟩
      · exact ⟨hI.task,
          hI.batches.trans (.updateWhere (by intro _; exact ⟨rfl, id⟩)), hI.generations,
          hI.trainings, hI.targets⟩
    · exact hI
  have hshift : ∀ {db : Database}, DeletionInv taskId status active db₀ db →
      DeletionInv taskId status active db₀ (shiftCounters g disabled db) := by
    intro db hI
    unfold shiftCounters
    simp only []
    split
    · exact ⟨hI.task, hI.batches, hI.generations, hI.trainings,
        hI.targets.trans (.updateWhere (by intro _; exact ⟨rfl, id⟩))⟩
    · split
      · exact ⟨deleting_update hI.task (by intro _; rfl) (by
        intro _ _ _ hs ha
        exact ⟨hs, ha⟩), hI.batches, hI.generations,
          hI.trainings, hI.targets⟩
      · exact hI
  have hcounted := hmoved hflagged
  split
  · apply hshift
    split
    · exact hcounted.recountPending g.taskId
    · exact hcounted
  · split
    · exact hcounted.recountPending g.taskId
    · exact hcounted

theorem DeletionInv.apply (hI : DeletionInv taskId status active db₀ db)
    (hdel : status.isDeleting = true) (op : Op) :
    DeletionInv taskId status active db₀ (op.apply env db) := by
  -- a status write that follows the table from the status it finds does not leave the deletion
  have hstatus : ∀ {taskId' : String} {task : ExternalSyncTask} {new : SyncStatus}
      (f : ExternalSyncTask → ExternalSyncTask) (hf : ∀ t, Keyed.key (f t) = Keyed.key t),
      db.tasks.lookup taskId' = some task →
      (task.status = new ∨ new ∈ taskStatusTransitions task.status) →
      (∀ t, (f t).status = new ∧ (f t).isActive = t.isActive) →
      DeletionInv taskId status active db₀ { db with tasks := db.tasks.update taskId' f hf } := by
    intro taskId' task new f hf htask hvalid hnew
    refine ⟨deleting_update hI.task hf ?_, hI.batches, hI.generations,
      hI.trainings, hI.targets⟩
    intro t ht hid hs ha
    subst hid
    cases htask.symm.trans ht
    have hsame := taskStatusTransitions_deleting (hs ▸ hdel) hvalid
    exact ⟨(hnew task).1.trans (hsame.trans hs), (hnew task).2.trans ha⟩
  have heffect := op.effect env db
  generalize op.apply env db = db' at heffect ⊢
  cases heffect with
  | stay => exact hI
  | create fileSha256 args task batches huuid htask hguard hstatus' hins =>
    have hne := hI.ne_of_guard hdel htask hguard
    exact ⟨hI.task, hI.batches.trans (.insert (fun hc => hne hc.symm) hins), hI.generations,
      hI.trainings, hI.targets⟩
  | promote =>
    exact ⟨deleting_update hI.task (by intro _; rfl) (by
      intro _ _ _ hs ha
      exact ⟨hs, ha⟩),
      hI.batches.trans (.update (by intro _; exact ⟨rfl, id⟩)), hI.generations, hI.trainings,
      hI.targets⟩
  | reset taskId' =>
    refine DeletionInv.recountPending ?_ taskId'
    exact ⟨hI.task, hI.batches.trans (.updateWhere (by intro _; exact ⟨rfl, id⟩)),
      hI.generations, hI.trainings, hI.targets⟩
  | reconcile | recalculate =>
    exact ⟨deleting_update hI.task (by intro _; rfl) (by
      intro _ _ _ hs ha
      exact ⟨hs, ha⟩), hI.batches, hI.generations, hI.trainings, hI.targets⟩
  | claim args task n generations htask hgen hne' hpending hfetched hins =>
    have hne := hI.ne_of_guard hdel htask (by rw [hgen]; rfl)
    unfold claimBatches
    refine DeletionInv.recountPending ?_ args.taskId
    exact ⟨hI.task, hI.batches.trans (.updateWhere (by intro _; exact ⟨rfl, id⟩)),
      hI.generations.trans (.insert (fun hc => hne hc.symm) hins), hI.trainings, hI.targets⟩
  | complete now g outputDatasetId => exact hI.consumeBatches hdel now g outputDatasetId _
  | fail now g reason reason' => exact hI.restoreBatches hdel now g reason'
  | toggle g disabled => exact hI.toggle g disabled
  | recordQa g qaDatasetId qaSampleCount =>
    have hrecorded : DeletionInv taskId status active db₀ { db with
        generations := db.generations.update g.generationTaskId
          (fun g => { g with
            qaDatasetId := qaDatasetId, qaSampleCount := max qaSampleCount 0 })
          fun _ => rfl } :=
      ⟨hI.task, hI.batches,
       hI.generations.trans (.update (by intro _; exact ⟨rfl, id⟩)), hI.trainings, hI.targets⟩
    simp only [recordQaOutput]
    split
    · exact hrecorded.creditTargets g.taskId "qa" _
    · exact hrecorded
  | claimForTask args task trainings htask hguard htruthy hins =>
    exact hI.claimForTask hdel htask hguard hins
  | claimForTarget args task target trainings htask hguard htruthy htarget hid hins =>
    exact hI.claimForTarget hdel htask hguard hins
  | consume now training => exact hI.consumeClaim hdel now training
  | restore now training reason => exact hI.restoreClaim hdel now training reason
  | writeTraining =>
    exact ⟨hI.task, hI.batches, hI.generations,
      hI.trainings.trans (.update (by intro _; exact ⟨rfl, id⟩)), hI.targets⟩
  | unload =>
    exact ⟨hI.task, hI.batches, hI.generations,
      hI.trainings.trans (.updateWhere (by intro _; exact ⟨rfl, id⟩)), hI.targets⟩
  | updateTask verdict args task final written htask hguard hfinal hwritten =>
    have hne : taskId ≠ task.taskId := by
      rw [show task.taskId = args.taskId from (Table.lookup_eq_some.mp htask).2]
      exact hI.ne_of_guard hdel htask hguard
    refine ⟨?_, hI.batches.trans writeTask_rowsFrom, ?_, ?_,
      hI.targets.trans (replaceTargets_rowsFrom hne hwritten)⟩
    · obtain ⟨t, ht, hs, ha⟩ := hI.task
      exact ⟨t, (writeTask_lookup_of_ne hne).trans ht, hs, ha⟩
    · rw [writeTask_generations]
      exact hI.generations
    · rw [writeTask_trainings]
      exact hI.trainings
  | compareAndSet expectedStatus new errorMessage task hmem hvalid =>
    refine hstatus _ (by intro _; rfl) (Table.lookup_of_mem hmem) hvalid ?_
    exact fun _ => ⟨rfl, rfl⟩
  | transition expectedStatus new errorMessage task hmem hvalid =>
    refine hstatus _ (by intro _; rfl) (Table.lookup_of_mem hmem) hvalid ?_
    exact fun _ => ⟨rfl, rfl⟩
  | beginDeletion cascade expectedUserId task hmem hguard =>
    have hne := hI.ne_of_guard hdel (Table.lookup_of_mem hmem) hguard
    exact ⟨deleting_update hI.task (by intro _; rfl) (by
      intro _ _ hid
      exact absurd hid hne), hI.batches, hI.generations, hI.trainings, hI.targets⟩
  | createTarget verdict args task targets htask hguard hins =>
    have hne := hI.ne_of_guard hdel htask hguard
    exact ⟨hI.task, hI.batches, hI.generations, hI.trainings,
      hI.targets.trans (.insert (fun hc => hne hc.symm) hins)⟩
  | migrate verdict args task targets htask hguard htargets =>
    have hne := hI.ne_of_guard hdel htask hguard
    refine ⟨deleting_update hI.task (by intro _; rfl) (by
      intro _ _ hid
      exact absurd hid hne), hI.batches, hI.generations, hI.trainings, hI.targets.trans ?_⟩
    rcases htargets with ⟨id, rfl⟩ | hins
    · exact .update (by intro _; exact ⟨rfl, fun h => h⟩)
    · exact .insert (fun hc => hne hc.symm) hins
  | updateTarget =>
    exact ⟨hI.task, hI.batches, hI.generations, hI.trainings,
      hI.targets.trans (.update (by intro _; exact ⟨rfl, id⟩))⟩

end Apply

/-- Deletion intent is absorbing: after every run of operations, a task that was under deletion has
the same status and activity, and owns no batch, generation, training or target that it did not own
before. -/
theorem deletion_absorbing (env : Env) (db : Database) (task : ExternalSyncTask)
    (htask : task ∈ db.tasks) (hdel : task.status.isDeleting = true) (ops : List Op) :
    let db' := db.run env ops
    (∃ task' ∈ db'.tasks, task'.taskId = task.taskId ∧ task'.status = task.status ∧
      task'.isActive = task.isActive) ∧
    (∀ b ∈ db'.batches, b.taskId = task.taskId →
      ∃ b₀ ∈ db.batches, b₀.batchId = b.batchId ∧ b₀.taskId = task.taskId) ∧
    (∀ g ∈ db'.generations, g.taskId = task.taskId →
      ∃ g₀ ∈ db.generations, g₀.generationTaskId = g.generationTaskId ∧
        g₀.taskId = task.taskId) ∧
    (∀ t ∈ db'.trainings, t.taskId = task.taskId →
      ∃ t₀ ∈ db.trainings, t₀.trainingTaskId = t.trainingTaskId ∧ t₀.taskId = task.taskId) ∧
    ∀ t ∈ db'.targets, t.taskId = task.taskId →
      ∃ t₀ ∈ db.targets, t₀.targetId = t.targetId ∧ t₀.taskId = task.taskId := by
  have h0 : DeletionInv task.taskId task.status task.isActive db db :=
    ⟨⟨task, Table.lookup_of_mem htask, rfl, rfl⟩, .refl _, .refl _, .refl _, .refl _⟩
  have hI : DeletionInv task.taskId task.status task.isActive db (db.run env ops) :=
    @Database.run_invariant env (DeletionInv task.taskId task.status task.isActive db)
      (fun _ => True) (fun db op hI _ => hI.apply hdel op) ops (fun _ _ => trivial) db h0
  obtain ⟨t, ht, hs, ha⟩ := hI.task
  obtain ⟨hmem, hid⟩ := Table.lookup_eq_some.mp ht
  exact ⟨⟨t, hmem, hid, hs, ha⟩, hI.batches, hI.generations, hI.trainings, hI.targets⟩

def deletingTask : ExternalSyncTask :=
  { generatingTask with status := .deleting, isActive := false }

theorem deletion_absorbing_first :
    (∃ task ∈ ((Database.ofTask deletingTask).run defaultEnv firstGeneration).tasks,
      task.taskId = "task" ∧ task.status = .deleting ∧ task.isActive = false) ∧
    ∀ g ∈ ((Database.ofTask deletingTask).run defaultEnv firstGeneration).generations,
      g.taskId ≠ "task" := by
  obtain ⟨htask, -, hgens, -, -⟩ := deletion_absorbing defaultEnv (Database.ofTask deletingTask)
    deletingTask (List.mem_singleton_self deletingTask) rfl firstGeneration
  refine ⟨htask, fun g hg htid => ?_⟩
  obtain ⟨g₀, hg₀, -, -⟩ := hgens g hg htid
  exact Table.not_mem_empty g₀ hg₀

end Sync
