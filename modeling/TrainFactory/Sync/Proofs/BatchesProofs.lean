import TrainFactory.Sync.Batches

/-!
# Proofs: the batch transactions

What each batch transaction can do to the database: it leaves the database as it was, or makes
exactly one kind of change, under the guards its code checks.
-/

namespace Sync

open Lib

/-! ## Recounting -/

@[simp] theorem recountPending_batches (db : Database) (taskId : String) :
    (recountPending db taskId).batches = db.batches := rfl

@[simp] theorem recountPending_generations (db : Database) (taskId : String) :
    (recountPending db taskId).generations = db.generations := rfl

@[simp] theorem recountPending_trainings (db : Database) (taskId : String) :
    (recountPending db taskId).trainings = db.trainings := rfl

@[simp] theorem recountPending_targets (db : Database) (taskId : String) :
    (recountPending db taskId).targets = db.targets := rfl

@[simp] theorem recountPending_uuids (db : Database) (taskId : String) :
    (recountPending db taskId).uuids = db.uuids := rfl

/-! ## Effects -/

section Effects

variable {db : Database}

theorem createBatch_commit (db : Database) (settings : Settings)
    (fileSha256 : String → Option String) (args : CreateBatch) :
    (createBatch settings fileSha256 args db).commit db = db ∨
    ∃ task batches, db.tasks.lookup args.taskId = some task ∧ task.status.isDeleting = false ∧
      args.initialStatus.isReclaimable = true ∧ db.batches.insert args.row = some batches ∧
      (createBatch settings fileSha256 args db).commit db =
        { db with batches := batches, uuids := args.uuid :: db.uuids } := by
  unfold createBatch
  cases htask : db.tasks.lookup args.taskId with
  | none => exact Or.inl rfl
  | some task =>
    simp only []
    split
    · exact Or.inl rfl
    · split
      · exact Or.inl rfl
      · rename_i hdel
        split
        · exact Or.inl rfl
        · split
          · exact Or.inl rfl
          · rename_i hstatus
            split
            · exact Or.inl rfl
            · cases hins : db.batches.insert args.row with
              | none => exact Or.inl rfl
              | some batches =>
                exact Or.inr ⟨task, batches, rfl, by simpa using hdel, by simpa using hstatus,
                  rfl, rfl⟩

/-- `promote_batch_to_fetched` moves one `REGISTERED` batch of the task and credits its records, or
changes nothing. -/
theorem promoteBatchToFetched_commit (db : Database) (taskId batchId userId : String) :
    (promoteBatchToFetched taskId batchId userId db).commit db = db ∨
    ∃ task batch, db.tasks.lookup taskId = some task ∧ db.batches.lookup batchId = some batch ∧
      batch.taskId = taskId ∧ batch.status = .registered ∧
      (promoteBatchToFetched taskId batchId userId db).commit db = { db with
        batches := db.batches.update batchId fun b => { b with status := .fetched }
        tasks := db.tasks.update taskId fun t => { t with
          pendingRecordCount := t.pendingRecordCount + max batch.recordCount 0
          totalRecordCount := t.totalRecordCount + max batch.recordCount 0 } } := by
  unfold promoteBatchToFetched
  split
  · rename_i task batch htask hbatch
    obtain ⟨htask, -⟩ := Option.filter_eq_some_iff.mp htask
    obtain ⟨hbatch, hown⟩ := Option.filter_eq_some_iff.mp hbatch
    split
    · exact Or.inl rfl
    · split
      · exact Or.inl rfl
      · rename_i hreg
        exact Or.inr ⟨task, batch, htask, hbatch, (by simpa using hown : _ ∧ _).1,
          not_not.mp hreg, rfl⟩
  · exact Or.inl rfl

theorem resetCompletedBatches_commit (db : Database) (settings : Settings) (taskId : String) :
    (resetCompletedBatches settings taskId db).commit db = db ∨
    ((db.tasks.lookup taskId).isSome ∧
      (resetCompletedBatches settings taskId db).commit db = recountPending { db with
        batches := db.batches.updateWhere
          (fun b => b.taskId = taskId && b.status = .generationDone)
          fun b => { b with status := .fetched, generationTaskId := none } } taskId) := by
  unfold resetCompletedBatches
  cases htask : db.tasks.lookup taskId with
  | none => exact Or.inl rfl
  | some task =>
    simp only []
    split
    · exact Or.inl rfl
    · split
      · exact Or.inl rfl
      · exact Or.inr ⟨rfl, rfl⟩

/-- `reconcile_pending_records` raises a pending counter that is below the fetched records, or
changes nothing. -/
theorem reconcilePendingRecords_commit (db : Database) (taskId : String) :
    (reconcilePendingRecords taskId db).commit db = db ∨
    ∃ task, db.tasks.lookup taskId = some task ∧
      task.pendingRecordCount < db.fetchedRecords taskId ∧
      (reconcilePendingRecords taskId db).commit db = { db with
        tasks := db.tasks.update taskId fun t => { t with
          pendingRecordCount := db.fetchedRecords taskId
          totalRecordCount := t.totalRecordCount +
            (db.fetchedRecords taskId - task.pendingRecordCount) } } := by
  unfold reconcilePendingRecords
  cases htask : db.tasks.lookup taskId with
  | none => exact Or.inl rfl
  | some task =>
    simp only []
    split
    · exact Or.inl rfl
    · rename_i hlt
      exact Or.inr ⟨task, rfl, by omega, rfl⟩

/-- `_invalidate_fetched_batches` deletes the unconsumed batches of the task and subtracts their
records; with nothing to delete both are no change. -/
theorem invalidateFetchedBatches_batches (taskId : String) (b : ExternalSyncBatch) :
    b ∈ (invalidateFetchedBatches taskId db).2.batches ↔
      b ∈ db.batches ∧ ¬ (b.taskId = taskId ∧ b.status.isReclaimable = true) := by
  unfold invalidateFetchedBatches
  simp only []
  split
  · rename_i hnone
    constructor
    · intro hb
      refine ⟨hb, fun hc => ?_⟩
      have : b ∈ ([] : List ExternalSyncBatch) := by
        rw [← hnone, Table.mem_select]
        exact ⟨hb, by simpa using hc⟩
      cases this
    · exact fun h => h.1
  · rw [Table.mem_deleteWhere]
    simp

theorem invalidateFetchedBatches_lookup_of_ne {taskId taskId' : String} (h : taskId' ≠ taskId) :
    (invalidateFetchedBatches taskId db).2.tasks.lookup taskId' = db.tasks.lookup taskId' := by
  unfold invalidateFetchedBatches
  simp only []
  split
  · rfl
  · rw [Table.lookup_update, if_neg h]

end Effects

end Sync
