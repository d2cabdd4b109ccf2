import TrainFactory.Sync.Generations
import TrainFactory.Sync.Proofs.BatchesProofs

/-!
# Proofs: the generation transactions

What each generation transaction can do: the guards under which it writes, and what it writes.
-/

namespace Sync

open Lib

variable {db : Database}

/-! ## Crediting touches counters only -/

section Credit

variable (taskId phase : String) (dataset : Option String) (count : Int)

@[simp] theorem creditTargets_batches :
    (creditTargets taskId phase count db).batches = db.batches :=
  rfl

@[simp] theorem creditTargets_generations :
    (creditTargets taskId phase count db).generations = db.generations := rfl

@[simp] theorem creditTargets_trainings :
    (creditTargets taskId phase count db).trainings = db.trainings := rfl

@[simp] theorem creditTargets_tasks : (creditTargets taskId phase count db).tasks = db.tasks := rfl

@[simp] theorem creditTargets_uuids : (creditTargets taskId phase count db).uuids = db.uuids := rfl

@[simp] theorem creditFinalOutput_batches :
    (creditFinalOutput taskId dataset count db).batches = db.batches := by
  unfold creditFinalOutput; split <;> [split <;> rfl; rfl]

@[simp] theorem creditFinalOutput_generations :
    (creditFinalOutput taskId dataset count db).generations = db.generations := by
  unfold creditFinalOutput; split <;> [split <;> rfl; rfl]

@[simp] theorem creditFinalOutput_trainings :
    (creditFinalOutput taskId dataset count db).trainings = db.trainings := by
  unfold creditFinalOutput; split <;> [split <;> rfl; rfl]

@[simp] theorem creditFinalOutput_uuids :
    (creditFinalOutput taskId dataset count db).uuids = db.uuids := by
  unfold creditFinalOutput; split <;> [split <;> rfl; rfl]

@[simp] theorem creditQaOutput_batches :
    (creditQaOutput taskId dataset count db).batches = db.batches := by
  unfold creditQaOutput; split <;> rfl

@[simp] theorem creditQaOutput_generations :
    (creditQaOutput taskId dataset count db).generations = db.generations := by
  unfold creditQaOutput; split <;> rfl

@[simp] theorem creditQaOutput_trainings :
    (creditQaOutput taskId dataset count db).trainings = db.trainings := by
  unfold creditQaOutput; split <;> rfl

@[simp] theorem creditQaOutput_tasks :
    (creditQaOutput taskId dataset count db).tasks = db.tasks := by
  unfold creditQaOutput; split <;> rfl

@[simp] theorem creditQaOutput_uuids :
    (creditQaOutput taskId dataset count db).uuids = db.uuids := by
  unfold creditQaOutput; split <;> rfl

theorem creditFinalOutput_targets :
    (creditFinalOutput taskId dataset count db).targets =
      if truthy dataset ∧ count > 0 then
        db.targets.updateWhere (·.isEligible taskId "final") (·.credit count)
      else db.targets := by
  unfold creditFinalOutput
  by_cases hc : truthy dataset ∧ count > 0
  · rw [if_pos hc, if_pos hc]
    by_cases ht : db.targetsOf taskId = []
    · have hnone : ∀ t ∈ db.targets, t.isEligible taskId "final" = false := by
        intro t htm
        have hid := Table.select_eq_nil.mp ht t htm
        simp only [decide_eq_false_iff_not] at hid
        simp [ExternalSyncTrainingTarget.isEligible, hid]
      rw [Table.updateWhere_eq_self hnone, if_neg (not_not.mpr ht)]
      rfl
    · rw [if_pos ht]
      rfl
  · rw [if_neg hc, if_neg hc]

theorem creditFinalOutput_tasks :
    (creditFinalOutput taskId dataset count db).tasks =
      if (truthy dataset ∧ count > 0) ∧ db.targetsOf taskId = [] then
        db.tasks.update taskId (·.credit count)
      else db.tasks := by
  unfold creditFinalOutput
  by_cases hc : truthy dataset ∧ count > 0
  · by_cases ht : db.targetsOf taskId = []
    · rw [if_pos hc, if_neg (not_not.mpr ht), if_pos ⟨hc, ht⟩]
      rfl
    · rw [if_pos hc, if_pos ht, if_neg fun h => ht h.2]
      rfl
  · rw [if_neg hc, if_neg fun h => hc h.1]

theorem creditQaOutput_targets :
    (creditQaOutput taskId dataset count db).targets =
      if truthy dataset ∧ count > 0 then
        db.targets.updateWhere (·.isEligible taskId "qa") (·.credit count)
      else db.targets := by
  unfold creditQaOutput
  split <;> rfl

end Credit

/-! ## Membership in the selections -/

theorem mem_inputBatches {g : ExternalSyncGeneration} {b : ExternalSyncBatch} :
    b ∈ inputBatches db g ↔ b ∈ db.batches ∧ b.taskId = g.taskId ∧ b.batchId ∈ g.inputBatchIds := by
  simp [inputBatches]

theorem mem_claimedBatches {args : CreateGeneration} {b : ExternalSyncBatch} :
    b ∈ claimedBatches db args ↔ b ∈ db.batches ∧ b.taskId = args.taskId ∧
      b.userId = args.userId ∧ b.batchId ∈ args.inputBatchIds := by
  simp [claimedBatches, and_assoc]

theorem foundAll_iff {batches : List ExternalSyncBatch} {batchIds : List String} :
    foundAll batches batchIds = true ↔ ∀ id ∈ batchIds, ∃ b ∈ batches, b.batchId = id := by
  simp [foundAll]

theorem ownsQueued_iff {g : ExternalSyncGeneration} {b : ExternalSyncBatch} :
    ownsQueued g b = true ↔ b.userId = g.userId ∧
      b.generationTaskId = some g.generationTaskId ∧ b.status = .generationQueued := by
  simp [ownsQueued, and_assoc]

/-! ## Claiming batches -/

theorem CreateGeneration.key_queued (args : CreateGeneration) (b : ExternalSyncBatch) :
    Keyed.key { b with status := .generationQueued, generationTaskId := some args.generationTaskId,
                       datasetId := args.datasetId } = Keyed.key b := rfl

def claimBatches (args : CreateGeneration) (generations : Table ExternalSyncGeneration)
    (db : Database) : Database :=
  recountPending { db with
    generations := generations
    batches := db.batches.updateWhere
      (fun b => b.taskId = args.taskId && b.userId = args.userId && b.batchId ∈ args.inputBatchIds)
      (fun b => { b with
        status := .generationQueued
        generationTaskId := some args.generationTaskId
        datasetId := args.datasetId }) args.key_queued } args.taskId

theorem claimBatches_batches (args : CreateGeneration)
    (generations : Table ExternalSyncGeneration) :
    (claimBatches args generations db).batches = db.batches.updateWhere
      (fun b => b.taskId = args.taskId && b.userId = args.userId && b.batchId ∈ args.inputBatchIds)
      fun b => { b with
        status := .generationQueued
        generationTaskId := some args.generationTaskId
        datasetId := args.datasetId } := rfl

/-- `create_generation_and_claim_batches` claims `FETCHED` batches that nobody owns for a task that
is `GENERATING` and has no pending generation, or changes nothing. -/
theorem createGenerationAndClaimBatches_commit (db : Database) (args : CreateGeneration) :
    (createGenerationAndClaimBatches args db).commit db = db ∨
    ∃ task n generations, db.tasks.lookup args.taskId = some task ∧ task.status = .generating ∧
      args.inputBatchIds ≠ [] ∧ args.inputBatchIds.Nodup ∧
      (∀ g ∈ db.generations, g.taskId = args.taskId → g.status ≠ .pending) ∧
      (∀ id ∈ args.inputBatchIds, ∃ b ∈ db.batches, b.batchId = id ∧ b.taskId = args.taskId ∧
        b.userId = args.userId ∧ b.status = .fetched ∧ b.generationTaskId = none) ∧
      db.generations.insert (args.row n) = some generations ∧
      (createGenerationAndClaimBatches args db).commit db = claimBatches args generations db := by
  unfold createGenerationAndClaimBatches
  split
  · exact Or.inl rfl
  rename_i hids
  obtain ⟨hne, hnd⟩ := not_or.mp hids
  cases htask : db.tasks.lookup args.taskId with
  | none => exact Or.inl rfl
  | some task =>
    simp only []
    split
    · exact Or.inl rfl
    rename_i hstatus
    split
    · exact Or.inl rfl
    rename_i hpending
    split
    · exact Or.inl rfl
    rename_i hbatches
    split
    · exact Or.inl rfl
    obtain ⟨-, hgen⟩ := not_or.mp hstatus
    obtain ⟨hfound, hany⟩ := not_or.mp hbatches
    cases hins : db.generations.insert (args.row
        ((claimedBatches db args).map fun b => max b.recordCount 0).sum) with
    | none => exact Or.inl rfl
    | some generations =>
      refine Or.inr ⟨task, _, generations, rfl, not_not.mp hgen, hne, not_not.mp hnd, ?_, ?_,
        hins, rfl⟩
      · intro g hg htid hp
        have hmem : g ∈ db.generations.select fun g => g.taskId = args.taskId && g.status = .pending :=
          Table.mem_select.mpr ⟨hg, by simp [htid, hp]⟩
        rw [not_not.mp hpending] at hmem
        cases hmem
      · intro id hid
        obtain ⟨b, hb, rfl⟩ := foundAll_iff.mp (not_not.mp hfound) id hid
        have hok : b.status = .fetched ∧ b.generationTaskId = none := by
          by_contra hc
          refine hany (List.any_eq_true.mpr ⟨b, hb, ?_⟩)
          by_cases hs : b.status = .fetched <;> simp_all
        obtain ⟨hb, h1, h2, -⟩ := mem_claimedBatches.mp hb
        exact ⟨b, hb, rfl, h1, h2, hok⟩

/-! ## Settling a generation -/

/-- `complete_generation_and_consume_batches` settles a pending generation that owns its queued input
batches, or reports `completed = false` and changes nothing. -/
theorem completeGeneration_cases (db : Database) (now : DateTime) (generationTaskId : String)
    (outputDatasetId : Option String) (outputSampleCount : Int) :
    (∃ r, completeGenerationAndConsumeBatches now generationTaskId outputDatasetId outputSampleCount
        db = .ok (r, db) ∧ r.completed = false) ∨
    ∃ r g, completeGenerationAndConsumeBatches now generationTaskId outputDatasetId
        outputSampleCount db =
          .ok (r, consumeBatches now g outputDatasetId (max outputSampleCount 0) db) ∧
      r.completed = true ∧ db.generations.lookup generationTaskId = some g ∧
      g.status = .pending ∧ g.inputBatchIds ≠ [] ∧
      (∀ id ∈ g.inputBatchIds, ∃ b ∈ db.batches, b.batchId = id ∧ b.taskId = g.taskId) ∧
      ∀ b ∈ db.batches, b.taskId = g.taskId → b.batchId ∈ g.inputBatchIds →
        ownsQueued g b = true := by
  unfold completeGenerationAndConsumeBatches
  cases hg : db.generations.lookup generationTaskId with
  | none => exact Or.inl ⟨_, rfl, rfl⟩
  | some g =>
    simp only []
    split
    · exact Or.inl ⟨_, rfl, rfl⟩
    rename_i hpending
    split
    · exact Or.inl ⟨_, rfl, rfl⟩
    rename_i hids
    split
    · exact Or.inl ⟨_, rfl, rfl⟩
    rename_i hbatches
    obtain ⟨hfound, hall⟩ := not_or.mp hbatches
    refine Or.inr ⟨_, g, rfl, rfl, rfl, not_not.mp hpending, (not_or.mp hids).1, ?_, ?_⟩
    · intro id hid
      obtain ⟨b, hb, rfl⟩ := foundAll_iff.mp (not_not.mp hfound) id hid
      obtain ⟨hb, htid, -⟩ := mem_inputBatches.mp hb
      exact ⟨b, hb, rfl, htid⟩
    · intro b hb htid hin
      exact List.all_eq_true.mp (not_not.mp hall) b (mem_inputBatches.mpr ⟨hb, htid, hin⟩)

/-- `fail_generation_and_restore_batches` settles a pending generation whose input batches nobody
else owns, or reports `recovered = false` and changes nothing. -/
theorem failGeneration_cases (db : Database) (now : DateTime) (generationTaskId reason : String) :
    (∃ r, failGenerationAndRestoreBatches now generationTaskId reason db = .ok (r, db) ∧
      r.recovered = false) ∨
    ∃ r g reason', failGenerationAndRestoreBatches now generationTaskId reason db =
        .ok (r, restoreBatches now g reason' db) ∧
      r.recovered = true ∧ db.generations.lookup generationTaskId = some g ∧
      g.status = .pending ∧ g.inputBatchIds ≠ [] ∧
      (∀ id ∈ g.inputBatchIds, ∃ b ∈ db.batches, b.batchId = id ∧ b.taskId = g.taskId) ∧
      ∀ b ∈ db.batches, b.taskId = g.taskId → b.batchId ∈ g.inputBatchIds →
        isRestorable g b = true := by
  unfold failGenerationAndRestoreBatches
  cases hg : db.generations.lookup generationTaskId with
  | none => exact Or.inl ⟨_, rfl, rfl⟩
  | some g =>
    simp only []
    split
    · exact Or.inl ⟨_, rfl, rfl⟩
    rename_i hids
    split
    · split <;> exact Or.inl ⟨_, rfl, rfl⟩
    split
    · exact Or.inl ⟨_, rfl, rfl⟩
    rename_i hpending
    split
    · exact Or.inl ⟨_, rfl, rfl⟩
    rename_i hbatches
    obtain ⟨hfound, hall⟩ := not_or.mp hbatches
    refine Or.inr ⟨_, g, _, rfl, rfl, rfl, not_not.mp hpending, (not_or.mp hids).1, ?_, ?_⟩
    · intro id hid
      obtain ⟨b, hb, rfl⟩ := foundAll_iff.mp (not_not.mp hfound) id hid
      obtain ⟨hb, htid, -⟩ := mem_inputBatches.mp hb
      exact ⟨b, hb, rfl, htid⟩
    · intro b hb htid hin
      exact List.all_eq_true.mp (not_not.mp hall) b (mem_inputBatches.mpr ⟨hb, htid, hin⟩)

section Settle

variable (now : DateTime) (g : ExternalSyncGeneration) (outputDatasetId : Option String)
  (sampleCount : Int) (reason : String)

theorem consumeBatches_batches : (consumeBatches now g outputDatasetId sampleCount db).batches =
    db.batches.updateWhere (fun b => b.taskId = g.taskId && b.batchId ∈ g.inputBatchIds)
      fun b => { b with status := .generationDone } := by
  simp [consumeBatches]

theorem consumeBatches_generations :
    (consumeBatches now g outputDatasetId sampleCount db).generations =
      db.generations.update g.generationTaskId fun g => { g with
        status := .completed
        outputDatasetId := outputDatasetId
        outputSampleCount := sampleCount
        completedAt := some now } := by
  simp [consumeBatches]

theorem consumeBatches_trainings :
    (consumeBatches now g outputDatasetId sampleCount db).trainings = db.trainings := by
  simp [consumeBatches]

theorem consumeBatches_uuids :
    (consumeBatches now g outputDatasetId sampleCount db).uuids = db.uuids := by
  simp [consumeBatches]

theorem consumeBatches_targets :
    (consumeBatches now g outputDatasetId sampleCount db).targets =
      (creditQaOutput g.taskId g.qaDatasetId (max g.qaSampleCount 0)
        (creditFinalOutput g.taskId outputDatasetId sampleCount db)).targets := by
  show (creditQaOutput _ _ _ (creditFinalOutput _ _ _ _)).targets = _
  rw [creditQaOutput_targets, creditQaOutput_targets, creditFinalOutput_targets,
    creditFinalOutput_targets]

theorem consumeBatches_tasks :
    (consumeBatches now g outputDatasetId sampleCount db).tasks =
      (creditFinalOutput g.taskId outputDatasetId sampleCount db).tasks.update g.taskId
        ExternalSyncTask.leaveGenerating ExternalSyncTask.leaveGenerating_taskId := by
  simp only [consumeBatches, creditQaOutput_tasks, creditFinalOutput_tasks]
  rfl

theorem restoreBatches_batches : (restoreBatches now g reason db).batches =
    db.batches.updateWhere (fun b => b.batchId ∈ g.inputBatchIds && b.taskId = g.taskId)
      fun b => { b with status := .fetched, generationTaskId := none, datasetId := none } := rfl

theorem restoreBatches_generations : (restoreBatches now g reason db).generations =
    db.generations.update g.generationTaskId fun g => { g with
      status := .failed
      completedAt := some now } := rfl

end Settle

/-! ## Toggling -/

theorem ExternalSyncGeneration.key_retaken (g : ExternalSyncGeneration) (b : ExternalSyncBatch) :
    Keyed.key { b with status := .generationDone, generationTaskId := some g.generationTaskId } =
      Keyed.key b := rfl

def movedBatches (g : ExternalSyncGeneration) (disabled : Bool) (db : Database) : Database :=
  if g.status = .completed then
    if disabled then
      { db with
        batches := db.batches.updateWhere (isResettable g)
          (fun b => { b with status := .fetched, generationTaskId := none }) key_refetched }
    else
      { db with
        batches := db.batches.updateWhere (isRetakable g)
          (fun b => { b with status := .generationDone,
                             generationTaskId := some g.generationTaskId }) g.key_retaken }
  else db

def toggledBatches (g : ExternalSyncGeneration) (disabled : Bool) (db : Database) :
    List ExternalSyncBatch :=
  if g.status = .completed then
    if disabled then db.batches.select (isResettable g) else db.batches.select (isRetakable g)
  else []

theorem moveToggledBatches_cases (db : Database) (settings : Settings) (g : ExternalSyncGeneration)
    (disabled : Bool) :
    (∃ e, moveToggledBatches settings g disabled db = .error e) ∨
    moveToggledBatches settings g disabled db =
      .ok (toggledBatches g disabled db, movedBatches g disabled db) := by
  unfold moveToggledBatches toggledBatches movedBatches
  by_cases hc : g.status = .completed
  · by_cases hids : g.inputBatchIds = []
    · have hreset : ∀ b ∈ db.batches, isResettable g b = false := by simp [isResettable, hids]
      have hretake : ∀ b ∈ db.batches, isRetakable g b = false := by simp [isRetakable, hids]
      right
      cases disabled
      · simp [hc, hids, Table.select_eq_nil.mpr hretake, Table.updateWhere_eq_self hretake]
      · simp [hc, hids, Table.select_eq_nil.mpr hreset, Table.updateWhere_eq_self hreset]
    · cases disabled
      · right; simp [hc, hids]
      · simp only [hc, hids, ne_eq, not_false_eq_true, and_self, ↓reduceIte]
        split
        · exact Or.inl ⟨_, rfl⟩
        · exact Or.inr rfl
  · right; simp [hc]

/-- `toggle_generation_disabled` flips the flag of one generation; if it is completed, its batches
move, the pending counter follows them, and the sample counters are shifted. -/
theorem toggleGenerationDisabled_commit (db : Database) (settings : Settings)
    (generationTaskId : String)
    (disabled : Bool) :
    (toggleGenerationDisabled settings generationTaskId disabled db).commit db = db ∨
    ∃ g, db.generations.lookup generationTaskId = some g ∧ g.disabled = !disabled ∧
      let flagged : Database := { db with
        generations := db.generations.update generationTaskId fun g =>
          { g with disabled := disabled } }
      let moved := movedBatches g disabled flagged
      let counted :=
        if toggledBatches g disabled db ≠ [] then recountPending moved g.taskId else moved
      (toggleGenerationDisabled settings generationTaskId disabled db).commit db =
        if g.status = .completed then shiftCounters g disabled counted else counted := by
  unfold toggleGenerationDisabled
  cases hg : db.generations.lookup generationTaskId with
  | none => exact Or.inl rfl
  | some g =>
    simp only []
    split
    · exact Or.inl rfl
    rename_i hne
    rcases moveToggledBatches_cases _ settings g disabled with ⟨e, he⟩ | hmove
    · rw [he]
      exact Or.inl rfl
    · rw [hmove]
      refine Or.inr ⟨g, rfl, ?_, rfl⟩
      cases hd : g.disabled <;> cases disabled <;> simp_all

/-! ## QA output and recalculation -/

theorem updateGenerationQaOutput_cases (db : Database) (generationTaskId : String)
    (qaDatasetId : Option String)
    (qaSampleCount : Int) :
    (∃ r, updateGenerationQaOutput generationTaskId qaDatasetId qaSampleCount db = .ok (r, db) ∧
      r.recorded = false) ∨
    ∃ r g, updateGenerationQaOutput generationTaskId qaDatasetId qaSampleCount db =
        .ok (r, recordQaOutput g qaDatasetId (max qaSampleCount 0) db) ∧
      r.recorded = true ∧ db.generations.lookup generationTaskId = some g ∧
      g.qaDatasetId = none ∧ g.status ≠ .failed := by
  unfold updateGenerationQaOutput
  cases hg : db.generations.lookup generationTaskId with
  | none => exact Or.inl ⟨_, rfl, rfl⟩
  | some g =>
    simp only []
    split
    · exact Or.inl ⟨_, rfl, rfl⟩
    rename_i hqa
    split
    · exact Or.inl ⟨_, rfl, rfl⟩
    rename_i hfailed
    exact Or.inr ⟨_, g, rfl, rfl, rfl, not_not.mp hqa, hfailed⟩

theorem recordQaOutput_generations (g : ExternalSyncGeneration) (qaDatasetId : Option String)
    (sampleCount : Int) : (recordQaOutput g qaDatasetId sampleCount db).generations =
      db.generations.update g.generationTaskId fun g =>
        { g with qaDatasetId := qaDatasetId, qaSampleCount := sampleCount } := by
  unfold recordQaOutput
  simp only []
  split <;> rfl

theorem recalculateSampleCounters_commit (db : Database) (taskId : String) :
    (recalculateSampleCounters taskId db).commit db = db ∨
    (recalculateSampleCounters taskId db).commit db = { db with
      tasks := db.tasks.update taskId fun t => { t with
        totalTrainingSamples := recalculatedTotal db taskId
        pendingTrainingSamples := recalculatedPending db taskId } } := by
  unfold recalculateSampleCounters
  cases db.tasks.lookup taskId with
  | none => exact Or.inl rfl
  | some task => exact Or.inr rfl

end Sync
