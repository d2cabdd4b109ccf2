import TrainFactory.Sync.Proofs.OperationsProofs

/-!
# Proofs: the pending-record counter

`pending_record_count` of every task equals the records of its `FETCHED` batches, whether an operation
moves the counter by a difference or recounts it. Two facts about batches make the differences
right: a batch that leaves the counter by a difference is one whose records were in it, and a
generation moves batches of its own task only.
-/

namespace Sync

open Lib

/-! ## The sum of the fetched records -/

section Sums

variable {db db' : Database} {taskId : String}

def fetchedCount (taskId : String) (b : ExternalSyncBatch) : Int :=
  if b.taskId = taskId ∧ b.status = .fetched then b.recordCount else 0

theorem fetchedRecords_eq (db : Database) (taskId : String) :
    db.fetchedRecords taskId = db.batches.sumBy (fetchedCount taskId) := rfl

theorem fetchedRecords_congr (h : db'.batches = db.batches) :
    db'.fetchedRecords taskId = db.fetchedRecords taskId := by
  rw [fetchedRecords_eq, fetchedRecords_eq, h]

theorem fetchedRecords_updateWhere {p : ExternalSyncBatch → Bool}
    {f : ExternalSyncBatch → ExternalSyncBatch} {hf : ∀ b, Keyed.key (f b) = Keyed.key b}
    (h : db'.batches = db.batches.updateWhere p f hf)
    (hsame : ∀ b ∈ db.batches, p b = true → fetchedCount taskId (f b) = fetchedCount taskId b) :
    db'.fetchedRecords taskId = db.fetchedRecords taskId := by
  rw [fetchedRecords_eq, h, Table.sumBy_updateWhere, fetchedRecords_eq]
  apply Table.sumBy_congr
  intro b hb
  by_cases hp : p b = true
  · rw [if_pos hp]
    exact hsame b hb hp
  · rw [if_neg hp]

theorem fetchedRecords_of_ne {p : ExternalSyncBatch → Bool}
    {f : ExternalSyncBatch → ExternalSyncBatch} (hf : ∀ b, Keyed.key (f b) = Keyed.key b)
    (h : db'.batches = db.batches.updateWhere p f hf) {taskId' : String}
    (hp : ∀ b ∈ db.batches, p b = true → b.taskId = taskId') (hft : ∀ b, (f b).taskId = b.taskId)
    (hne : taskId ≠ taskId') : db'.fetchedRecords taskId = db.fetchedRecords taskId := by
  refine fetchedRecords_updateWhere h fun b hb hpb => ?_
  have hb' := hp b hb hpb
  have h1 : ¬ (f b).taskId = taskId := by
    rw [hft b, hb']
    exact fun hc => hne hc.symm
  have h2 : ¬ b.taskId = taskId := by
    rw [hb']
    exact fun hc => hne hc.symm
  simp [fetchedCount, h1, h2]

end Sums

/-! ## The counters -/

def Counted (db : Database) : Prop :=
  ∀ t ∈ db.tasks, t.pendingRecordCount = db.fetchedRecords t.taskId

abbrev SamePending (t t' : Table ExternalSyncTask) : Prop :=
  Table.SameColumn ExternalSyncTask.pendingRecordCount t t'

section Counted

variable {db db' : Database}

theorem Counted.of_same (hC : Counted db) (htasks : SamePending db.tasks db'.tasks)
    (hsums : ∀ taskId, db'.fetchedRecords taskId = db.fetchedRecords taskId) : Counted db' := by
  intro t ht
  obtain ⟨t₀, ht₀, hkey, hp⟩ := htasks t ht
  have hid : t₀.taskId = t.taskId := hkey
  rw [hsums, ← hid, ← hC t₀ ht₀, hp]

theorem Counted.write (hC : Counted db) {taskId : String} {tasks : Table ExternalSyncTask}
    {f : ExternalSyncTask → ExternalSyncTask} (hf : ∀ t, Keyed.key (f t) = Keyed.key t)
    (hsame : SamePending db.tasks tasks) (htasks : db'.tasks = tasks.update taskId f hf)
    (hcount : ∀ t, t.taskId = taskId → t.pendingRecordCount = db.fetchedRecords taskId →
      (f t).pendingRecordCount = db'.fetchedRecords taskId)
    (hsums : ∀ taskId', taskId' ≠ taskId →
      db'.fetchedRecords taskId' = db.fetchedRecords taskId') : Counted db' := by
  intro t ht
  rw [htasks] at ht
  obtain ⟨t₁, ht₁, rfl⟩ := Table.mem_update.mp ht
  obtain ⟨t₀, ht₀, hkey, hp⟩ := hsame t₁ ht₁
  have hkey : t₀.taskId = t₁.taskId := hkey
  have hbefore : t₁.pendingRecordCount = db.fetchedRecords t₁.taskId := by
    rw [← hkey, ← hC t₀ ht₀, hp]
  by_cases hid : Keyed.key t₁ = taskId
  · rw [if_pos hid]
    have hft : (f t₁).taskId = t₁.taskId := hf t₁
    have hid : t₁.taskId = taskId := hid
    rw [hft, hid]
    rw [hid] at hbefore
    exact hcount t₁ hid hbefore
  · rw [if_neg hid, hsums t₁.taskId hid, hbefore]

theorem Counted.recount (hC : Counted db) {taskId : String}
    (hsame : SamePending db.tasks db'.tasks)
    (hsums : ∀ taskId', taskId' ≠ taskId →
      db'.fetchedRecords taskId' = db.fetchedRecords taskId') :
    Counted (recountPending db' taskId) :=
  hC.write (by intro _; rfl) hsame rfl (fun _ _ _ => rfl) hsums

end Counted

/-! ## The invariant -/

/-- What the counters rely on: the part of the invariant that speaks of batches and generations. -/
structure BatchInv (db : Database) : Prop where
  /-- Record counts are not negative. -/
  nonneg : ∀ b ∈ db.batches, 0 ≤ b.recordCount
  /-- Batches that wait for a generation are owned by none. -/
  unowned : ∀ b ∈ db.batches, b.status.isReclaimable = true → b.generationTaskId = none
  /-- The inputs of a generation are batches of its task. -/
  sameTask : ∀ g ∈ db.generations, ∀ b ∈ db.batches, b.batchId ∈ g.inputBatchIds →
    b.taskId = g.taskId
  /-- Batches carry ids that were handed out, and so do inputs, even those that are deleted. -/
  batchIds : ∀ b ∈ db.batches, b.batchId ∈ db.uuids
  inputIds : ∀ g ∈ db.generations, ∀ id ∈ g.inputBatchIds, id ∈ db.uuids

/-- The counters are right. -/
structure PendingInv (db : Database) : Prop extends BatchInv db where
  counted : Counted db

section BatchInv

variable {db db' : Database} {creates : CreateBatch → Prop}

theorem BatchInv.updateWhere (hI : BatchInv db) {p : ExternalSyncBatch → Bool}
    {f : ExternalSyncBatch → ExternalSyncBatch} {hf : ∀ b, Keyed.key (f b) = Keyed.key b}
    (hb : db'.batches = db.batches.updateWhere p f hf)
    (hg : ∀ g' ∈ db'.generations, ∃ g ∈ db.generations, g.taskId = g'.taskId ∧
      g.inputBatchIds = g'.inputBatchIds)
    (hu : db'.uuids = db.uuids)
    (hsame : ∀ b, (f b).taskId = b.taskId ∧ (f b).recordCount = b.recordCount)
    (hfree : ∀ b ∈ db.batches, p b = true → (f b).status.isReclaimable = true →
      (f b).generationTaskId = none) : BatchInv db' := by
  have hrow : ∀ b' ∈ db'.batches, ∃ b ∈ db.batches, b'.batchId = b.batchId ∧
      b'.taskId = b.taskId ∧ b'.recordCount = b.recordCount ∧
      (b'.status.isReclaimable = true → b'.generationTaskId = none) := by
    intro b' hb'
    rw [hb] at hb'
    obtain ⟨b, hmem, rfl⟩ := Table.mem_updateWhere.mp hb'
    refine ⟨b, hmem, ?_⟩
    by_cases hp : p b = true
    · rw [if_pos hp]
      exact ⟨hf b, (hsame b).1, (hsame b).2, hfree b hmem hp⟩
    · rw [if_neg hp]
      exact ⟨rfl, rfl, rfl, hI.unowned b hmem⟩
  constructor
  · intro b' hb'
    obtain ⟨b, hmem, -, -, hcount, -⟩ := hrow b' hb'
    rw [hcount]
    exact hI.nonneg b hmem
  · intro b' hb' hs
    obtain ⟨b, hmem, -, -, -, hown⟩ := hrow b' hb'
    exact hown hs
  · intro g' hg' b' hb' hin
    obtain ⟨b, hmem, hid, htid, -, -⟩ := hrow b' hb'
    obtain ⟨g, hg, hgtid, hins⟩ := hg g' hg'
    rw [htid, ← hgtid]
    exact hI.sameTask g hg b hmem (by rw [← hid, hins]; exact hin)
  · intro b' hb'
    obtain ⟨b, hmem, hid, -⟩ := hrow b' hb'
    rw [hid, hu]
    exact hI.batchIds b hmem
  · intro g' hg' id hid
    obtain ⟨g, hg, -, hins⟩ := hg g' hg'
    rw [hu]
    exact hI.inputIds g hg id (by rw [hins]; exact hid)

theorem sameInputs_update {k : String} {f : ExternalSyncGeneration → ExternalSyncGeneration}
    {hf : ∀ g, Keyed.key (f g) = Keyed.key g}
    (hsame : ∀ g, (f g).taskId = g.taskId ∧ (f g).inputBatchIds = g.inputBatchIds) :
    ∀ g' ∈ db.generations.update k f hf, ∃ g ∈ db.generations, g.taskId = g'.taskId ∧
      g.inputBatchIds = g'.inputBatchIds := by
  intro g' hg'
  obtain ⟨g, hg, rfl⟩ := Table.mem_update.mp hg'
  refine ⟨g, hg, ?_⟩
  split
  · exact ⟨(hsame g).1.symm, (hsame g).2.symm⟩
  · exact ⟨rfl, rfl⟩

theorem sameInputs_refl : ∀ g' ∈ db.generations, ∃ g ∈ db.generations, g.taskId = g'.taskId ∧
    g.inputBatchIds = g'.inputBatchIds := fun g hg => ⟨g, hg, rfl, rfl⟩

theorem BatchInv.congr (hI : BatchInv db) (hb : db'.batches = db.batches)
    (hg : db'.generations = db.generations) (hu : db'.uuids = db.uuids) : BatchInv db' := by
  constructor
  · rw [hb]; exact hI.nonneg
  · rw [hb]; exact hI.unowned
  · rw [hb, hg]; exact hI.sameTask
  · rw [hb, hu]; exact hI.batchIds
  · rw [hg, hu]; exact hI.inputIds

theorem BatchInv.create (hI : BatchInv db) {args : CreateBatch}
    (huuid : args.uuid ∉ db.uuids) (hcount : 0 ≤ args.recordCount)
    (hins : db.batches.insert args.row = some db'.batches)
    (hg : db'.generations = db.generations) (hu : db'.uuids = args.uuid :: db.uuids) :
    BatchInv db' := by
  constructor
  · intro b hb
    rcases (Table.mem_insert hins).mp hb with hb | rfl
    · exact hI.nonneg b hb
    · exact hcount
  · intro b hb hs
    rcases (Table.mem_insert hins).mp hb with hb | rfl
    · exact hI.unowned b hb hs
    · rfl
  · intro g hg' b hb hin
    rw [hg] at hg'
    rcases (Table.mem_insert hins).mp hb with hb | rfl
    · exact hI.sameTask g hg' b hb hin
    · exact absurd (hI.inputIds g hg' _ hin) huuid
  · intro b hb
    rw [hu]
    rcases (Table.mem_insert hins).mp hb with hb | rfl
    · exact List.mem_cons_of_mem _ (hI.batchIds b hb)
    · exact List.mem_cons_self ..
  · intro g hg' id hid
    rw [hg] at hg'
    rw [hu]
    exact List.mem_cons_of_mem _ (hI.inputIds g hg' id hid)

theorem BatchInv.claim (hI : BatchInv db) {args : CreateGeneration} {n : Int}
    {generations : Table ExternalSyncGeneration}
    (hfetched : ∀ id ∈ args.inputBatchIds, ∃ b ∈ db.batches, b.batchId = id ∧
      b.taskId = args.taskId ∧ b.userId = args.userId ∧ b.status = .fetched ∧
      b.generationTaskId = none)
    (hins : db.generations.insert (args.row n) = some generations)
    (hb : db'.batches = (claimBatches args generations db).batches)
    (hg : db'.generations = generations) (hu : db'.uuids = db.uuids) : BatchInv db' := by
  have hbatches : BatchInv { db' with generations := db.generations } :=
    hI.updateWhere (hb.trans (claimBatches_batches args generations)) sameInputs_refl hu
      (by simp) (by simp [BatchStatus.isReclaimable])
  have hnew : ∀ g ∈ db'.generations, g ∈ db.generations ∨ g = args.row n := by
    intro g hmem
    rw [hg] at hmem
    exact (Table.mem_insert hins).mp hmem
  refine ⟨hbatches.nonneg, hbatches.unowned, ?_, hbatches.batchIds, ?_⟩
  · intro g hmem b' hb' hin
    rcases hnew g hmem with hmem | rfl
    · exact hbatches.sameTask g hmem b' hb' hin
    · obtain ⟨b, hb₀, hid, htid, -⟩ := hfetched b'.batchId hin
      rw [hb, claimBatches_batches] at hb'
      have hkey : ∃ b₁ ∈ db.batches, b₁.batchId = b'.batchId ∧ b₁.taskId = b'.taskId := by
        obtain ⟨b₁, hb₁, rfl⟩ := Table.mem_updateWhere.mp hb'
        refine ⟨b₁, hb₁, ?_⟩
        split <;> exact ⟨rfl, rfl⟩
      obtain ⟨b₁, hb₁, hid₁, htid₁⟩ := hkey
      obtain rfl : b = b₁ := Table.eq_of_key hb₀ hb₁ (hid.trans hid₁.symm)
      exact htid₁.symm.trans htid
  · intro g hmem id hid
    rw [hu]
    rcases hnew g hmem with hmem | rfl
    · exact hI.inputIds g hmem id hid
    · obtain ⟨b, hb₀, rfl, -⟩ := hfetched id hid
      exact hI.batchIds b hb₀

theorem BatchInv.move (hI : BatchInv db) (hcreates : ∀ args, creates args → 0 ≤ args.recordCount)
    (hmove : BatchMove creates db db'.batches db'.generations db'.uuids) : BatchInv db' := by
  generalize hb' : db'.batches = batches, hg' : db'.generations = generations,
    hu' : db'.uuids = uuids at hmove
  have hsame : ∀ b : ExternalSyncBatch, ∀ status generationTaskId datasetId,
      ({ b with status := status, generationTaskId := generationTaskId,
                datasetId := datasetId } : ExternalSyncBatch).taskId = b.taskId ∧
      ({ b with status := status, generationTaskId := generationTaskId,
                datasetId := datasetId } : ExternalSyncBatch).recordCount = b.recordCount :=
    fun _ _ _ _ => ⟨rfl, rfl⟩
  cases hmove with
  | stay => exact hI.congr hb' hg' hu'
  | create args _ hargs huuid _ hins =>
    exact hI.create huuid (hcreates args hargs) (by rw [hb']; exact hins) hg' hu'
  | promote batch hbatch hstatus =>
    refine hI.updateWhere hb' (by rw [hg']; exact sameInputs_refl) hu' (fun b => hsame b _ _ _) ?_
    intro b hb hp _
    obtain rfl : b = batch := Table.eq_of_key hb hbatch (by simpa using hp)
    exact hI.unowned b hb (by rw [hstatus]; rfl)
  | reset taskId =>
    exact hI.updateWhere hb' (by rw [hg']; exact sameInputs_refl) hu' (fun b => hsame b _ _ _)
      fun _ _ _ _ => rfl
  | claim args n _ _ _ hfetched hins => exact hI.claim hfetched hins hb' hg' hu'
  | complete now g outputDatasetId sampleCount =>
    refine hI.updateWhere (hb'.trans (consumeBatches_batches now g outputDatasetId sampleCount)) ?_
      hu' (fun b => hsame b _ _ _) (by simp [BatchStatus.isReclaimable])
    rw [hg', consumeBatches_generations]
    exact sameInputs_update (by simp)
  | fail now g reason =>
    refine hI.updateWhere (hb'.trans (restoreBatches_batches now g reason)) ?_ hu'
      (fun b => hsame b _ _ _) fun _ _ _ _ => rfl
    rw [hg', restoreBatches_generations]
    exact sameInputs_update (by simp)
  | toggle g disabled =>
    have hgens : ∀ g' ∈ db'.generations, ∃ g ∈ db.generations, g.taskId = g'.taskId ∧
        g.inputBatchIds = g'.inputBatchIds := by
      rw [hg']
      exact sameInputs_update (by simp)
    unfold movedBatches at hb'
    split at hb'
    · split at hb' <;> dsimp only at hb'
      · exact hI.updateWhere hb' hgens hu' (fun b => hsame b _ _ _) fun _ _ _ _ => rfl
      · exact hI.updateWhere hb' hgens hu' (fun b => hsame b _ _ _)
          (by simp [BatchStatus.isReclaimable])
    · refine ⟨by rw [hb']; exact hI.nonneg, by rw [hb']; exact hI.unowned, ?_,
        by rw [hb', hu']; exact hI.batchIds, ?_⟩
      · intro g' hmem b hb hin
        obtain ⟨g₀, hg₀, htid, hins⟩ := hgens g' hmem
        rw [← htid]
        exact hI.sameTask g₀ hg₀ b (hb' ▸ hb) (by rw [hins]; exact hin)
      · intro g' hmem id hid
        obtain ⟨g₀, hg₀, -, hins⟩ := hgens g' hmem
        rw [hu']
        exact hI.inputIds g₀ hg₀ id (by rw [hins]; exact hid)
  | recordQa g qaDatasetId qaSampleCount =>
    have hstay : db'.batches = db.batches.updateWhere (fun _ => false) id := by
      rw [hb', Table.updateWhere_eq_self (by simp)]
    refine hI.updateWhere hstay ?_ hu' (by simp) (by simp)
    rw [hg']
    exact sameInputs_update (by simp)

end BatchInv

/-! ## The operations -/

section Operations

variable {db db' : Database}

theorem fetchedCount_of_ne {taskId : String} {b : ExternalSyncBatch} (h : b.status ≠ .fetched) :
    fetchedCount taskId b = 0 := by
  simp [fetchedCount, h]

theorem patchedTask_pendingRecordCount (legacyTrainingTargetId : String → String) (p : TaskPatch)
    (final : Option (List TargetValues)) (targets : List ExternalSyncTrainingTarget)
    (task : ExternalSyncTask) :
    (patchedTask legacyTrainingTargetId p final targets task).pendingRecordCount =
      task.pendingRecordCount := by
  unfold patchedTask
  split <;> rfl

theorem fetchedRecords_le (hI : BatchInv db) (taskId : String) :
    db.fetchedRecords taskId ≤ ((db.batches.select fun b =>
      b.taskId = taskId && b.status.isReclaimable).map ExternalSyncBatch.recordCount).sum := by
  have hle : ∀ rows : List ExternalSyncBatch, (∀ b ∈ rows, 0 ≤ b.recordCount) →
      (rows.map (fetchedCount taskId)).sum ≤
        ((rows.filter fun b => b.taskId = taskId && b.status.isReclaimable).map
          ExternalSyncBatch.recordCount).sum := by
    intro rows
    induction rows with
    | nil => simp
    | cons b rows ih =>
      intro hnn
      have ih := ih fun c hc => hnn c (List.mem_cons_of_mem _ hc)
      have hb := hnn b (List.mem_cons_self ..)
      by_cases hid : b.taskId = taskId
      · cases hs : b.status <;>
          simp [fetchedCount, hid, hs, BatchStatus.isReclaimable] at ih ⊢ <;> omega
      · simp [fetchedCount, hid] at ih ⊢
        omega
  exact hle db.batches.rows hI.nonneg

theorem BatchInv.invalidate (hI : BatchInv db) (taskId : String) :
    BatchInv (invalidateFetchedBatches taskId db).2 := by
  have hsub : ∀ b ∈ (invalidateFetchedBatches taskId db).2.batches, b ∈ db.batches := by
    intro b hb
    exact ((invalidateFetchedBatches_batches taskId b).mp hb).1
  have hgens : (invalidateFetchedBatches taskId db).2.generations = db.generations := by
    unfold invalidateFetchedBatches
    simp only []
    split <;> rfl
  have huuids : (invalidateFetchedBatches taskId db).2.uuids = db.uuids := by
    unfold invalidateFetchedBatches
    simp only []
    split <;> rfl
  constructor
  · exact fun b hb => hI.nonneg b (hsub b hb)
  · exact fun b hb => hI.unowned b (hsub b hb)
  · rw [hgens]
    exact fun g hg b hb => hI.sameTask g hg b (hsub b hb)
  · rw [huuids]
    exact fun b hb => hI.batchIds b (hsub b hb)
  · rw [hgens, huuids]
    exact hI.inputIds

theorem fetchedRecords_deleteWhere {taskId : String}
    (h : db'.batches = db.batches.deleteWhere fun b => b.taskId = taskId && b.status.isReclaimable)
    (taskId' : String) :
    db'.fetchedRecords taskId' = if taskId' = taskId then 0 else db.fetchedRecords taskId' := by
  rw [fetchedRecords_eq, h, Table.sumBy_deleteWhere]
  by_cases hid : taskId' = taskId
  · rw [if_pos hid]
    apply Table.sumBy_eq_zero
    intro b _
    by_cases hb : b.taskId = taskId <;> cases hs : b.status <;>
      simp [fetchedCount, hid, hb, hs, BatchStatus.isReclaimable]
  · rw [if_neg hid, fetchedRecords_eq]
    apply Table.sumBy_congr
    intro b _
    by_cases hb : b.taskId = taskId
    · have hne : b.taskId ≠ taskId' := fun hc => hid (hc.symm.trans hb)
      simp [fetchedCount, hne]
    · simp [hb]

/-- The clamp of a position reset is exact: at least the counted records are subtracted, and none is
left. -/
theorem Counted.invalidate (hC : Counted db) (hI : BatchInv db) (taskId : String) :
    Counted (invalidateFetchedBatches taskId db).2 := by
  have hle := fetchedRecords_le hI taskId
  unfold invalidateFetchedBatches
  simp only []
  split
  · exact hC
  refine hC.write (by intro _; rfl) (.refl _) rfl ?_ ?_
  · intro t _ ht
    rw [fetchedRecords_deleteWhere rfl, if_pos rfl]
    have hpending := ht.le.trans hle
    dsimp only [ExternalSyncTask.setPending]
    omega
  · intro taskId' hne
    rw [fetchedRecords_deleteWhere rfl, if_neg hne]

theorem PendingInv.writeTask (hI : PendingInv db) (legacyTrainingTargetId : String → String)
    (p : TaskPatch) (final : Option (List TargetValues)) (task : ExternalSyncTask)
    (targets : List ExternalSyncTrainingTarget) :
    PendingInv (Sync.writeTask legacyTrainingTargetId p final task targets db).2 := by
  have hpatched : PendingInv { db with
      tasks := (db.tasks.update task.taskId (patchedTask legacyTrainingTargetId p final targets)
        (patchedTask_taskId legacyTrainingTargetId p final targets)) } :=
    { toBatchInv := hI.toBatchInv.congr rfl rfl rfl
      counted := hI.counted.of_same
        (.update fun t => ⟨patchedTask_taskId legacyTrainingTargetId p final targets t,
          patchedTask_pendingRecordCount legacyTrainingTargetId p final targets t⟩)
        fun _ => fetchedRecords_congr rfl }
  unfold Sync.writeTask
  simp only []
  split
  · exact ⟨hpatched.toBatchInv.invalidate task.taskId,
      hpatched.counted.invalidate hpatched.toBatchInv task.taskId⟩
  · exact hpatched

theorem Counted.create (hC : Counted db) {args : CreateBatch}
    (hstatus : args.initialStatus = .registered)
    (hins : db.batches.insert args.row = some db'.batches) (htasks : db'.tasks = db.tasks) :
    Counted db' := by
  refine hC.of_same (htasks ▸ .refl _) fun taskId => ?_
  have hrow : fetchedCount taskId args.row = 0 := by
    apply fetchedCount_of_ne
    show args.initialStatus ≠ .fetched
    simp [hstatus]
  rw [fetchedRecords_eq, Table.sumBy_insert hins, hrow, add_zero, fetchedRecords_eq]

theorem fetchedRecords_promote {batch : ExternalSyncBatch} (hbatch : batch ∈ db.batches)
    (hstatus : batch.status = .registered)
    (h : db'.batches = db.batches.update batch.batchId fun b => { b with status := .fetched })
    (taskId : String) :
    db'.fetchedRecords taskId =
      db.fetchedRecords taskId + if taskId = batch.taskId then batch.recordCount else 0 := by
  have hbefore : fetchedCount taskId batch = 0 := fetchedCount_of_ne (by simp [hstatus])
  have hafter : fetchedCount taskId { batch with status := .fetched } =
      if taskId = batch.taskId then batch.recordCount else 0 := by
    by_cases hid : batch.taskId = taskId
    · simp [fetchedCount, hid]
    · simp [fetchedCount, hid, Ne.symm hid]
  rw [fetchedRecords_eq, h, ← key_batch, Table.sumBy_update hbatch, hbefore, hafter,
    fetchedRecords_eq, sub_zero]

theorem Counted.complete (hC : Counted db) (now : DateTime) (g : ExternalSyncGeneration)
    (outputDatasetId : Option String) (sampleCount : Int)
    (howns : ∀ b ∈ db.batches, b.taskId = g.taskId → b.batchId ∈ g.inputBatchIds →
      ownsQueued g b = true) :
    Counted (consumeBatches now g outputDatasetId sampleCount db) := by
  have hcredit : ∀ d : Database, SamePending d.tasks
      (creditFinalOutput g.taskId outputDatasetId sampleCount d).tasks := by
    intro d
    unfold creditFinalOutput
    split
    · split
      · exact .refl _
      · exact .update (by intro _; exact ⟨rfl, rfl⟩)
    · exact .refl _
  refine hC.of_same ?_ fun taskId => fetchedRecords_updateWhere
    (consumeBatches_batches now g outputDatasetId sampleCount) fun b hb hp => ?_
  · unfold consumeBatches
    refine .trans ?_ (.update fun t => ⟨ExternalSyncTask.leaveGenerating_taskId t, ?_⟩)
    · rw [creditQaOutput_tasks]
      exact hcredit _
    · unfold ExternalSyncTask.leaveGenerating
      split <;> rfl
  · obtain ⟨htid, hin⟩ : b.taskId = g.taskId ∧ b.batchId ∈ g.inputBatchIds := by simpa using hp
    have hq := (ownsQueued_iff.mp (howns b hb htid hin)).2.2
    rw [fetchedCount_of_ne (by simp), fetchedCount_of_ne (by simp [hq])]

theorem Counted.fail (hC : Counted db) (now : DateTime) (g : ExternalSyncGeneration)
    (reason : String) : Counted (restoreBatches now g reason db) := by
  have hrecount : Counted (recountPending { db with
      batches := db.batches.updateWhere
        (fun b => b.batchId ∈ g.inputBatchIds && b.taskId = g.taskId)
        fun b => { b with status := .fetched, generationTaskId := none, datasetId := none }
      generations := db.generations.update g.generationTaskId fun g => { g with
        status := .failed
        completedAt := some now } } g.taskId) := by
    refine hC.recount (.refl _) fun taskId hne => ?_
    exact fetchedRecords_of_ne (by intro _; rfl) rfl (fun b _ hp => by simp_all) (fun _ => rfl) hne
  refine hrecount.of_same ?_ fun taskId => fetchedRecords_congr rfl
  refine .update fun t => ⟨ExternalSyncTask.failGenerating_taskId reason t, ?_⟩
  unfold ExternalSyncTask.failGenerating
  split <;> rfl

theorem Counted.toggle (hI : PendingInv db) {g : ExternalSyncGeneration} (hg : g ∈ db.generations)
    (disabled : Bool) {db₁ : Database} (hbatches : db₁.batches = (movedBatches g disabled db).batches)
    (htasks : db₁.tasks = db.tasks) :
    Counted (if toggledBatches g disabled db ≠ [] then recountPending db₁ g.taskId else db₁) := by
  have hown : ∀ p : ExternalSyncBatch → Bool, (∀ b, p b = true → b.batchId ∈ g.inputBatchIds) →
      ∀ b ∈ db.batches, p b = true → b.taskId = g.taskId :=
    fun p hp b hb hpb => hI.sameTask g hg b hb (hp b hpb)
  by_cases hmoved : toggledBatches g disabled db = []
  · rw [if_neg (not_not.mpr hmoved)]
    have hstay : db₁.batches = db.batches := by
      rw [hbatches]
      unfold movedBatches
      unfold toggledBatches at hmoved
      by_cases hc : g.status = .completed
      · cases disabled
        · simp only [hc, ↓reduceIte, Bool.false_eq_true] at hmoved ⊢
          exact Table.updateWhere_eq_self (Table.select_eq_nil.mp hmoved)
        · simp only [hc, ↓reduceIte] at hmoved ⊢
          exact Table.updateWhere_eq_self (Table.select_eq_nil.mp hmoved)
      · simp [hc]
    exact hI.counted.of_same (htasks ▸ .refl _) fun _ => fetchedRecords_congr hstay
  · rw [if_pos hmoved]
    refine hI.counted.recount (htasks ▸ .refl _) fun taskId hne => ?_
    unfold movedBatches at hbatches
    split at hbatches
    · split at hbatches <;> dsimp only at hbatches
      · exact fetchedRecords_of_ne (by intro _; rfl) hbatches
          (hown _ fun b hb => by simp_all [isResettable])
          (fun _ => rfl) hne
      · exact fetchedRecords_of_ne (by intro _; rfl) hbatches
          (hown _ fun b hb => by simp_all [isRetakable])
          (fun _ => rfl) hne
    · exact fetchedRecords_congr hbatches

theorem shiftCounters_samePending (g : ExternalSyncGeneration) (disabled : Bool) :
    SamePending db.tasks (shiftCounters g disabled db).tasks := by
  unfold shiftCounters
  simp only []
  split
  · exact .refl _
  · split
    · exact .update (by intro _; exact ⟨rfl, rfl⟩)
    · exact .refl _

/-- The operation creates a batch, if any, as the sync cycle does: `REGISTERED`, so that its records
are credited by its promotion. -/
def Op.registers : Op → Prop
  | .createBatch _ args => args.initialStatus = .registered ∧ 0 ≤ args.recordCount
  | _ => True

/-- The counters of a run stay right through every operation that moves no batch: it must not write
them either. -/
theorem Counted.of_stay (hC : Counted db) (htasks : SamePending db.tasks db'.tasks)
    (hbatches : db'.batches = db.batches) : Counted db' :=
  hC.of_same htasks fun _ => fetchedRecords_congr hbatches

variable {env : Env}

/-- One operation keeps every counter right. -/
theorem PendingInv.apply (hI : PendingInv db) {op : Op} (hop : op.registers) :
    PendingInv (op.apply env db) := by
  have hcreates : ∀ args, op.creates args → 0 ≤ args.recordCount := by
    rintro args ⟨fileSha256, rfl⟩
    exact hop.2
  have hbatches : op.resetsPosition = false → BatchInv (op.apply env db) := fun h =>
    hI.toBatchInv.move hcreates (apply_batchMove h)
  have hC := hI.counted
  have heffect := op.effect env db
  generalize op.apply env db = db' at hbatches heffect ⊢
  cases heffect with
  | stay => exact hI
  | updateTask verdict args task final written htask hguard hfinal hwritten =>
    have hwrite := hI.writeTask env.legacyTrainingTargetId args.patch final task
      (db.targetsOf args.taskId)
    exact ⟨hwrite.toBatchInv.congr rfl rfl rfl, hwrite.counted.of_stay (.refl _) rfl⟩
  | create fileSha256 args task batches huuid htask hguard hstatus hins =>
    exact ⟨hbatches rfl, hC.create hop.1 hins rfl⟩
  | promote batch userId hmem hstatus =>
    refine ⟨hbatches rfl, hC.write (by intro _; rfl) (.refl _) rfl ?_ ?_⟩
    · intro t _ ht
      have hnn := hI.nonneg batch hmem
      rw [fetchedRecords_promote hmem hstatus rfl, if_pos rfl]
      dsimp only
      omega
    · intro taskId' hne
      rw [fetchedRecords_promote hmem hstatus rfl, if_neg hne, add_zero]
  | reset | claim =>
    refine ⟨hbatches rfl, hC.recount (.refl _) fun taskId' hne => ?_⟩
    exact fetchedRecords_of_ne (by intro _; rfl) rfl (fun b _ hp => by simp_all) (fun _ => rfl) hne
  | reconcile task hmem hlt => exact absurd hlt (by simp [hC task hmem])
  | complete now g outputDatasetId outputSampleCount hg hpending howns =>
    exact ⟨hbatches rfl, hC.complete now g outputDatasetId _ howns⟩
  | fail now g reason reason' hg hpending => exact ⟨hbatches rfl, hC.fail now g reason'⟩
  | toggle g disabled hg hdisabled =>
    have hcounted := Counted.toggle hI hg disabled
      (movedBatches_batches g disabled (db.generations.update g.generationTaskId fun g =>
        { g with disabled := disabled })) (movedBatches_tasks g disabled _)
    refine ⟨hbatches rfl, ?_⟩
    simp only [toggled]
    split
    · exact hcounted.of_stay (shiftCounters_samePending g disabled) (shiftCounters_batches g disabled)
    · exact hcounted
  | recordQa =>
    refine ⟨hbatches rfl, ?_⟩
    simp only [recordQaOutput]
    split <;> exact hC.of_stay (.refl _) rfl
  | claimForTask =>
    refine ⟨hbatches rfl, hC.of_stay (.trans (.update ?_) (.update ?_)) rfl⟩ <;>
      exact fun _ => ⟨rfl, rfl⟩
  | consume now training hmem hopen =>
    refine ⟨hbatches rfl, hC.of_stay ?_ rfl⟩
    simp only [consumeClaim]
    split
    · exact .refl _
    · exact .update (by intro _; exact ⟨rfl, rfl⟩)
  | writeTraining | unload | createTarget | updateTarget =>
    exact ⟨hbatches rfl, hC.of_stay (.refl _) rfl⟩
  | _ => exact ⟨hbatches rfl, hC.of_stay (.update (by intro _; exact ⟨rfl, rfl⟩)) rfl⟩

end Operations

/-! ## Whole runs -/

section Runs

variable {env : Env} {db : Database}

theorem PendingInv.fresh (hb : db.batches = Table.empty) (hg : db.generations = Table.empty)
    (hpending : ∀ t ∈ db.tasks, t.pendingRecordCount = 0) : PendingInv db := by
  have hnb : ∀ b, b ∉ db.batches := by
    rw [hb]
    exact Table.not_mem_empty
  have hng : ∀ g, g ∉ db.generations := by
    rw [hg]
    exact Table.not_mem_empty
  refine ⟨⟨?_, ?_, ?_, ?_, ?_⟩, ?_⟩
  · exact fun b h => absurd h (hnb b)
  · exact fun b h => absurd h (hnb b)
  · exact fun g h => absurd h (hng g)
  · exact fun b h => absurd h (hnb b)
  · exact fun g h => absurd h (hng g)
  · intro t ht
    rw [hpending t ht, fetchedRecords_eq, hb, Table.sumBy_empty]

theorem PendingInv.run (hI : PendingInv db) {ops : List Op} (hops : ∀ op ∈ ops, op.registers) :
    PendingInv (db.run env ops) :=
  Database.run_invariant (fun _ _ hI hop => hI.apply hop) hops hI

theorem BatchInv.sum_claimable (hI : BatchInv db) (taskId : String) :
    ((claimableBatches db taskId).map ExternalSyncBatch.recordCount).sum =
      db.fetchedRecords taskId := by
  have hsum : ∀ rows : List ExternalSyncBatch,
      (∀ b ∈ rows, b.status = .fetched → b.generationTaskId = none) →
      ((rows.filter fun b => b.taskId = taskId && b.status = .fetched &&
        b.generationTaskId = none).map ExternalSyncBatch.recordCount).sum =
      (rows.map (fetchedCount taskId)).sum := by
    intro rows
    induction rows with
    | nil => simp
    | cons b rows ih =>
      intro hown
      have ih := ih fun c hc => hown c (List.mem_cons_of_mem _ hc)
      have hb := hown b (List.mem_cons_self ..)
      by_cases hid : b.taskId = taskId <;> by_cases hs : b.status = .fetched <;>
        simp_all [fetchedCount]
  refine hsum db.batches.rows fun b hb hs => hI.unowned b hb ?_
  rw [hs]
  rfl

/-- Along every run from fresh tasks the counter of every task is the sum of its `FETCHED` records:
the Level-1 test fires only if that many records can be claimed, and there is nothing to reconcile. -/
theorem pending_records_counted (env : Env) (db : Database) (hb : db.batches = Table.empty)
    (hg : db.generations = Table.empty) (hpending : ∀ t ∈ db.tasks, t.pendingRecordCount = 0)
    (ops : List Op) (hops : ∀ op ∈ ops, op.registers) :
    let db' := db.run env ops
    (∀ t ∈ db'.tasks, t.pendingRecordCount = db'.fetchedRecords t.taskId) ∧
    (∀ t ∈ db'.tasks, levelOneReached t = true → t.generationThreshold ≤
      ((claimableBatches db' t.taskId).map ExternalSyncBatch.recordCount).sum) ∧
    ∀ taskId, reconcilePendingRecords taskId db' = .ok (0, db') := by
  have hI : PendingInv (db.run env ops) := (PendingInv.fresh hb hg hpending).run hops
  refine ⟨hI.counted, ?_, ?_⟩
  · intro t ht hlevel
    obtain ⟨-, hle⟩ : t.generationThreshold > 0 ∧ t.pendingRecordCount ≥ t.generationThreshold := by
      simpa [levelOneReached] using hlevel
    rw [hI.sum_claimable, ← hI.counted t ht]
    exact hle
  · intro taskId
    unfold reconcilePendingRecords
    cases htask : (db.run env ops).tasks.lookup taskId with
    | none => rfl
    | some task =>
      obtain ⟨hmem, rfl⟩ := Table.lookup_eq_some.mp htask
      have hcount := hI.counted task hmem
      simp only [key_task, hcount, le_refl, ↓reduceIte]

/-- The first generation leaves nothing pending. -/
theorem pending_records_counted_first :
    (∀ t ∈ ((Database.ofTask generatingTask).run defaultEnv firstGeneration).tasks,
      t.pendingRecordCount = ((Database.ofTask generatingTask).run defaultEnv
        firstGeneration).fetchedRecords t.taskId) ∧
    ((Database.ofTask generatingTask).run defaultEnv firstGeneration).fetchedRecords "task" = 0 := by
  have hops : ∀ op ∈ firstGeneration, op.registers := by
    simp [firstGeneration, Op.registers]
  exact ⟨(pending_records_counted defaultEnv (Database.ofTask generatingTask) rfl rfl
    (by simp [Table.mem_def, Database.ofTask, generatingTask]) firstGeneration hops).1, by decide⟩

end Runs

end Sync
