import TrainFactory.Sync.Proofs.OperationsProofs

/-!
# Proofs: batch claims are exclusive and conserved

At most one generation of a task is pending, it owns exactly the queued batches of the task, it is
settled at most once, and no batch row is lost on the way.
-/

namespace Sync

open Lib

/-- The pending generations own the queued batches. -/
structure ClaimInv (db : Database) : Prop where
  /-- A task has at most one pending generation. -/
  onePending : ∀ g ∈ db.generations, ∀ g' ∈ db.generations, g.status = .pending →
    g'.status = .pending → g.taskId = g'.taskId → g = g'
  /-- A queued batch is an input of the pending generation that it names. -/
  queuedOwned : ∀ b ∈ db.batches, b.status = .generationQueued → ∃ g ∈ db.generations,
    g.status = .pending ∧ g.taskId = b.taskId ∧ b.batchId ∈ g.inputBatchIds ∧
      b.generationTaskId = some g.generationTaskId
  /-- Every input of a pending generation is a batch that is queued for it. -/
  inputsQueued : ∀ g ∈ db.generations, g.status = .pending → ∀ id ∈ g.inputBatchIds,
    ∃ b ∈ db.batches, b.batchId = id ∧ b.taskId = g.taskId ∧ b.userId = g.userId ∧
      b.status = .generationQueued ∧ b.generationTaskId = some g.generationTaskId

namespace ClaimInv

variable {env : Env} {db : Database}

theorem empty (hb : db.batches = Table.empty) (hg : db.generations = Table.empty) :
    ClaimInv db := by
  constructor
  · intro g hg'
    rw [hg] at hg'
    exact absurd hg' (Table.not_mem_empty g)
  · intro b hb'
    rw [hb] at hb'
    exact absurd hb' (Table.not_mem_empty b)
  · intro g hg'
    rw [hg] at hg'
    exact absurd hg' (Table.not_mem_empty g)

theorem queued_of_mem (hI : ClaimInv db) {g : ExternalSyncGeneration} {b : ExternalSyncBatch}
    (hg : g ∈ db.generations) (hp : g.status = .pending) (hb : b ∈ db.batches)
    (hin : b.batchId ∈ g.inputBatchIds) :
    b.taskId = g.taskId ∧ b.userId = g.userId ∧ b.status = .generationQueued ∧
      b.generationTaskId = some g.generationTaskId := by
  obtain ⟨b', hb', hid, h⟩ := hI.inputsQueued g hg hp b.batchId hin
  obtain rfl : b' = b := Table.eq_of_key hb' hb hid
  exact h

theorem owner_unique (hI : ClaimInv db) {g g' : ExternalSyncGeneration} {b : ExternalSyncBatch}
    (hg : g ∈ db.generations) (hg' : g' ∈ db.generations) (hp : g.status = .pending)
    (hp' : g'.status = .pending) (hb : b ∈ db.batches) (hin : b.batchId ∈ g.inputBatchIds)
    (hin' : b.batchId ∈ g'.inputBatchIds) : g = g' := by
  obtain ⟨-, -, -, h⟩ := hI.queued_of_mem hg hp hb hin
  obtain ⟨-, -, -, h'⟩ := hI.queued_of_mem hg' hp' hb hin'
  exact Table.eq_of_key hg hg' (Option.some.inj (h.symm.trans h'))

/-- Rows outside the queue may move freely: if every row stays or moves from one status outside
`GENERATION_QUEUED` to another, and generations keep what identifies them, the invariant stays. -/
theorem of_unqueued (hI : ClaimInv db) {db' : Database}
    (hbatches : ∀ b' ∈ db'.batches, b'.status = .generationQueued → b' ∈ db.batches)
    (hkept : ∀ b ∈ db.batches, b.status = .generationQueued → b ∈ db'.batches)
    (hgens : ∀ g' ∈ db'.generations, ∃ g ∈ db.generations, g.generationTaskId = g'.generationTaskId ∧
      g.taskId = g'.taskId ∧ g.userId = g'.userId ∧ g.inputBatchIds = g'.inputBatchIds ∧
      g.status = g'.status)
    (hgens' : ∀ g ∈ db.generations, ∃ g' ∈ db'.generations,
      g.generationTaskId = g'.generationTaskId ∧ g.taskId = g'.taskId ∧
      g.inputBatchIds = g'.inputBatchIds ∧ g.status = g'.status) : ClaimInv db' := by
  constructor
  · intro g₁ hg₁ g₂ hg₂ hp₁ hp₂ htid
    obtain ⟨g₁', hg₁', hid₁, ht₁, -, -, hs₁⟩ := hgens g₁ hg₁
    obtain ⟨g₂', hg₂', hid₂, ht₂, -, -, hs₂⟩ := hgens g₂ hg₂
    have heq := hI.onePending g₁' hg₁' g₂' hg₂' (hs₁.trans hp₁) (hs₂.trans hp₂)
      (ht₁.trans (htid.trans ht₂.symm))
    exact Table.eq_of_key hg₁ hg₂ (hid₁.symm.trans ((congrArg _ heq).trans hid₂))
  · intro b hb hs
    obtain ⟨g, hg, hp, htid, hin, hown⟩ := hI.queuedOwned b (hbatches b hb hs) hs
    obtain ⟨g', hg', hid, ht, hins, hst⟩ := hgens' g hg
    exact ⟨g', hg', hst ▸ hp, ht ▸ htid, hins ▸ hin, hid ▸ hown⟩
  · intro g hg hp id hid
    obtain ⟨g', hg', hid', ht, hu, hins, hst⟩ := hgens g hg
    obtain ⟨b, hb, hbid, htid, hu', hs, hown⟩ :=
      hI.inputsQueued g' hg' (hst.trans hp) id (hins ▸ hid)
    exact ⟨b, hkept b hb hs, hbid, htid.trans ht, hu'.trans hu, hs, hid' ▸ hown⟩

theorem congr (hI : ClaimInv db) {db' : Database} (hb : db'.batches = db.batches)
    (hg : db'.generations = db.generations) : ClaimInv db' := by
  constructor
  · rw [hg]; exact hI.onePending
  · rw [hb, hg]; exact hI.queuedOwned
  · rw [hb, hg]; exact hI.inputsQueued

theorem generations_update (hI : ClaimInv db) {db' : Database}
    {f : ExternalSyncGeneration → ExternalSyncGeneration} {hf : ∀ g, Keyed.key (f g) = Keyed.key g}
    {id : String} (hbatches : ∀ b' ∈ db'.batches, b'.status = .generationQueued → b' ∈ db.batches)
    (hkept : ∀ b ∈ db.batches, b.status = .generationQueued → b ∈ db'.batches)
    (hgens : db'.generations = db.generations.update id f hf)
    (hsame : ∀ g, (f g).taskId = g.taskId ∧ (f g).userId = g.userId ∧
      (f g).inputBatchIds = g.inputBatchIds ∧ (f g).status = g.status) : ClaimInv db' := by
  have hrow : ∀ g : ExternalSyncGeneration, ∀ g', g' = (if Keyed.key g = id then f g else g) →
      g.generationTaskId = g'.generationTaskId ∧ g.taskId = g'.taskId ∧ g.userId = g'.userId ∧
        g.inputBatchIds = g'.inputBatchIds ∧ g.status = g'.status := by
    rintro g g' rfl
    obtain ⟨h1, h2, h3, h4⟩ := hsame g
    have hkey := hf g
    simp only [key_generation] at hkey
    split <;> simp_all
  refine hI.of_unqueued hbatches hkept ?_ ?_
  · intro g' hg'
    rw [hgens] at hg'
    obtain ⟨g, hg, rfl⟩ := Table.mem_update.mp hg'
    exact ⟨g, hg, hrow g _ rfl⟩
  · intro g hg
    obtain ⟨h1, h2, -, h3, h4⟩ := hrow g _ rfl
    refine ⟨_, ?_, h1, h2, h3, h4⟩
    rw [hgens]
    exact Table.mem_update.mpr ⟨g, hg, rfl⟩

end ClaimInv

/-! ## One move -/

section Step

variable {db : Database} {creates : CreateBatch → Prop}

theorem unqueued_updateWhere {p : ExternalSyncBatch → Bool}
    {f : ExternalSyncBatch → ExternalSyncBatch} {hf : ∀ b, Keyed.key (f b) = Keyed.key b}
    (hp : ∀ b ∈ db.batches, p b = true → b.status ≠ .generationQueued)
    (hfs : ∀ b, (f b).status ≠ .generationQueued) :
    (∀ b' ∈ db.batches.updateWhere p f hf, b'.status = .generationQueued → b' ∈ db.batches) ∧
    ∀ b ∈ db.batches, b.status = .generationQueued → b ∈ db.batches.updateWhere p f hf := by
  constructor
  · intro b' hb' hs
    obtain ⟨b, hb, rfl⟩ := Table.mem_updateWhere.mp hb'
    by_cases hpb : p b = true
    · rw [if_pos hpb] at hs
      exact absurd hs (hfs b)
    · rw [if_neg hpb]
      exact hb
  · intro b hb hs
    refine Table.mem_updateWhere.mpr ⟨b, hb, ?_⟩
    rw [if_neg fun hc => hp b hb hc hs]

/-- A claim makes the new generation the one pending generation of its task, and queues exactly its
inputs for it. -/
theorem ClaimInv.claim (hI : ClaimInv db) {args : CreateGeneration} {n : Int}
    {generations : Table ExternalSyncGeneration}
    (hpending : ∀ g ∈ db.generations, g.taskId = args.taskId → g.status ≠ .pending)
    (hfetched : ∀ id ∈ args.inputBatchIds, ∃ b ∈ db.batches, b.batchId = id ∧
      b.taskId = args.taskId ∧ b.userId = args.userId ∧ b.status = .fetched ∧
      b.generationTaskId = none)
    (hins : db.generations.insert (args.row n) = some generations) {db' : Database}
    (hb' : db'.batches = (claimBatches args generations db).batches)
    (hg' : db'.generations = generations) : ClaimInv db' := by
  -- a row of the new table is a row of the old one, and is queued for the claim iff it is named
  have hrow : ∀ b' ∈ db'.batches, ∃ b ∈ db.batches,
      (b.batchId ∉ args.inputBatchIds ∧ b' = b) ∨
      (b.batchId ∈ args.inputBatchIds ∧ b.status = .fetched ∧ b' = { b with
        status := .generationQueued
        generationTaskId := some args.generationTaskId
        datasetId := args.datasetId }) := by
    intro b' hmem
    rw [hb', claimBatches_batches] at hmem
    obtain ⟨b, hb, rfl⟩ := Table.mem_updateWhere.mp hmem
    refine ⟨b, hb, ?_⟩
    by_cases hin : b.batchId ∈ args.inputBatchIds
    · obtain ⟨b₀, hb₀, hid, htid, hu, hs, -⟩ := hfetched b.batchId hin
      obtain rfl : b₀ = b := Table.eq_of_key hb₀ hb hid
      exact Or.inr ⟨hin, hs, by simp [htid, hu, hin]⟩
    · exact Or.inl ⟨hin, by simp [hin]⟩
  constructor
  · intro g₁ h₁ g₂ h₂ hp₁ hp₂ htid
    rw [hg'] at h₁ h₂
    rcases (Table.mem_insert hins).mp h₁ with h₁ | rfl <;>
      rcases (Table.mem_insert hins).mp h₂ with h₂ | rfl
    · exact hI.onePending g₁ h₁ g₂ h₂ hp₁ hp₂ htid
    · exact absurd hp₁ (hpending g₁ h₁ htid)
    · exact absurd hp₂ (hpending g₂ h₂ htid.symm)
    · rfl
  · intro b' hb hs
    obtain ⟨b, hb₁, ⟨-, rfl⟩ | ⟨hin, -, rfl⟩⟩ := hrow b' hb
    · obtain ⟨g, hg, h⟩ := hI.queuedOwned _ hb₁ hs
      exact ⟨g, by rw [hg']; exact (Table.mem_insert hins).mpr (Or.inl hg), h⟩
    · obtain ⟨b₀, hb₀, hid, htid, -⟩ := hfetched b.batchId hin
      obtain rfl : b₀ = b := Table.eq_of_key hb₀ hb₁ hid
      exact ⟨args.row n, by rw [hg']; exact (Table.mem_insert hins).mpr (Or.inr rfl), rfl,
        htid.symm, hin, rfl⟩
  · intro g hg hp id hid
    rw [hg'] at hg
    rcases (Table.mem_insert hins).mp hg with hg | rfl
    · obtain ⟨b, hb, rfl, h⟩ := hI.inputsQueued g hg hp id hid
      refine ⟨b, ?_, rfl, h⟩
      have hnot : b.batchId ∉ args.inputBatchIds := by
        intro hin
        obtain ⟨b₀, hb₀, hid₀, -, -, hs, -⟩ := hfetched b.batchId hin
        obtain rfl : b₀ = b := Table.eq_of_key hb₀ hb hid₀
        rw [hs] at h
        cases h.2.2.1
      rw [hb', claimBatches_batches]
      exact Table.mem_updateWhere.mpr ⟨b, hb, by simp [hnot]⟩
    · obtain ⟨b, hb, rfl, htid, hu, -⟩ := hfetched id hid
      refine ⟨{ b with status := .generationQueued
                       generationTaskId := some args.generationTaskId
                       datasetId := args.datasetId }, ?_, rfl, htid, hu, rfl, rfl⟩
      have hin : b.batchId ∈ args.inputBatchIds := hid
      rw [hb', claimBatches_batches]
      exact Table.mem_updateWhere.mpr ⟨b, hb, by simp [htid, hu, hin]⟩

theorem ClaimInv.settle (hI : ClaimInv db) {g : ExternalSyncGeneration}
    (hg : g ∈ db.generations) (hpending : g.status = .pending) {db' : Database}
    {p : ExternalSyncBatch → Bool} {f : ExternalSyncBatch → ExternalSyncBatch}
    {hf : ∀ b, Keyed.key (f b) = Keyed.key b}
    {fg : ExternalSyncGeneration → ExternalSyncGeneration}
    {hfg : ∀ g, Keyed.key (fg g) = Keyed.key g}
    (hp : ∀ b, p b = true ↔ b.taskId = g.taskId ∧ b.batchId ∈ g.inputBatchIds)
    (hfs : ∀ b, (f b).status ≠ .generationQueued) (hfgs : ∀ g, (fg g).status ≠ .pending)
    (hb' : db'.batches = db.batches.updateWhere p f hf)
    (hg' : db'.generations = db.generations.update g.generationTaskId fg hfg) : ClaimInv db' := by
  -- the pending generations afterwards are the others from before
  have hold : ∀ g' ∈ db'.generations, g'.status = .pending → g' ∈ db.generations ∧ g' ≠ g := by
    intro g' hmem hs
    rw [hg'] at hmem
    obtain ⟨g₀, hg₀, rfl⟩ := Table.mem_update.mp hmem
    by_cases hid : Keyed.key g₀ = g.generationTaskId
    · rw [if_pos hid] at hs
      exact absurd hs (hfgs g₀)
    · rw [if_neg hid]
      exact ⟨hg₀, fun hc => hid (by rw [hc]; rfl)⟩
  constructor
  · intro g₁ h₁ g₂ h₂ hp₁ hp₂ htid
    exact hI.onePending g₁ (hold g₁ h₁ hp₁).1 g₂ (hold g₂ h₂ hp₂).1 hp₁ hp₂ htid
  · intro b' hmem hs
    rw [hb'] at hmem
    obtain ⟨b, hb, rfl⟩ := Table.mem_updateWhere.mp hmem
    by_cases hpb : p b = true
    · rw [if_pos hpb] at hs
      exact absurd hs (hfs b)
    rw [if_neg hpb] at hs ⊢
    obtain ⟨g₀, hg₀, hp₀, htid, hin, hown⟩ := hI.queuedOwned b hb hs
    refine ⟨g₀, ?_, hp₀, htid, hin, hown⟩
    rw [hg']
    refine Table.mem_update.mpr ⟨g₀, hg₀, ?_⟩
    rw [if_neg]
    intro hc
    obtain rfl : g₀ = g := Table.eq_of_key hg₀ hg hc
    exact hpb ((hp b).mpr ⟨htid.symm, hin⟩)
  · intro g' hmem hs id hid
    obtain ⟨hg₀, hne⟩ := hold g' hmem hs
    obtain ⟨b, hb, rfl, h⟩ := hI.inputsQueued g' hg₀ hs id hid
    refine ⟨b, ?_, rfl, h⟩
    rw [hb']
    refine Table.mem_updateWhere.mpr ⟨b, hb, ?_⟩
    rw [if_neg]
    intro hc
    exact hne (hI.owner_unique hg₀ hg hs hpending hb hid ((hp b).mp hc).2)

/-- Every move keeps the invariant. -/
theorem ClaimInv.move (hI : ClaimInv db) {db' : Database}
    (hmove : BatchMove creates db db'.batches db'.generations db'.uuids) : ClaimInv db' := by
  generalize hb' : db'.batches = batches, hg' : db'.generations = generations,
    db'.uuids = uuids at hmove
  cases hmove with
  | stay => exact hI.congr hb' hg'
  | create args batches _ _ hstatus hins =>
    refine hI.of_unqueued ?_ ?_ ?_ ?_
    · intro b hb hs
      rw [hb'] at hb
      rcases (Table.mem_insert hins).mp hb with hb | rfl
      · exact hb
      · have hs : args.initialStatus = .generationQueued := hs
        simp [BatchStatus.isReclaimable, hs] at hstatus
    · intro b hb _
      rw [hb']
      exact (Table.mem_insert hins).mpr (Or.inl hb)
    · intro g hg
      exact ⟨g, hg' ▸ hg, rfl, rfl, rfl, rfl, rfl⟩
    · intro g hg
      exact ⟨g, hg'.symm ▸ hg, rfl, rfl, rfl, rfl⟩
  | promote batch hbatch hstatus =>
    obtain ⟨h1, h2⟩ := @unqueued_updateWhere db (fun b => Keyed.key b = batch.batchId)
      (fun b => { b with status := .fetched }) (fun _ => rfl) (by
        intro b hb hkey hs
        obtain rfl : b = batch := Table.eq_of_key hb hbatch (by simpa using hkey)
        rw [hstatus] at hs
        cases hs) (by simp)
    refine hI.of_unqueued (by rw [hb']; exact h1) (by rw [hb']; exact h2) ?_ ?_
    · intro g hg
      exact ⟨g, hg' ▸ hg, rfl, rfl, rfl, rfl, rfl⟩
    · intro g hg
      exact ⟨g, hg'.symm ▸ hg, rfl, rfl, rfl, rfl⟩
  | reset taskId =>
    obtain ⟨h1, h2⟩ := @unqueued_updateWhere db
      (fun b => b.taskId = taskId && b.status = .generationDone)
      (fun b => { b with status := .fetched, generationTaskId := none }) (fun _ => rfl) (by
        intro b _ hp hs
        simp [hs] at hp) (by simp)
    refine hI.of_unqueued (by rw [hb']; exact h1) (by rw [hb']; exact h2) ?_ ?_
    · intro g hg
      exact ⟨g, hg' ▸ hg, rfl, rfl, rfl, rfl, rfl⟩
    · intro g hg
      exact ⟨g, hg'.symm ▸ hg, rfl, rfl, rfl, rfl⟩
  | claim args n _ _ hpending hfetched hins => exact hI.claim hpending hfetched hins hb' hg'
  | complete now g outputDatasetId sampleCount hg hpending =>
    refine hI.settle hg hpending ?_ ?_ ?_
      (hb'.trans (consumeBatches_batches now g outputDatasetId sampleCount))
      (hg'.trans (consumeBatches_generations now g outputDatasetId sampleCount)) <;> simp
  | fail now g reason hg hpending =>
    refine hI.settle hg hpending ?_ ?_ ?_ (hb'.trans (restoreBatches_batches now g reason))
      (hg'.trans (restoreBatches_generations now g reason)) <;> simp [and_comm]
  | toggle g disabled hg =>
    have hmoved : (∀ b' ∈ (movedBatches g disabled db).batches, b'.status = .generationQueued →
        b' ∈ db.batches) ∧ ∀ b ∈ db.batches, b.status = .generationQueued →
        b ∈ (movedBatches g disabled db).batches := by
      unfold movedBatches
      split
      · split
        · dsimp only
          exact unqueued_updateWhere (by simp [isResettable]; grind) (by simp)
        · dsimp only
          exact unqueued_updateWhere (by simp [isRetakable]; grind) (by simp)
      · exact ⟨fun b hb _ => hb, fun b hb _ => hb⟩
    exact hI.generations_update (by rw [hb']; exact hmoved.1) (by rw [hb']; exact hmoved.2) hg'
      (by simp)
  | recordQa g qaDatasetId qaSampleCount hg =>
    exact hI.generations_update (by rw [hb']; exact fun b hb _ => hb)
      (by rw [hb']; exact fun b hb _ => hb) hg' (by simp)

/-- What identifies a batch row and never changes. -/
def SameBatch (b b' : ExternalSyncBatch) : Prop :=
  b'.batchId = b.batchId ∧ b'.taskId = b.taskId ∧ b'.userId = b.userId ∧
    b'.recordCount = b.recordCount ∧ b'.storagePath = b.storagePath ∧
    b'.sinceTime = b.sinceTime ∧ b'.untilTime = b.untilTime

theorem SameBatch.refl (b : ExternalSyncBatch) : SameBatch b b :=
  ⟨rfl, rfl, rfl, rfl, rfl, rfl, rfl⟩

theorem SameBatch.trans {b b' b'' : ExternalSyncBatch} (h : SameBatch b b')
    (h' : SameBatch b' b'') : SameBatch b b'' := by
  obtain ⟨h1, h2, h3, h4, h5, h6, h7⟩ := h
  obtain ⟨h1', h2', h3', h4', h5', h6', h7'⟩ := h'
  exact ⟨h1'.trans h1, h2'.trans h2, h3'.trans h3, h4'.trans h4, h5'.trans h5, h6'.trans h6,
    h7'.trans h7⟩

theorem sameBatch_updateWhere {t : Table ExternalSyncBatch} {p : ExternalSyncBatch → Bool}
    {f : ExternalSyncBatch → ExternalSyncBatch} {hf : ∀ b, Keyed.key (f b) = Keyed.key b}
    (hsame : ∀ b, SameBatch b (f b)) {b : ExternalSyncBatch} (hb : b ∈ t) :
    ∃ b' ∈ t.updateWhere p f hf, SameBatch b b' := by
  refine ⟨_, Table.mem_updateWhere.mpr ⟨b, hb, rfl⟩, ?_⟩
  split
  · exact hsame b
  · exact SameBatch.refl b

theorem BatchMove.keeps {batches : Table ExternalSyncBatch}
    {generations : Table ExternalSyncGeneration} {uuids : List String}
    (hmove : BatchMove creates db batches generations uuids) {b : ExternalSyncBatch}
    (hb : b ∈ db.batches) : ∃ b' ∈ batches, SameBatch b b' := by
  have hsame : ∀ b : ExternalSyncBatch, ∀ status generationTaskId datasetId, SameBatch b { b with
      status := status, generationTaskId := generationTaskId, datasetId := datasetId } :=
    fun b _ _ _ => ⟨rfl, rfl, rfl, rfl, rfl, rfl, rfl⟩
  cases hmove with
  | stay => exact ⟨b, hb, SameBatch.refl b⟩
  | create args batches _ _ _ hins =>
    exact ⟨b, (Table.mem_insert hins).mpr (Or.inl hb), SameBatch.refl b⟩
  | promote batch => exact sameBatch_updateWhere (fun b => hsame b _ _ _) hb
  | reset taskId => exact sameBatch_updateWhere (fun b => hsame b _ _ _) hb
  | claim args n generations =>
    rw [claimBatches_batches]
    exact sameBatch_updateWhere (fun b => hsame b _ _ _) hb
  | complete now g outputDatasetId sampleCount =>
    rw [consumeBatches_batches]
    exact sameBatch_updateWhere (fun b => hsame b _ _ _) hb
  | fail now g reason =>
    rw [restoreBatches_batches]
    exact sameBatch_updateWhere (fun b => hsame b _ _ _) hb
  | toggle g disabled =>
    unfold movedBatches
    split
    · split <;> dsimp only <;> exact sameBatch_updateWhere (fun b => hsame b _ _ _) hb
    · exact ⟨b, hb, SameBatch.refl b⟩
  | recordQa g => exact ⟨b, hb, SameBatch.refl b⟩

end Step

/-! ## Settling happens once -/

def Settled (generationTaskId : String) (db : Database) : Prop :=
  ∃ g ∈ db.generations, g.generationTaskId = generationTaskId ∧ g.status ≠ .pending

section Settle

variable {env : Env} {db : Database} {creates : CreateBatch → Prop}

theorem Settled.update {id id' : String}
    {f : ExternalSyncGeneration → ExternalSyncGeneration}
    {hf : ∀ g, Keyed.key (f g) = Keyed.key g} (h : Settled id db)
    (hstatus : ∀ g, g.status ≠ .pending → (f g).status ≠ .pending) :
    ∃ g ∈ db.generations.update id' f hf, g.generationTaskId = id ∧ g.status ≠ .pending := by
  obtain ⟨g, hg, rfl, hs⟩ := h
  refine ⟨_, Table.mem_update.mpr ⟨g, hg, rfl⟩, ?_⟩
  split
  · exact ⟨hf g, hstatus g hs⟩
  · exact ⟨rfl, hs⟩

theorem Settled.move {id : String} (h : Settled id db) {db' : Database}
    (hmove : BatchMove creates db db'.batches db'.generations db'.uuids) : Settled id db' := by
  unfold Settled
  generalize db'.batches = batches, db'.generations = generations, db'.uuids = uuids at hmove ⊢
  cases hmove with
  | claim args n _ _ _ _ hins =>
    obtain ⟨g, hg, h⟩ := h
    exact ⟨g, (Table.mem_insert hins).mpr (Or.inl hg), h⟩
  | complete now g outputDatasetId sampleCount =>
    rw [consumeBatches_generations]
    exact h.update (by simp)
  | fail now g reason =>
    rw [restoreBatches_generations]
    exact h.update (by simp)
  | toggle g disabled => exact h.update fun _ hs => hs
  | recordQa g => exact h.update fun _ hs => hs
  | _ => exact h

theorem settled_update {g : ExternalSyncGeneration} {db' : Database}
    {f : ExternalSyncGeneration → ExternalSyncGeneration}
    {hf : ∀ g, Keyed.key (f g) = Keyed.key g} (hg : g ∈ db.generations)
    (hgens : db'.generations = db.generations.update g.generationTaskId f hf)
    (hstatus : ∀ g, (f g).status ≠ .pending) : Settled g.generationTaskId db' := by
  refine ⟨f g, ?_, hf g, hstatus g⟩
  rw [hgens]
  exact Table.mem_update.mpr ⟨g, hg, by simp⟩

theorem settles_spec (op : Op) :
    ((op.settles db).map id).Nodup ∧
    ∀ gid ∈ op.settles db, ¬ Settled gid db ∧ Settled gid (op.apply env db) := by
  have hone : ∀ {gid : String} {g : ExternalSyncGeneration},
      db.generations.lookup gid = some g → g.status = .pending → ¬ Settled gid db := by
    rintro gid g hg hp ⟨g', hg', hid, hs⟩
    obtain ⟨hmem, hkey⟩ := Table.lookup_eq_some.mp hg
    obtain rfl : g = g' := Table.eq_of_key hmem hg' (hkey.trans hid.symm)
    exact hs hp
  cases op with
  | completeGenerationAndConsumeBatches now gid outputDatasetId outputSampleCount =>
    rcases completeGeneration_cases db now gid outputDatasetId outputSampleCount with
      ⟨r, h, hr⟩ | ⟨r, g, h, hr, hg, hp, -⟩
    · simp [Op.settles, h, hr]
    · have hmem := Table.lookup_eq_some.mp hg
      refine ⟨by simp [Op.settles, h, hr], ?_⟩
      intro gid' hgid
      obtain rfl : gid' = gid := by simpa [Op.settles, h, hr] using hgid
      refine ⟨hone hg hp, ?_⟩
      simp only [Op.apply, h, Outcome.commit_ok]
      obtain ⟨hmem, rfl⟩ := hmem
      exact settled_update hmem
        (consumeBatches_generations now g outputDatasetId (max outputSampleCount 0)) (by simp)
  | failGenerationAndRestoreBatches now gid reason =>
    rcases failGeneration_cases db now gid reason with ⟨r, h, hr⟩ | ⟨r, g, reason', h, hr, hg, hp, -⟩
    · simp [Op.settles, h, hr]
    · have hmem := Table.lookup_eq_some.mp hg
      refine ⟨by simp [Op.settles, h, hr], ?_⟩
      intro gid' hgid
      obtain rfl : gid' = gid := by simpa [Op.settles, h, hr] using hgid
      refine ⟨hone hg hp, ?_⟩
      simp only [Op.apply, h, Outcome.commit_ok]
      obtain ⟨hmem, rfl⟩ := hmem
      exact settled_update hmem (restoreBatches_generations now g reason') (by simp)
  | _ => simp [Op.settles]

theorem settles_nil {op : Op} (hop : op.isSettlement = true) (h : op.settles db = []) :
    op.apply env db = db := by
  cases op with
  | completeGenerationAndConsumeBatches now gid outputDatasetId outputSampleCount =>
    rcases completeGeneration_cases db now gid outputDatasetId outputSampleCount with
      ⟨r, hr, -⟩ | ⟨r, g, hr, hc, -⟩
    · simp only [Op.apply, hr, Outcome.commit_ok]
    · simp [Op.settles, hr, hc] at h
  | failGenerationAndRestoreBatches now gid reason =>
    rcases failGeneration_cases db now gid reason with ⟨r, hr, -⟩ | ⟨r, g, reason', hr, hc, -⟩
    · simp only [Op.apply, hr, Outcome.commit_ok]
    · simp [Op.settles, hr, hc] at h
  | _ => cases hop

end Settle

/-! ## Whole runs -/

section Runs

variable {env : Env}

def settlements (env : Env) (db : Database) (ops : List Op) : List String :=
  events (Op.apply env) Op.settles db ops

theorem ClaimInv.run {db : Database} (hI : ClaimInv db) {ops : List Op}
    (hops : ∀ op ∈ ops, op.resetsPosition = false) : ClaimInv (db.run env ops) :=
  Database.run_invariant (fun _ _ hI hop => hI.move (apply_batchMove hop)) hops hI

theorem settlements_nodup {db : Database} {ops : List Op}
    (hops : ∀ op ∈ ops, op.resetsPosition = false) : (settlements env db ops).Nodup := by
  have hrun := @events_nodup Database Op String String (Op.apply env) Op.settles
    (fun _ op => op.resetsPosition = false) (fun _ => True) id Settled
    (fun _ _ _ _ => trivial) (fun db op _ _ => settles_spec op)
    (fun db op gid _ hop h => h.move (apply_batchMove hop)) ops db trivial (Admits.of_forall hops)
  simpa [settlements] using hrun

theorem run_keeps_batches {db : Database} {ops : List Op}
    (hops : ∀ op ∈ ops, op.resetsPosition = false) {b : ExternalSyncBatch} (hb : b ∈ db.batches) :
    ∃ b' ∈ (db.run env ops).batches, SameBatch b b' := by
  refine @Database.run_invariant env (fun db' => ∃ b' ∈ db'.batches, SameBatch b b')
    (fun op => op.resetsPosition = false) ?_ ops hops db ⟨b, hb, SameBatch.refl b⟩
  rintro db op ⟨b', hb', hsame⟩ hop
  obtain ⟨b'', hb'', hsame'⟩ := BatchMove.keeps (@apply_batchMove env db op hop) hb'
  exact ⟨b'', hb'', hsame.trans hsame'⟩

/-- Batch claims are exclusive and conserved, along every run of operations that keep the cursor:
one pending generation a task, which owns exactly the queued batches, settled at most once (every
other call to complete or fail it changes nothing), and no batch row is lost. -/
theorem batch_claims_exclusive (db : Database) (hb : db.batches = Table.empty)
    (hg : db.generations = Table.empty) (ops : List Op)
    (hops : ∀ op ∈ ops, op.resetsPosition = false) :
    let db' := db.run env ops
    (∀ g ∈ db'.generations, ∀ g' ∈ db'.generations, g.status = .pending → g'.status = .pending →
      g.taskId = g'.taskId → g = g') ∧
    (∀ b ∈ db'.batches, b.status = .generationQueued ↔ ∃ g ∈ db'.generations,
      g.status = .pending ∧ g.taskId = b.taskId ∧ b.batchId ∈ g.inputBatchIds ∧
      b.generationTaskId = some g.generationTaskId) ∧
    (∀ g ∈ db'.generations, g.status = .pending → ∀ id ∈ g.inputBatchIds,
      ∃ b ∈ db'.batches, b.batchId = id ∧ b.taskId = g.taskId ∧ b.status = .generationQueued ∧
        b.generationTaskId = some g.generationTaskId) ∧
    (∀ b ∈ db'.batches, ∀ g ∈ db'.generations, ∀ g' ∈ db'.generations, g.status = .pending →
      g'.status = .pending → b.batchId ∈ g.inputBatchIds → b.batchId ∈ g'.inputBatchIds → g = g') ∧
    (settlements env db ops).Nodup ∧
    (∀ op : Op, op.isSettlement = true → op.settles db' = [] → op.apply env db' = db') ∧
    ∀ ops₁ ops₂, ops = ops₁ ++ ops₂ → ∀ b ∈ (db.run env ops₁).batches,
      ∃ b' ∈ db'.batches, SameBatch b b' := by
  have hI : ClaimInv (db.run env ops) := (ClaimInv.empty hb hg).run hops
  refine ⟨hI.onePending, ?_, ?_, ?_, settlements_nodup hops, fun op hop => settles_nil hop, ?_⟩
  · intro b hb
    constructor
    · exact hI.queuedOwned b hb
    · rintro ⟨g, hg, hp, -, hin, -⟩
      exact (hI.queued_of_mem hg hp hb hin).2.2.1
  · intro g hg hp id hid
    obtain ⟨b, hb, hbid, htid, -, hs, hown⟩ := hI.inputsQueued g hg hp id hid
    exact ⟨b, hb, hbid, htid, hs, hown⟩
  · intro b hb g hg g' hg' hp hp' hin hin'
    exact hI.owner_unique hg hg' hp hp' hb hin hin'
  · rintro ops₁ ops₂ rfl b hb
    rw [Database.run_append]
    exact run_keeps_batches (fun op hop => hops op (List.mem_append_right _ hop)) hb

/-- The batch of the first generation is consumed once: completing it again changes nothing. -/
theorem batch_claims_exclusive_first :
    (settlements defaultEnv (Database.ofTask generatingTask) firstGeneration).Nodup ∧
    ∀ op : Op, op.isSettlement = true →
      op.settles ((Database.ofTask generatingTask).run defaultEnv firstGeneration) = [] →
      op.apply defaultEnv ((Database.ofTask generatingTask).run defaultEnv firstGeneration) =
        (Database.ofTask generatingTask).run defaultEnv firstGeneration := by
  obtain ⟨-, -, -, -, honce, hstay, -⟩ := @batch_claims_exclusive defaultEnv
    (Database.ofTask generatingTask) rfl rfl firstGeneration (by decide)
  exact ⟨honce, hstay⟩

end Runs

end Sync
