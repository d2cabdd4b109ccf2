import TrainFactory.Sync.Proofs.OperationsProofs

/-!
# Proofs: the sample total and its recomputation

For a task without training targets, `total_training_samples` is the sum that
`recalculate_sample_counters` would write, as long as no generation completes while it is disabled:
a completion credits its samples whatever the flag says, and the flag moves the total only when it
flips on a completed generation.
-/

namespace Sync

open Lib

/-! ## The samples that count -/

/-- The generation is completed and enabled, and has an output dataset. -/
def ExternalSyncGeneration.counts (taskId : String) (g : ExternalSyncGeneration) : Bool :=
  g.taskId = taskId && g.status = .completed && !g.disabled && truthy g.outputDatasetId

def countedCount (taskId : String) (g : ExternalSyncGeneration) : Int :=
  if g.counts taskId then g.outputSampleCount else 0

def Database.countedSamples (db : Database) (taskId : String) : Int :=
  db.generations.sumBy (countedCount taskId)

def Op.keepsTotals : Op → Prop
  | .recalculateSampleCounters _ => False
  | .createTrainingTarget .. => False
  | .migrateLegacyTrainingTarget .. => False
  | .updateTask _ args => args.trainingTargets = none
  | _ => True

def Op.completesEnabled (db : Database) : Op → Prop
  | .completeGenerationAndConsumeBatches _ generationTaskId _ _ =>
    ∀ g, db.generations.lookup generationTaskId = some g → g.status = .pending →
      g.disabled = false
  | _ => True

structure TotalInv (taskId : String) (db : Database) : Prop where
  noTargets : ∀ t ∈ db.targets, t.taskId ≠ taskId
  total : ∀ t ∈ db.tasks, t.taskId = taskId →
    t.totalTrainingSamples = db.countedSamples taskId
  /-- Completed generations have non-negative counts. -/
  nonneg : ∀ g ∈ db.generations, g.status = .completed → 0 ≤ g.outputSampleCount

section Steps

variable {db db' : Database} {taskId : String}

abbrev SameTotal (t t' : Table ExternalSyncTask) : Prop :=
  Table.SameColumn ExternalSyncTask.totalTrainingSamples t t'

abbrev SameOwner (t t' : Table ExternalSyncTrainingTarget) : Prop :=
  Table.SameColumn ExternalSyncTrainingTarget.taskId t t'

theorem TotalInv.targetsOf (hI : TotalInv taskId db) : db.targetsOf taskId = [] := by
  refine Table.select_eq_nil.mpr fun t ht => ?_
  simpa using hI.noTargets t ht

theorem TotalInv.of_same (hI : TotalInv taskId db) (htargets : SameOwner db.targets db'.targets)
    (htasks : SameTotal db.tasks db'.tasks)
    (hsum : db'.countedSamples taskId = db.countedSamples taskId)
    (hnonneg : ∀ g ∈ db'.generations, g.status = .completed → 0 ≤ g.outputSampleCount) :
    TotalInv taskId db' := by
  refine ⟨?_, ?_, hnonneg⟩
  · intro t ht
    obtain ⟨t₀, ht₀, -, howner⟩ := htargets t ht
    exact howner ▸ hI.noTargets t₀ ht₀
  · intro t ht hid
    obtain ⟨t₀, ht₀, hkey, htotal⟩ := htasks t ht
    have hkey : t₀.taskId = t.taskId := hkey
    rw [hsum, ← htotal]
    exact hI.total t₀ ht₀ (hkey.trans hid)

theorem TotalInv.of_stay (hI : TotalInv taskId db) (htargets : SameOwner db.targets db'.targets)
    (htasks : SameTotal db.tasks db'.tasks) (hgens : db'.generations = db.generations) :
    TotalInv taskId db' := by
  refine hI.of_same htargets htasks ?_ (by rw [hgens]; exact hI.nonneg)
  unfold Database.countedSamples
  rw [hgens]

theorem TotalInv.of_update (hI : TotalInv taskId db) {g : ExternalSyncGeneration}
    {f : ExternalSyncGeneration → ExternalSyncGeneration} {hf : ∀ g, Keyed.key (f g) = Keyed.key g}
    (hg : g ∈ db.generations)
    (hgens : db'.generations = db.generations.update g.generationTaskId f hf)
    (htargets : SameOwner db.targets db'.targets)
    (htasks : ∀ t ∈ db'.tasks, t.taskId = taskId → ∃ t₀ ∈ db.tasks, t₀.taskId = taskId ∧
      t.totalTrainingSamples =
        t₀.totalTrainingSamples + (countedCount taskId (f g) - countedCount taskId g))
    (hnonneg : (f g).status = .completed → 0 ≤ (f g).outputSampleCount) : TotalInv taskId db' := by
  refine ⟨?_, ?_, ?_⟩
  · intro t ht
    obtain ⟨t₀, ht₀, -, howner⟩ := htargets t ht
    exact howner ▸ hI.noTargets t₀ ht₀
  · intro t ht hid
    obtain ⟨t₀, ht₀, hid₀, htotal⟩ := htasks t ht hid
    have hsum := Table.sumBy_update hg f hf (countedCount taskId)
    rw [htotal, hI.total t₀ ht₀ hid₀, Database.countedSamples, Database.countedSamples, hgens]
    exact hsum.symm
  · intro g' hg'
    rw [hgens] at hg'
    obtain ⟨g₀, hg₀, rfl⟩ := Table.mem_update.mp hg'
    by_cases hid : Keyed.key g₀ = g.generationTaskId
    · obtain rfl : g₀ = g := Table.eq_of_key hg₀ hg hid
      rw [if_pos hid]
      exact hnonneg
    · rw [if_neg hid]
      exact hI.nonneg g₀ hg₀

theorem TotalInv.countedCount_nonneg (hI : TotalInv taskId db) {g : ExternalSyncGeneration}
    (hg : g ∈ db.generations) : 0 ≤ countedCount taskId g := by
  unfold countedCount
  split
  · rename_i hc
    refine hI.nonneg g hg ?_
    simp only [ExternalSyncGeneration.counts, Bool.and_eq_true, decide_eq_true_eq] at hc
    exact hc.1.1.2
  · exact le_refl 0

theorem countedCount_of_pending {g : ExternalSyncGeneration} (h : g.status ≠ .completed) :
    countedCount taskId g = 0 := by
  simp [countedCount, ExternalSyncGeneration.counts, h]

theorem consumeBatches_sameOwner (now : DateTime) (g : ExternalSyncGeneration)
    (outputDatasetId : Option String) (sampleCount : Int) :
    SameOwner db.targets (consumeBatches now g outputDatasetId sampleCount db).targets := by
  have hfinal : SameOwner db.targets
      (creditFinalOutput g.taskId outputDatasetId sampleCount db).targets := by
    rw [creditFinalOutput_targets]
    split
    · exact .updateWhere (by intro _; exact ⟨rfl, rfl⟩)
    · exact .refl _
  rw [consumeBatches_targets, creditQaOutput_targets]
  split
  · exact hfinal.trans (.updateWhere (by intro _; exact ⟨rfl, rfl⟩))
  · exact hfinal

theorem TotalInv.complete (hI : TotalInv taskId db) (now : DateTime) {g : ExternalSyncGeneration}
    (hg : g ∈ db.generations) (hpending : g.status = .pending) (henabled : g.disabled = false)
    (outputDatasetId : Option String) {sampleCount : Int} (hcount : 0 ≤ sampleCount) :
    TotalInv taskId (consumeBatches now g outputDatasetId sampleCount db) := by
  refine hI.of_update hg (consumeBatches_generations now g outputDatasetId sampleCount)
    (consumeBatches_sameOwner now g outputDatasetId sampleCount) ?_ fun _ => hcount
  intro t ht hid
  rw [consumeBatches_tasks] at ht
  obtain ⟨t₁, ht₁, rfl⟩ := Table.mem_update.mp ht
  have hleave : ∀ t : ExternalSyncTask, t.leaveGenerating.totalTrainingSamples =
      t.totalTrainingSamples := by
    intro t
    unfold ExternalSyncTask.leaveGenerating
    split <;> rfl
  have hid₁ : t₁.taskId = taskId := by
    split at hid
    · rwa [ExternalSyncTask.leaveGenerating_taskId] at hid
    · exact hid
  have htotal : (if Keyed.key t₁ = g.taskId then t₁.leaveGenerating else t₁).totalTrainingSamples =
      t₁.totalTrainingSamples := by
    split
    · exact hleave t₁
    · rfl
  rw [htotal]
  have hbefore : countedCount taskId g = 0 := countedCount_of_pending (by simp [hpending])
  have hafter : countedCount taskId { g with
      status := .completed
      outputDatasetId := outputDatasetId
      outputSampleCount := sampleCount
      completedAt := some now } =
      if g.taskId = taskId ∧ truthy outputDatasetId = true then sampleCount else 0 := by
    by_cases htid : g.taskId = taskId <;>
      simp [countedCount, ExternalSyncGeneration.counts, henabled, htid]
  rw [hbefore, hafter]
  rw [creditFinalOutput_tasks] at ht₁
  split at ht₁
  · rename_i hcredit
    obtain ⟨t₀, ht₀, rfl⟩ := Table.mem_update.mp ht₁
    refine ⟨t₀, ht₀, ?_⟩
    by_cases htid : Keyed.key t₀ = g.taskId
    · rw [if_pos htid] at hid₁ ⊢
      have hid₀ : t₀.taskId = taskId := hid₁
      have hgid : g.taskId = taskId := htid.symm.trans hid₀
      refine ⟨hid₀, ?_⟩
      rw [if_pos ⟨hgid, hcredit.1.1⟩, sub_zero]
      rfl
    · rw [if_neg htid] at hid₁ ⊢
      refine ⟨hid₁, ?_⟩
      rw [if_neg fun h => htid (hid₁.trans h.1.symm), sub_zero, add_zero]
  · rename_i hcredit
    refine ⟨t₁, ht₁, hid₁, ?_⟩
    by_cases hadd : g.taskId = taskId ∧ truthy outputDatasetId = true
    · have hzero : sampleCount = 0 := by
        by_contra hc
        refine hcredit ⟨⟨hadd.2, by omega⟩, ?_⟩
        rw [hadd.1]
        exact hI.targetsOf
      rw [if_pos hadd, hzero, sub_zero, add_zero]
    · rw [if_neg hadd, sub_zero, add_zero]

theorem TotalInv.fail (hI : TotalInv taskId db) (now : DateTime) {g : ExternalSyncGeneration}
    (hg : g ∈ db.generations) (hpending : g.status = .pending) (reason : String) :
    TotalInv taskId (restoreBatches now g reason db) := by
  have htasks : SameTotal db.tasks (restoreBatches now g reason db).tasks := by
    refine .trans (.update (by intro _; exact ⟨rfl, rfl⟩)) (.update fun t => ?_)
    refine ⟨ExternalSyncTask.failGenerating_taskId reason t, ?_⟩
    unfold ExternalSyncTask.failGenerating
    split <;> rfl
  refine hI.of_update hg (restoreBatches_generations now g reason) (.refl _) ?_ nofun
  intro t ht hid
  obtain ⟨t₀, ht₀, hkey, htotal⟩ := htasks t ht
  have hkey : t₀.taskId = t.taskId := hkey
  refine ⟨t₀, ht₀, hkey.trans hid, ?_⟩
  have hbefore : countedCount taskId g = 0 := countedCount_of_pending (by simp [hpending])
  rw [hbefore, countedCount_of_pending (by simp), htotal, sub_zero, add_zero]

/-- A toggle moves the total by the contribution that it adds or removes; the clamp at zero never
bites. -/
theorem TotalInv.toggle (hI : TotalInv taskId db) {g : ExternalSyncGeneration}
    (hg : g ∈ db.generations) {disabled : Bool} (hdisabled : g.disabled = !disabled)
    {db₁ : Database} (hgens : db₁.generations = db.generations.update g.generationTaskId fun g =>
      { g with disabled := disabled }) (htargets : db₁.targets = db.targets)
    (htasks : SameTotal db.tasks db₁.tasks) :
    TotalInv taskId (if g.status = .completed then shiftCounters g disabled db₁ else db₁) := by
  by_cases hc : g.status = .completed
  · rw [if_pos hc]
    have hcount : 0 ≤ g.outputSampleCount := hI.nonneg g hg hc
    have hfinal : g.finalCount = if truthy g.outputDatasetId then g.outputSampleCount else 0 := by
      unfold ExternalSyncGeneration.finalCount
      rw [max_eq_left hcount]
    have hbefore : countedCount taskId g =
        if g.taskId = taskId ∧ disabled = true then g.finalCount else 0 := by
      rw [hfinal]
      by_cases htid : g.taskId = taskId <;> cases disabled <;>
        simp [countedCount, ExternalSyncGeneration.counts, hc, hdisabled, htid]
    have hafter : countedCount taskId { g with disabled := disabled } =
        if g.taskId = taskId ∧ disabled = false then g.finalCount else 0 := by
      rw [hfinal]
      by_cases htid : g.taskId = taskId <;> cases disabled <;>
        simp [countedCount, ExternalSyncGeneration.counts, hc, htid]
    have hle : countedCount taskId g ≤ db.countedSamples taskId :=
      Table.le_sumBy hg fun g' hg' => hI.countedCount_nonneg hg'
    refine hI.of_update hg (hgens ▸ shiftCounters_generations g disabled) ?_ ?_ fun _ => hcount
    · unfold shiftCounters
      simp only []
      split
      · rw [← htargets]
        exact .updateWhere (by intro _; exact ⟨rfl, rfl⟩)
      · split
        · rw [← htargets]
          exact .refl _
        · rw [← htargets]
          exact .refl _
    · intro t ht hid
      have hdelta : countedCount taskId { g with disabled := disabled } - countedCount taskId g =
          if g.taskId = taskId then (if disabled then -1 else 1) * g.finalCount else 0 := by
        rw [hbefore, hafter]
        by_cases htid : g.taskId = taskId <;> cases disabled <;> simp [htid]
      rw [hdelta]
      rw [shiftCounters_tasks] at ht
      split at ht
      · obtain ⟨t₁, ht₁, rfl⟩ := Table.mem_update.mp ht
        obtain ⟨t₀, ht₀, hkey, htotal⟩ := htasks t₁ ht₁
        by_cases htid : Keyed.key t₁ = g.taskId
        · rw [if_pos htid] at hid ⊢
          have hid₁ : t₁.taskId = taskId := hid
          have hgid : g.taskId = taskId := htid.symm.trans hid₁
          have hid₀ : t₀.taskId = taskId := Eq.trans hkey hid₁
          refine ⟨t₀, ht₀, hid₀, ?_⟩
          rw [if_pos hgid]
          show max (t₁.totalTrainingSamples + _) 0 = _
          rw [← htotal]
          rw [hbefore, ← hI.total t₀ ht₀ hid₀] at hle
          have hnonneg : 0 ≤ t₀.totalTrainingSamples := by
            rw [hI.total t₀ ht₀ hid₀]
            exact Table.sumBy_nonneg fun g' hg' => hI.countedCount_nonneg hg'
          apply max_eq_left
          cases disabled
          · rw [if_neg (by simp), one_mul]
            omega
          · rw [if_pos ⟨hgid, rfl⟩] at hle
            rw [if_pos rfl]
            omega
        · rw [if_neg htid] at hid ⊢
          refine ⟨t₀, ht₀, Eq.trans hkey hid, ?_⟩
          rw [if_neg fun h => htid (Eq.trans hid h.symm), htotal, add_zero]
      · rename_i hskip
        obtain ⟨t₀, ht₀, hkey, htotal⟩ := htasks t ht
        refine ⟨t₀, ht₀, Eq.trans hkey hid, ?_⟩
        by_cases htid : g.taskId = taskId
        · have hzero : g.finalCount = 0 := by
            have hnonneg : 0 ≤ g.finalCount := by
              rw [hfinal]
              split <;> omega
            by_contra hne
            refine hskip ⟨?_, by omega⟩
            rw [htid, Database.targetsOf, htargets]
            exact hI.targetsOf
          rw [if_pos htid, hzero, mul_zero, htotal, add_zero]
        · rw [if_neg htid, htotal, add_zero]
  · rw [if_neg hc]
    refine hI.of_update hg hgens (htargets ▸ .refl _) ?_ fun hc' => absurd hc' hc
    intro t ht hid
    obtain ⟨t₀, ht₀, hkey, htotal⟩ := htasks t ht
    have hkey : t₀.taskId = t.taskId := hkey
    refine ⟨t₀, ht₀, hkey.trans hid, ?_⟩
    have hbefore : countedCount taskId g = 0 := countedCount_of_pending hc
    have hafter : countedCount taskId { g with disabled := disabled } = 0 :=
      countedCount_of_pending hc
    rw [hbefore, hafter, htotal, sub_zero, add_zero]

variable {env : Env}

theorem TotalInv.apply (hI : TotalInv taskId db) {op : Op} (hop : op.keepsTotals)
    (henabled : op.completesEnabled db) : TotalInv taskId (op.apply env db) := by
  have heffect := op.effect env db
  generalize op.apply env db = db' at heffect ⊢
  cases heffect with
  | stay => exact hI
  | create | writeTraining | unload => exact hI.of_stay (.refl _) (.refl _) rfl
  | claim args task n generations htask hgen hne hpending hfetched hins =>
    refine hI.of_same (.refl _) (.update (by intro _; exact ⟨rfl, rfl⟩)) ?_ ?_
    · have hnew : countedCount taskId (args.row n) = 0 :=
        countedCount_of_pending (by simp [CreateGeneration.row])
      show generations.sumBy _ = _
      rw [Table.sumBy_insert hins, hnew, add_zero]
      rfl
    · intro g hg hc
      rcases (Table.mem_insert hins).mp hg with hg | rfl
      · exact hI.nonneg g hg hc
      · cases hc
  | complete now g outputDatasetId outputSampleCount hg hpending howns =>
    exact hI.complete now hg hpending (henabled g (Table.lookup_of_mem hg) hpending)
      outputDatasetId (le_max_right _ _)
  | fail now g reason reason' hg hpending => exact hI.fail now hg hpending reason'
  | toggle g disabled hg hdisabled =>
    unfold toggled
    refine hI.toggle hg hdisabled ?_ ?_ ?_
    · split
      · exact movedBatches_generations g disabled
      · exact movedBatches_generations g disabled
    · split
      · exact movedBatches_targets g disabled _
      · exact movedBatches_targets g disabled _
    · have hmoved : SameTotal db.tasks (movedBatches g disabled { db with
          generations := db.generations.update g.generationTaskId fun g =>
            { g with disabled := disabled } }).tasks := by
        rw [movedBatches_tasks]
        exact .refl _
      split
      · exact hmoved.trans (.update (by intro _; exact ⟨rfl, rfl⟩))
      · exact hmoved
  | recordQa g qaDatasetId qaSampleCount hg hnone =>
    have hsame : countedCount taskId { g with
        qaDatasetId := qaDatasetId, qaSampleCount := max qaSampleCount 0 } =
        countedCount taskId g := rfl
    refine hI.of_update hg (recordQaOutput_generations g qaDatasetId _) ?_ ?_ (hI.nonneg g hg)
    · simp only [recordQaOutput]
      split
      · exact .updateWhere (by intro _; exact ⟨rfl, rfl⟩)
      · exact .refl _
    · intro t ht hid
      rw [hsame, sub_self]
      simp only [recordQaOutput] at ht
      refine ⟨t, ?_, hid, (add_zero _).symm⟩
      split at ht <;> exact ht
  | recalculate => exact hop.elim
  | claimForTask =>
    refine hI.of_stay (.refl _) (.trans (.update ?_) (.update ?_)) rfl <;>
      exact fun _ => ⟨rfl, rfl⟩
  | claimForTarget =>
    refine hI.of_stay (.update ?_) (.update ?_) rfl <;> exact fun _ => ⟨rfl, rfl⟩
  | consume now training hmem hopen =>
    simp only [consumeClaim]
    refine hI.of_stay ?_ ?_ rfl
    · dsimp only
      split
      · exact .updateWhere (by intro _; exact ⟨rfl, rfl⟩)
      · exact .refl _
    · dsimp only
      split
      · exact .refl _
      · exact .update (by intro _; exact ⟨rfl, rfl⟩)
  | restore now training reason hmem hopen hown =>
    refine hI.of_stay ?_ (.update (by intro _; exact ⟨rfl, rfl⟩)) rfl
    simp only [restoreClaim]
    split
    · exact .updateWhere (by intro _; exact ⟨rfl, rfl⟩)
    · exact .refl _
  | updateTask verdict args task final written htask hguard hfinal hwritten =>
    have hop : args.trainingTargets = none := hop
    rw [hop] at hfinal
    obtain rfl : none = final := Except.ok.inj hfinal
    refine hI.of_stay ?_ ?_ writeTask_generations
    · show SameOwner _ written
      rw [replaceTargets_none hwritten]
      exact .refl _
    · intro t ht
      obtain ⟨t₀, ht₀, ⟨-, rfl⟩ | ⟨-, n, rfl⟩⟩ := mem_writeTask_tasks ht
      · exact ⟨t, ht₀, rfl, rfl⟩
      · refine ⟨t₀, ht₀, (patchedTask_taskId _ _ _ _ t₀).symm, ?_⟩
        exact (patchedTask_totalTrainingSamples _ _ _ _ t₀).symm
  | createTarget | migrate => exact hop.elim
  | updateTarget => exact hI.of_stay (.update (by intro _; exact ⟨rfl, rfl⟩)) (.refl _) rfl
  | _ => exact hI.of_stay (.refl _) (.update (by intro _; exact ⟨rfl, rfl⟩)) rfl

end Steps

/-! ## Whole runs -/

section Runs

variable {env : Env} {db : Database} {taskId : String}

/-- If every generation that `recalculate_sample_counters` sums up has an output dataset, it sums up
what counts. -/
theorem TotalInv.recalculated (hI : TotalInv taskId db)
    (hdatasets : ∀ g ∈ db.generations, isRecounted taskId g = true →
      truthy g.outputDatasetId = true) : recalculatedTotal db taskId = db.countedSamples taskId := by
  refine Table.sumBy_congr fun g hg => ?_
  have hnn := hI.nonneg g hg
  unfold countedCount
  by_cases hrec : isRecounted taskId g = true
  · have hds := hdatasets g hg hrec
    have hcounts : g.counts taskId = true := by
      simp only [isRecounted, Bool.and_eq_true, Bool.not_eq_true', decide_eq_true_eq] at hrec
      simp [ExternalSyncGeneration.counts, hrec, hds]
    rw [if_pos hrec, if_pos hcounts]
  · rw [if_neg hrec]
    by_cases hcounts : g.counts taskId = true
    · rw [if_pos hcounts]
      simp only [ExternalSyncGeneration.counts, Bool.and_eq_true, Bool.not_eq_true',
        decide_eq_true_eq] at hcounts
      have hle : ¬ 0 < g.outputSampleCount := by
        intro hpos
        exact hrec (by simp [isRecounted, hcounts, hpos])
      have := hnn hcounts.1.1.2
      omega
    · rw [if_neg hcounts]

/-- Along every run in which no generation completes while it is disabled, the total of a task without
targets is the sum of the samples that count, and `recalculate_sample_counters` would write it again
unless a generation has samples without an output dataset. -/
theorem sample_totals_counted (env : Env) (db : Database) (taskId : String)
    (htargets : db.targetsOf taskId = []) (hgens : db.generations = Table.empty)
    (htotal : ∀ t ∈ db.tasks, t.taskId = taskId → t.totalTrainingSamples = 0) (ops : List Op)
    (hops : Admits (Op.apply env) (fun db op => op.keepsTotals ∧ op.completesEnabled db) db ops) :
    let db' := db.run env ops
    ∀ t ∈ db'.tasks, t.taskId = taskId →
      t.totalTrainingSamples = db'.countedSamples taskId ∧
      ((∀ g ∈ db'.generations, isRecounted taskId g = true → truthy g.outputDatasetId = true) →
        t.totalTrainingSamples = recalculatedTotal db' taskId) := by
  have h0 : TotalInv taskId db := by
    refine ⟨?_, ?_, ?_⟩
    · intro t ht
      simpa using Table.select_eq_nil.mp htargets t ht
    · intro t ht hid
      rw [htotal t ht hid, Database.countedSamples, hgens, Table.sumBy_empty]
    · rw [hgens]
      exact fun g hg => absurd hg (Table.not_mem_empty g)
  have hI : TotalInv taskId (db.run env ops) :=
    exec_invariant (fun _ _ hI hop => hI.apply hop.1 hop.2) h0 hops
  intro db' t ht hid
  refine ⟨hI.total t ht hid, fun hdatasets => ?_⟩
  rw [hI.total t ht hid, hI.recalculated hdatasets]

/-- The first generation counts its five samples. -/
theorem sample_totals_counted_first :
    (∀ t ∈ ((Database.ofTask generatingTask).run defaultEnv firstGeneration).tasks,
      t.taskId = "task" → t.totalTrainingSamples =
        ((Database.ofTask generatingTask).run defaultEnv firstGeneration).countedSamples "task") ∧
    ((Database.ofTask generatingTask).run defaultEnv firstGeneration).countedSamples "task" = 5 := by
  have hops : Admits (Op.apply defaultEnv)
      (fun db op => op.keepsTotals ∧ op.completesEnabled db) (Database.ofTask generatingTask)
      firstGeneration := by
    refine ⟨⟨trivial, trivial⟩, ⟨trivial, trivial⟩, ⟨trivial, trivial⟩, ⟨trivial, ?_⟩, trivial⟩
    intro g hg _
    cases hg
    rfl
  refine ⟨fun t ht hid => ?_, by decide⟩
  exact (sample_totals_counted defaultEnv (Database.ofTask generatingTask) "task" rfl rfl
    (by simp [Table.mem_def, Database.ofTask, generatingTask]) firstGeneration hops t ht hid).1

def disabledWhilePending : List Op :=
  firstGeneration.take 3 ++ .toggleGenerationDisabled "generation" true :: firstGeneration.drop 3

def completedWithoutDataset : List Op :=
  firstGeneration.take 3 ++
    [.completeGenerationAndConsumeBatches 3 "generation" none 5]

theorem not_total_eq {db : Database} {n m : Int}
    (htotals : db.tasks.rows.map ExternalSyncTask.totalTrainingSamples = [n]) (hne : n ≠ m) :
    ¬ ∀ t ∈ db.tasks, t.totalTrainingSamples = m := by
  intro h
  have hn : n ∈ db.tasks.rows.map ExternalSyncTask.totalTrainingSamples := by
    rw [htotals]
    exact List.mem_singleton_self n
  obtain ⟨t, ht, htotal⟩ := List.mem_map.mp hn
  exact hne (htotal.symm.trans (h t ht))

/-- A generation that is disabled while it is pending is credited all the same when it completes: the
total is five, and the samples that count are none. A generation that completes without an output
dataset is not credited: the total is zero, and its recomputation five. -/
theorem sample_totals_miscounted :
    (¬ ∀ t ∈ ((Database.ofTask generatingTask).run defaultEnv disabledWhilePending).tasks,
      t.totalTrainingSamples = ((Database.ofTask generatingTask).run defaultEnv
        disabledWhilePending).countedSamples "task") ∧
    ¬ ∀ t ∈ ((Database.ofTask generatingTask).run defaultEnv completedWithoutDataset).tasks,
      t.totalTrainingSamples = recalculatedTotal ((Database.ofTask generatingTask).run defaultEnv
        completedWithoutDataset) "task" := by
  constructor
  · exact @not_total_eq _ 5 _ (by decide) (by decide)
  · exact @not_total_eq _ 0 _ (by decide) (by decide)

end Runs

end Sync
