import TrainFactory.Sync.SampleLedger
import TrainFactory.Sync.Proofs.OperationsProofs

/-!
# Proofs: samples are conserved

Every sample that a beneficiary was ever credited is pending, held by an unreconciled training, or
consumed by a completed one. A step moves the three by amounts that cancel; the ledger has no entry
twice because an output is credited by the step that settles it, and a claim is reconciled once
because a reconciled training stays reconciled.
-/

namespace Sync

open Lib

/-! ## The ledger -/

section Ledger

variable {db : Database} {generationTaskId : String} {kind : OutputKind}
  {taskId phase : String} {count : Int}

@[simp] theorem creditedTo_nil (b : Beneficiary) : creditedTo [] b = 0 := rfl

theorem creditedTo_append (ledger ledger' : List Credit) (b : Beneficiary) :
    creditedTo (ledger ++ ledger') b = creditedTo ledger b + creditedTo ledger' b := by
  simp [creditedTo]

theorem creditedTo_targetCredits_task (taskId' : String) :
    creditedTo (targetCredits db generationTaskId kind taskId phase count) (.task taskId') = 0 := by
  have hnone : (targetCredits db generationTaskId kind taskId phase count).filter
      (fun c => c.beneficiary = .task taskId') = [] := by
    rw [List.filter_eq_nil_iff]
    intro c hc
    obtain ⟨t, -, rfl⟩ := List.mem_map.mp hc
    simp
  rw [creditedTo, hnone]
  rfl

theorem creditedTo_targetCredits {t : ExternalSyncTrainingTarget} (ht : t ∈ db.targets) :
    creditedTo (targetCredits db generationTaskId kind taskId phase count) (.target t.targetId) =
      if t.isEligible taskId phase then count else 0 := by
  have hsum : ∀ rows : List ExternalSyncTrainingTarget,
      creditedTo ((rows.filter (·.isEligible taskId phase)).map fun t' =>
        { generationTaskId := generationTaskId, kind := kind
          beneficiary := .target t'.targetId, amount := count }) (.target t.targetId) =
      (rows.map fun t' => if Keyed.key t' = Keyed.key t then
        (if t'.isEligible taskId phase then count else 0) else 0).sum := by
    intro rows
    induction rows with
    | nil => rfl
    | cons t' rows ih =>
      by_cases he : t'.isEligible taskId phase = true <;> by_cases hid : t'.targetId = t.targetId <;>
        simp_all [creditedTo]
  rw [targetCredits, Table.select, hsum]
  exact Table.sumBy_single ht fun t' => if t'.isEligible taskId phase then count else 0

theorem targetCredits_creditTargets (phase' : String) (count' : Int) :
    targetCredits (creditTargets taskId phase' count' db) generationTaskId kind taskId phase count =
      targetCredits db generationTaskId kind taskId phase count :=
  Table.map_select_updateWhere (by intro _; rfl) (fun _ => rfl) fun _ => rfl

theorem targetCredits_congr {db' : Database} (h : db'.targets = db.targets) :
    targetCredits db' generationTaskId kind taskId phase count =
      targetCredits db generationTaskId kind taskId phase count := by
  unfold targetCredits
  rw [h]

theorem targetCredits_nodup :
    ((targetCredits db generationTaskId kind taskId phase count).map Credit.key).Nodup := by
  have hids : ((db.targets.select (·.isEligible taskId phase)).map
      ExternalSyncTrainingTarget.targetId).Nodup :=
    (List.filter_sublist.map _).nodup db.targets.nodup
  have hkeys : (targetCredits db generationTaskId kind taskId phase count).map Credit.key =
      ((db.targets.select (·.isEligible taskId phase)).map
        ExternalSyncTrainingTarget.targetId).map
        fun id => (generationTaskId, kind, Beneficiary.target id) := by
    simp [targetCredits, Credit.key]
  rw [hkeys]
  refine hids.map ?_
  intro id id' h
  simpa using h

end Ledger

/-! ## The balance -/

def heldCount (b : Beneficiary) (t : ExternalSyncTraining) : Int :=
  if t.beneficiary = b ∧ (t.claimReconciled = false ∨ t.status ≠ .failed) then t.claimedSampleCount
  else 0

def Database.heldClaims (db : Database) (b : Beneficiary) : Int :=
  db.trainings.sumBy (heldCount b)

theorem heldClaims_eq (db : Database) (b : Beneficiary) :
    db.heldClaims b = db.openClaims b + db.consumedClaims b := by
  unfold Database.heldClaims Database.openClaims Database.consumedClaims Table.sumBy
  rw [← List.sum_map_add]
  congr 1
  apply List.map_congr_left
  intro t _
  unfold heldCount
  by_cases hb : t.beneficiary = b <;> cases hr : t.claimReconciled <;> simp [hb]

/-- Credited samples are pending or held, and nothing is negative. -/
structure SampleInv (ledger : List Credit) (db : Database) : Prop where
  targets : ∀ t ∈ db.targets, creditedTo ledger (.target t.targetId) =
    t.pendingTrainingSamples + db.heldClaims (.target t.targetId)
  tasks : ∀ t ∈ db.tasks, creditedTo ledger (.task t.taskId) =
    t.pendingTrainingSamples + db.heldClaims (.task t.taskId)
  targetsNonneg : ∀ t ∈ db.targets, 0 ≤ t.pendingTrainingSamples
  tasksNonneg : ∀ t ∈ db.tasks, 0 ≤ t.pendingTrainingSamples
  claimsNonneg : ∀ t ∈ db.trainings, 0 ≤ t.claimedSampleCount

section Balance

variable {db db' : Database} {ledger credits : List Credit}

abbrev SameTargetPending (t t' : Table ExternalSyncTrainingTarget) : Prop :=
  Table.SameColumn ExternalSyncTrainingTarget.pendingTrainingSamples t t'

abbrev SameTaskPending (t t' : Table ExternalSyncTask) : Prop :=
  Table.SameColumn ExternalSyncTask.pendingTrainingSamples t t'

/-- A step that adds `credits` to the ledger and moves `held b` samples of `b` to trainings keeps the
balance if it moves the pending samples by the difference, and not below zero. -/
theorem SampleInv.of_delta (hI : SampleInv ledger db) {held : Beneficiary → Int}
    (hheld : ∀ b, db'.heldClaims b = db.heldClaims b + held b)
    (htargets : ∀ t' ∈ db'.targets, ∃ t ∈ db.targets, t.targetId = t'.targetId ∧
      t'.pendingTrainingSamples = t.pendingTrainingSamples +
        (creditedTo credits (.target t.targetId) - held (.target t.targetId)) ∧
      0 ≤ t'.pendingTrainingSamples)
    (htasks : ∀ t' ∈ db'.tasks, ∃ t ∈ db.tasks, t.taskId = t'.taskId ∧
      t'.pendingTrainingSamples = t.pendingTrainingSamples +
        (creditedTo credits (.task t.taskId) - held (.task t.taskId)) ∧
      0 ≤ t'.pendingTrainingSamples)
    (hclaims : ∀ t ∈ db'.trainings, 0 ≤ t.claimedSampleCount) :
    SampleInv (ledger ++ credits) db' := by
  refine ⟨?_, ?_, ?_, ?_, hclaims⟩
  · intro t' ht'
    obtain ⟨t, ht, hid, hp, -⟩ := htargets t' ht'
    rw [creditedTo_append, ← hid, hheld, hp, hI.targets t ht]
    omega
  · intro t' ht'
    obtain ⟨t, ht, hid, hp, -⟩ := htasks t' ht'
    rw [creditedTo_append, ← hid, hheld, hp, hI.tasks t ht]
    omega
  · intro t' ht'
    obtain ⟨t, -, -, -, hnn⟩ := htargets t' ht'
    exact hnn
  · intro t' ht'
    obtain ⟨t, -, -, -, hnn⟩ := htasks t' ht'
    exact hnn

theorem SampleInv.of_same (hI : SampleInv ledger db)
    (htargets : SameTargetPending db.targets db'.targets)
    (htasks : SameTaskPending db.tasks db'.tasks)
    (hheld : ∀ b, db'.heldClaims b = db.heldClaims b)
    (hclaims : ∀ t ∈ db'.trainings, 0 ≤ t.claimedSampleCount) : SampleInv ledger db' := by
  rw [← List.append_nil ledger]
  refine @SampleInv.of_delta db db' ledger [] hI (fun _ => 0) (fun b => by rw [hheld, add_zero]) ?_
    ?_ hclaims
  · intro t' ht'
    obtain ⟨t, ht, hid, hp⟩ := htargets t' ht'
    refine ⟨t, ht, hid, ?_, hp ▸ hI.targetsNonneg t ht⟩
    rw [← hp, creditedTo_nil, sub_zero, add_zero]
  · intro t' ht'
    obtain ⟨t, ht, hid, hp⟩ := htasks t' ht'
    refine ⟨t, ht, hid, ?_, hp ▸ hI.tasksNonneg t ht⟩
    rw [← hp, creditedTo_nil, sub_zero, add_zero]

theorem SampleInv.of_stay (hI : SampleInv ledger db)
    (htargets : SameTargetPending db.targets db'.targets)
    (htasks : SameTaskPending db.tasks db'.tasks) (h : db'.trainings = db.trainings) :
    SampleInv ledger db' := by
  refine hI.of_same htargets htasks (fun b => ?_) (h ▸ hI.claimsNonneg)
  unfold Database.heldClaims
  rw [h]

theorem SampleInv.creditTargets (hI : SampleInv ledger db) (generationTaskId : String)
    (kind : OutputKind) (taskId phase : String) {count : Int} (hcount : 0 < count) :
    SampleInv (ledger ++ targetCredits db generationTaskId kind taskId phase count)
      (creditTargets taskId phase count db) := by
  refine @SampleInv.of_delta db _ ledger _ hI (fun _ => 0) (fun b => (add_zero _).symm) ?_ ?_
    hI.claimsNonneg
  · intro t' ht'
    unfold Sync.creditTargets at ht'
    dsimp only at ht'
    obtain ⟨t, ht, rfl⟩ := Table.mem_updateWhere.mp ht'
    have hnn := hI.targetsNonneg t ht
    refine ⟨t, ht, ?_⟩
    rw [creditedTo_targetCredits ht, sub_zero]
    split
    · refine ⟨rfl, rfl, ?_⟩
      show 0 ≤ t.pendingTrainingSamples + count
      omega
    · exact ⟨rfl, (add_zero _).symm, hnn⟩
  · intro t ht
    refine ⟨t, ht, rfl, ?_, hI.tasksNonneg t ht⟩
    rw [creditedTo_targetCredits_task, sub_zero, add_zero]

theorem SampleInv.creditTask (hI : SampleInv ledger db) (generationTaskId : String)
    (kind : OutputKind) (taskId : String) {count : Int} (hcount : 0 < count) :
    SampleInv (ledger ++ [{ generationTaskId := generationTaskId, kind := kind
                            beneficiary := .task taskId, amount := count }])
      (creditTask taskId count db) := by
  refine @SampleInv.of_delta db _ ledger _ hI (fun _ => 0) (fun b => (add_zero _).symm) ?_ ?_
    hI.claimsNonneg
  · intro t ht
    refine ⟨t, ht, rfl, ?_, hI.targetsNonneg t ht⟩
    simp [creditedTo]
  · intro t' ht'
    unfold Sync.creditTask at ht'
    dsimp only at ht'
    obtain ⟨t, ht, rfl⟩ := Table.mem_update.mp ht'
    have hnn := hI.tasksNonneg t ht
    refine ⟨t, ht, ?_⟩
    by_cases hid : Keyed.key t = taskId
    · rw [if_pos hid]
      have hid : t.taskId = taskId := hid
      refine ⟨rfl, ?_, ?_⟩
      · simp [creditedTo, hid, ExternalSyncTask.credit]
      · show 0 ≤ t.pendingTrainingSamples + count
        omega
    · rw [if_neg hid]
      have hid : ¬ taskId = t.taskId := fun h => hid h.symm
      exact ⟨rfl, by simp [creditedTo, hid], hnn⟩

theorem SampleInv.creditFinalOutput (hI : SampleInv ledger db) (g : ExternalSyncGeneration)
    (outputDatasetId : Option String) (count : Int) :
    SampleInv (ledger ++ finalCredits db g outputDatasetId count)
      (creditFinalOutput g.taskId outputDatasetId count db) := by
  unfold finalCredits Sync.creditFinalOutput
  by_cases hc : truthy outputDatasetId ∧ count > 0
  · by_cases ht : db.targetsOf g.taskId ≠ []
    · rw [if_pos hc, if_pos hc, if_pos ht, if_pos ht]
      exact hI.creditTargets _ _ _ _ hc.2
    · rw [if_pos hc, if_pos hc, if_neg ht, if_neg ht]
      exact hI.creditTask _ _ _ hc.2
  · rw [if_neg hc, if_neg hc, List.append_nil]
    exact hI

theorem SampleInv.creditQaOutput (hI : SampleInv ledger db) (g : ExternalSyncGeneration)
    (qaDatasetId : Option String) (count : Int) :
    SampleInv (ledger ++ qaCredits db g qaDatasetId count)
      (creditQaOutput g.taskId qaDatasetId count db) := by
  unfold qaCredits Sync.creditQaOutput
  by_cases hc : truthy qaDatasetId ∧ count > 0
  · rw [if_pos hc, if_pos hc]
    exact hI.creditTargets _ _ _ _ hc.2
  · rw [if_neg hc, if_neg hc, List.append_nil]
    exact hI

theorem qaCredits_creditFinalOutput (g : ExternalSyncGeneration) (dataset : Option String)
    (n : Int) (qaDatasetId : Option String) (count : Int) :
    qaCredits (creditFinalOutput g.taskId dataset n db) g qaDatasetId count =
      qaCredits db g qaDatasetId count := by
  unfold qaCredits creditFinalOutput
  by_cases hc : truthy dataset ∧ n > 0
  · by_cases ht : db.targetsOf g.taskId ≠ []
    · rw [if_pos hc, if_pos ht, targetCredits_creditTargets]
    · rw [if_pos hc, if_neg ht, targetCredits_congr rfl]
      rfl
  · rw [if_neg hc]

theorem SampleInv.complete (hI : SampleInv ledger db) (now : DateTime) (g : ExternalSyncGeneration)
    (outputDatasetId : Option String) (count : Int) :
    SampleInv (ledger ++ (finalCredits db g outputDatasetId count ++
        qaCredits db g g.qaDatasetId (max g.qaSampleCount 0)))
      (consumeBatches now g outputDatasetId count db) := by
  have hcredited := (hI.creditFinalOutput g outputDatasetId count).creditQaOutput g g.qaDatasetId
    (max g.qaSampleCount 0)
  rw [qaCredits_creditFinalOutput, List.append_assoc] at hcredited
  refine hcredited.of_stay ?_ ?_ ?_
  · rw [consumeBatches_targets]
    exact .refl _
  · rw [consumeBatches_tasks, creditQaOutput_tasks]
    refine .update fun t => ⟨ExternalSyncTask.leaveGenerating_taskId t, ?_⟩
    unfold ExternalSyncTask.leaveGenerating
    split <;> rfl
  · rw [consumeBatches_trainings, creditQaOutput_trainings]
    simp

theorem SampleInv.recordQa (hI : SampleInv ledger db) (g : ExternalSyncGeneration)
    (qaDatasetId : Option String) (count : Int) :
    SampleInv (ledger ++ if g.status = .completed then qaCredits db g qaDatasetId count else [])
      (recordQaOutput g qaDatasetId count db) := by
  let written : Database := { db with
    generations := db.generations.update g.generationTaskId fun g => { g with
      qaDatasetId := qaDatasetId
      qaSampleCount := count } }
  have hwritten : SampleInv ledger written := hI.of_stay (.refl _) (.refl _) rfl
  have hcredited : SampleInv (ledger ++ qaCredits db g qaDatasetId count)
      (Sync.creditQaOutput g.taskId qaDatasetId count written) :=
    hwritten.creditQaOutput g qaDatasetId count
  unfold recordQaOutput creditsQa
  unfold Sync.creditQaOutput at hcredited
  by_cases hs : g.status = .completed
  · rw [if_pos hs]
    simpa [hs] using hcredited
  · rw [if_neg hs, List.append_nil]
    simpa [hs] using hwritten

theorem beneficiary_of_target {t : ExternalSyncTraining} {targetId : String}
    (htruthy : truthy t.targetId = true) (hid : some targetId = t.targetId) :
    t.beneficiary = .target targetId := by
  unfold ExternalSyncTraining.beneficiary
  rw [if_pos htruthy, ← hid]
  rfl

theorem heldClaims_insert {args : CreateTraining} {task : ExternalSyncTask} {claim : Claim}
    (hins : db.trainings.insert (args.row task claim) = some db'.trainings) (b : Beneficiary) :
    db'.heldClaims b = db.heldClaims b +
      if (args.row task claim).beneficiary = b then claim.claimedSampleCount else 0 := by
  unfold Database.heldClaims
  rw [Table.sumBy_insert hins]
  have hrec : (args.row task claim).claimReconciled = false := rfl
  have hcount : (args.row task claim).claimedSampleCount = claim.claimedSampleCount := rfl
  simp [heldCount, hrec, hcount]

theorem SampleInv.claimForTask (hI : SampleInv ledger db) {args : CreateTraining}
    {task : ExternalSyncTask} {trainings : Table ExternalSyncTraining}
    (htask : db.tasks.lookup args.taskId = some task) (htruthy : truthy args.targetId = false)
    (hins : db.trainings.insert (args.row task task.asClaim) = some trainings) :
    SampleInv ledger (claimedForTask args trainings db) := by
  obtain ⟨hmem, hid⟩ := Table.lookup_eq_some.mp htask
  have hid : task.taskId = args.taskId := hid
  have hnn := hI.tasksNonneg task hmem
  have hclaim : task.asClaim.claimedSampleCount = task.pendingTrainingSamples := max_eq_left hnn
  have hben : (args.row task task.asClaim).beneficiary = .task args.taskId := by
    simp [ExternalSyncTraining.beneficiary, CreateTraining.row, htruthy]
  have hheld : ∀ b, (claimedForTask args trainings db).heldClaims b = db.heldClaims b +
      if Beneficiary.task args.taskId = b then task.pendingTrainingSamples else 0 := by
    intro b
    rw [@heldClaims_insert db (claimedForTask args trainings db) _ _ _ hins b, hben, hclaim]
  rw [← List.append_nil ledger]
  refine @SampleInv.of_delta db _ ledger [] hI _ hheld ?_ ?_ ?_
  · intro t ht
    refine ⟨t, ht, rfl, ?_, hI.targetsNonneg t ht⟩
    simp
  · intro t' ht'
    unfold claimedForTask at ht'
    dsimp only at ht'
    obtain ⟨t₁, ht₁, rfl⟩ := Table.mem_update.mp ht'
    obtain ⟨t, ht, rfl⟩ := Table.mem_update.mp ht₁
    refine ⟨t, ht, ?_⟩
    by_cases htid : Keyed.key t = args.taskId
    · obtain rfl : t = task := Table.eq_of_key ht hmem (htid.trans hid.symm)
      simp [hid, ExternalSyncTask.claim]
    · have htid : ¬ t.taskId = args.taskId := htid
      have hne : ¬ args.taskId = t.taskId := fun h => htid h.symm
      simp [htid, hne, hI.tasksNonneg t ht]
  · intro t ht
    rcases (Table.mem_insert hins).mp ht with ht | rfl
    · exact hI.claimsNonneg t ht
    · exact le_max_right _ _

theorem SampleInv.claimForTarget (hI : SampleInv ledger db) {args : CreateTraining}
    {task : ExternalSyncTask} {target : ExternalSyncTrainingTarget}
    {trainings : Table ExternalSyncTraining} (htarget : target ∈ db.targets)
    (hid : some target.targetId = args.targetId) (htruthy : truthy args.targetId = true)
    (hins : db.trainings.insert (args.row task (target.asClaim task)) = some trainings) :
    SampleInv ledger (claimedForTarget args target.targetId trainings db) := by
  have hnn := hI.targetsNonneg target htarget
  have hclaim : (target.asClaim task).claimedSampleCount = target.pendingTrainingSamples :=
    max_eq_left hnn
  have hben : (args.row task (target.asClaim task)).beneficiary = .target target.targetId :=
    beneficiary_of_target htruthy hid
  have hheld : ∀ b, (claimedForTarget args target.targetId trainings db).heldClaims b =
      db.heldClaims b +
        if Beneficiary.target target.targetId = b then target.pendingTrainingSamples else 0 := by
    intro b
    rw [@heldClaims_insert db (claimedForTarget args target.targetId trainings db) _ _ _ hins b,
      hben, hclaim]
  rw [← List.append_nil ledger]
  refine @SampleInv.of_delta db _ ledger [] hI _ hheld ?_ ?_ ?_
  · intro t' ht'
    unfold claimedForTarget at ht'
    dsimp only at ht'
    obtain ⟨t, ht, rfl⟩ := Table.mem_update.mp ht'
    refine ⟨t, ht, ?_⟩
    by_cases htid : Keyed.key t = target.targetId
    · obtain rfl : t = target := Table.eq_of_key ht htarget htid
      simp [ExternalSyncTrainingTarget.claim]
    · have htid : ¬ t.targetId = target.targetId := htid
      have hne : ¬ target.targetId = t.targetId := fun h => htid h.symm
      simp [htid, hne, hI.targetsNonneg t ht]
  · intro t' ht'
    unfold claimedForTarget at ht'
    dsimp only at ht'
    obtain ⟨t, ht, rfl⟩ := Table.mem_update.mp ht'
    refine ⟨t, ht, ?_⟩
    have hnn := hI.tasksNonneg t ht
    split
    · exact ⟨rfl, by simp [ExternalSyncTask.claim], hnn⟩
    · exact ⟨rfl, by simp, hnn⟩
  · intro t ht
    rcases (Table.mem_insert hins).mp ht with ht | rfl
    · exact hI.claimsNonneg t ht
    · exact le_max_right _ _

theorem heldClaims_reconcile {training : ExternalSyncTraining} (hmem : training ∈ db.trainings)
    (hopen : training.isOpen = true) (now : DateTime) (status : SyncTrainingStatus)
    (h : db'.trainings = db.trainings.update training.trainingTaskId (·.reconcile now status))
    (b : Beneficiary) :
    db'.heldClaims b = db.heldClaims b + if training.beneficiary = b ∧ status = .failed then
      - training.claimedSampleCount else 0 := by
  obtain ⟨-, hrec⟩ := ExternalSyncTraining.isOpen_iff.mp hopen
  have hbefore : heldCount b training =
      if training.beneficiary = b then training.claimedSampleCount else 0 := by
    simp [heldCount, hrec]
  have hafter : heldCount b (training.reconcile now status) =
      if training.beneficiary = b ∧ status ≠ .failed then training.claimedSampleCount else 0 := by
    have hheld : heldCount b (training.reconcile now status) =
        if training.beneficiary = b ∧ (true = false ∨ status ≠ .failed) then
          training.claimedSampleCount else 0 := rfl
    simpa using hheld
  unfold Database.heldClaims
  rw [h, ← key_training, Table.sumBy_update hmem, hbefore, hafter]
  congr 1
  by_cases hb : training.beneficiary = b <;> by_cases hs : status = .failed <;> simp [hb, hs]

abbrev SameClaimed (t t' : Table ExternalSyncTraining) : Prop :=
  Table.SameColumn ExternalSyncTraining.claimedSampleCount t t'

theorem SampleInv.claimsNonneg_of_same (hI : SampleInv ledger db)
    (h : SameClaimed db.trainings db'.trainings) :
    ∀ t ∈ db'.trainings, 0 ≤ t.claimedSampleCount := by
  intro t ht
  obtain ⟨t₀, ht₀, -, hcount⟩ := h t ht
  rw [← hcount]
  exact hI.claimsNonneg t₀ ht₀

theorem heldClaims_unload {filter : UnloadFilter} {taskId : String}
    (h : db'.trainings = db.trainings.updateWhere (filter.selects taskId)
      ExternalSyncTraining.unload) (b : Beneficiary) : db'.heldClaims b = db.heldClaims b := by
  unfold Database.heldClaims
  rw [h, Table.sumBy_updateWhere]
  apply Table.sumBy_congr
  intro t _
  by_cases hsel : filter.selects taskId t = true
  · have hs : t.status = .adapterLoaded := by
      simp only [UnloadFilter.selects, Bool.and_eq_true, decide_eq_true_eq] at hsel
      exact hsel.1.1.1.1.2
    have hafter : heldCount b t.unload =
        if t.beneficiary = b ∧ (t.claimReconciled = false ∨ SyncTrainingStatus.adapterUnloaded ≠
          .failed) then t.claimedSampleCount else 0 := rfl
    rw [if_pos hsel, hafter]
    simp [heldCount, hs]
  · rw [if_neg hsel]

theorem SampleInv.consume (hI : SampleInv ledger db) (now : DateTime)
    {training : ExternalSyncTraining} (hmem : training ∈ db.trainings)
    (hopen : training.isOpen = true) : SampleInv ledger (consumeClaim now training db) := by
  refine hI.of_same ?_ ?_ (fun b => ?_)
    (hI.claimsNonneg_of_same (.update (by intro _; exact ⟨rfl, rfl⟩)))
  · unfold consumeClaim
    simp only []
    split
    · exact .updateWhere (by intro _; exact ⟨rfl, rfl⟩)
    · exact .refl _
  · unfold consumeClaim
    simp only []
    split
    · exact .refl _
    · exact .update (by intro _; exact ⟨rfl, rfl⟩)
  · rw [heldClaims_reconcile hmem hopen now .completed rfl b]
    simp

theorem SampleInv.restore (hI : SampleInv ledger db) (now : DateTime)
    {training : ExternalSyncTraining} (hmem : training ∈ db.trainings)
    (hopen : training.isOpen = true) (hown : claimOwned db training = true) (reason : String) :
    SampleInv ledger (restoreClaim now training reason db) := by
  have hheld : ∀ b, (restoreClaim now training reason db).heldClaims b = db.heldClaims b +
      if training.beneficiary = b then - training.claimedSampleCount else 0 := by
    intro b
    rw [heldClaims_reconcile hmem hopen now .failed rfl b]
    simp
  have hclaimed := hI.claimsNonneg training hmem
  obtain ⟨⟨task, htask, -⟩, htarget⟩ := claimOwned_iff.mp hown
  rw [← List.append_nil ledger]
  refine @SampleInv.of_delta db _ ledger [] hI _ hheld ?_ ?_
    (hI.claimsNonneg_of_same (.update (by intro _; exact ⟨rfl, rfl⟩)))
  · intro t' ht'
    unfold restoreClaim at ht'
    dsimp only at ht'
    split at ht'
    · rename_i htruthy
      obtain ⟨t, ht, rfl⟩ := Table.mem_updateWhere.mp ht'
      refine ⟨t, ht, ?_⟩
      obtain ⟨target, hmemt, htid, hid, -⟩ := htarget htruthy
      have hben : training.beneficiary = .target target.targetId :=
        beneficiary_of_target htruthy hid
      have hnn := hI.targetsNonneg t ht
      by_cases heq : t.targetId = target.targetId
      · obtain rfl : t = target := Table.eq_of_key ht hmemt heq
        rw [if_pos (by simp [htid, hid])]
        refine ⟨rfl, ?_, ?_⟩
        · simp [ExternalSyncTrainingTarget.restore, hben, hnn, hclaimed]
        · show 0 ≤ max t.pendingTrainingSamples 0 + max training.claimedSampleCount 0
          omega
      · have hne : ¬ target.targetId = t.targetId := fun h => heq h.symm
        rw [if_neg (by simp [← hid, heq])]
        exact ⟨rfl, by simp [hben, hne], hnn⟩
    · rename_i htruthy
      have hben : training.beneficiary = .task training.taskId := by
        simp [ExternalSyncTraining.beneficiary, htruthy]
      exact ⟨t', ht', rfl, by simp [hben], hI.targetsNonneg t' ht'⟩
  · intro t' ht'
    unfold restoreClaim at ht'
    dsimp only at ht'
    obtain ⟨t, ht, rfl⟩ := Table.mem_update.mp ht'
    refine ⟨t, ht, ?_⟩
    have hnn := hI.tasksNonneg t ht
    cases htruthy : truthy training.targetId with
    | true =>
      have hben : ¬ training.beneficiary = .task t.taskId := by
        simp [ExternalSyncTraining.beneficiary, htruthy]
      by_cases hid : Keyed.key t = training.taskId
      · rw [if_pos hid]
        exact ⟨rfl, by simp [ExternalSyncTask.restore, htruthy, hben],
          by simp [ExternalSyncTask.restore, htruthy, hnn]⟩
      · rw [if_neg hid]
        exact ⟨rfl, by simp [hben], hnn⟩
    | false =>
      have hben : training.beneficiary = .task training.taskId := by
        simp [ExternalSyncTraining.beneficiary, htruthy]
      by_cases hid : Keyed.key t = training.taskId
      · rw [if_pos hid]
        have hid : t.taskId = training.taskId := hid
        refine ⟨rfl, ?_, ?_⟩
        · simp [ExternalSyncTask.restore, htruthy, hben, hid, hnn, hclaimed]
        · simp only [ExternalSyncTask.restore, htruthy, Bool.false_eq_true, ↓reduceIte]
          omega
      · rw [if_neg hid]
        have hne : ¬ training.taskId = t.taskId := fun h => hid h.symm
        exact ⟨rfl, by simp [hben, hne], hnn⟩

end Balance

/-! ## The operations -/

section Operations

variable {env : Env} {db : Database} {ledger : List Credit}

def Op.isCredit : Op → Bool
  | .completeGenerationAndConsumeBatches .. | .updateGenerationQaOutput .. => true
  | _ => false

theorem SampleInv.applyQuiet (hI : SampleInv ledger db) {op : Op} (hop : op.keepsSamples)
    (hquiet : op.isCredit = false) : SampleInv ledger (op.apply env db) := by
  have heffect := op.effect env db
  generalize op.apply env db = db' at heffect ⊢
  cases heffect with
  | stay => exact hI
  | create => exact hI.of_stay (.refl _) (.refl _) rfl
  | complete | recordQa => cases hquiet
  | fail now g reason reason' hg hpending =>
    refine hI.of_stay (.refl _) (.trans (.update (by intro _; exact ⟨rfl, rfl⟩))
      (.update fun t => ?_)) rfl
    refine ⟨ExternalSyncTask.failGenerating_taskId reason' t, ?_⟩
    unfold ExternalSyncTask.failGenerating
    split <;> rfl
  | toggle | recalculate | writeTraining | createTarget | migrate => exact hop.elim
  | claimForTask args task trainings htask hguard htruthy hins =>
    exact hI.claimForTask htask htruthy hins
  | claimForTarget args task target trainings htask hguard htruthy htarget hid hins =>
    exact hI.claimForTarget htarget hid htruthy hins
  | consume now training hmem hopen => exact hI.consume now hmem hopen
  | restore now training reason hmem hopen hown => exact hI.restore now hmem hopen hown reason
  | unload taskId filter =>
    exact hI.of_same (.refl _) (.refl _) (fun b => heldClaims_unload rfl b)
      (hI.claimsNonneg_of_same (.updateWhere (by intro _; exact ⟨rfl, rfl⟩)))
  | updateTask verdict args task final written htask hguard hfinal hwritten =>
    have hop : args.trainingTargets = none := hop
    rw [hop] at hfinal
    obtain rfl : none = final := Except.ok.inj hfinal
    refine hI.of_stay ?_ ?_ writeTask_trainings
    · show SameTargetPending _ written
      rw [replaceTargets_none hwritten]
      exact .refl _
    · intro t ht
      obtain ⟨t₀, ht₀, ⟨-, rfl⟩ | ⟨-, n, rfl⟩⟩ := mem_writeTask_tasks ht
      · exact ⟨t, ht₀, rfl, rfl⟩
      · exact ⟨t₀, ht₀, rfl, rfl⟩
  | updateTarget => exact hI.of_stay (.update (by intro _; exact ⟨rfl, rfl⟩)) (.refl _) rfl
  | _ => exact hI.of_stay (.refl _) (.update (by intro _; exact ⟨rfl, rfl⟩)) rfl

theorem SampleInv.apply (hI : SampleInv ledger db) {op : Op} (hop : op.keepsSamples) :
    SampleInv (ledger ++ op.credits db) (op.apply env db) := by
  cases op with
  | completeGenerationAndConsumeBatches now generationTaskId outputDatasetId outputSampleCount =>
    simp only [Op.apply, Op.credits]
    rcases completeGeneration_cases db now generationTaskId outputDatasetId outputSampleCount with
      ⟨r, h, hr⟩ | ⟨r, g, h, hr, hg, -⟩ <;> rw [h]
    · cases db.generations.lookup generationTaskId <;> simpa [hr] using hI
    · rw [hg]
      simp only [hr, ↓reduceIte]
      exact hI.complete now g outputDatasetId _
  | updateGenerationQaOutput generationTaskId qaDatasetId qaSampleCount =>
    simp only [Op.apply, Op.credits]
    rcases updateGenerationQaOutput_cases db generationTaskId qaDatasetId qaSampleCount with
      ⟨r, h, hr⟩ | ⟨r, g, h, hr, hg, -, -⟩ <;> rw [h]
    · cases db.generations.lookup generationTaskId <;> simpa [hr] using hI
    · rw [hg]
      simp only [hr, true_and]
      exact hI.recordQa g qaDatasetId _
  | _ => simpa only [Op.credits, List.append_nil] using hI.applyQuiet hop rfl

end Operations

/-! ## Every output is credited once -/

section Once

variable {env : Env} {db db' : Database}

theorem ne_none_of_truthy {s : Option String} (h : truthy s = true) : s ≠ none := by
  rintro rfl
  cases h

/-- The output was credited: its generation is no longer pending, and its QA output is recorded. -/
def OutputSettled (k : String × OutputKind × Beneficiary) (db : Database) : Prop :=
  ∃ g ∈ db.generations, g.generationTaskId = k.1 ∧ g.status ≠ .pending ∧
    (k.2.1 = .qa → g.qaDatasetId ≠ none)

theorem OutputSettled.update {k : String × OutputKind × Beneficiary} (h : OutputSettled k db)
    {id : String} {f : ExternalSyncGeneration → ExternalSyncGeneration}
    {hf : ∀ g, Keyed.key (f g) = Keyed.key g}
    (hgens : db'.generations = db.generations.update id f hf)
    (hstatus : ∀ g ∈ db.generations, g.generationTaskId = id → g.status ≠ .pending →
      (f g).status ≠ .pending)
    (hqa : ∀ g ∈ db.generations, g.generationTaskId = id → g.qaDatasetId ≠ none →
      (f g).qaDatasetId ≠ none) : OutputSettled k db' := by
  obtain ⟨g, hg, hid, hs, hq⟩ := h
  have hmem : (if Keyed.key g = id then f g else g) ∈ db'.generations := by
    rw [hgens]
    exact Table.mem_update.mpr ⟨g, hg, rfl⟩
  refine ⟨_, hmem, ?_⟩
  by_cases hgid : Keyed.key g = id
  · rw [if_pos hgid]
    exact ⟨(hf g).trans hid, hstatus g hg hgid hs, fun hk => hqa g hg hgid (hq hk)⟩
  · rw [if_neg hgid]
    exact ⟨hid, hs, hq⟩

theorem OutputSettled.apply {k : String × OutputKind × Beneficiary} (h : OutputSettled k db)
    (op : Op) : OutputSettled k (op.apply env db) := by
  have hmove : op.resetsPosition = false → OutputSettled k (op.apply env db) := by
    intro hop
    have hmove := @apply_batchMove env db op hop
    generalize hdb' : op.apply env db = db' at hmove ⊢
    generalize hb' : db'.batches = batches, hg' : db'.generations = generations,
      hu' : db'.uuids = uuids at hmove
    have hstay : generations = db.generations → OutputSettled k db' := by
      intro hgens
      obtain ⟨g, hg, hrest⟩ := h
      exact ⟨g, by rw [hg', hgens]; exact hg, hrest⟩
    cases hmove with
    | stay => exact hstay rfl
    | create => exact hstay rfl
    | promote => exact hstay rfl
    | reset => exact hstay rfl
    | claim args n generations _ _ _ hins =>
      obtain ⟨g, hg, hrest⟩ := h
      exact ⟨g, by rw [hg']; exact (Table.mem_insert hins).mpr (Or.inl hg), hrest⟩
    | complete now g outputDatasetId sampleCount =>
      refine h.update (hg'.trans
        (consumeBatches_generations now g outputDatasetId sampleCount)) ?_ ?_
      · simp
      · exact fun _ _ _ hq => hq
    | fail now g reason =>
      refine h.update (hg'.trans (restoreBatches_generations now g reason)) ?_ ?_
      · simp
      · exact fun _ _ _ hq => hq
    | toggle g disabled =>
      exact h.update hg' (fun _ _ _ hs => hs) fun _ _ _ hq => hq
    | recordQa g qaDatasetId qaSampleCount hg hnone =>
      refine h.update hg' (fun _ _ _ hs => hs) ?_
      intro g' hmem hid hq
      obtain rfl : g' = g := Table.eq_of_key hmem hg hid
      exact absurd hnone hq
  cases op with
  | updateTask verdict args =>
    simp only [Op.apply]
    rcases updateTask_commit db env.legacyTrainingTargetId verdict args with
      hc | ⟨task, final, written, -, -, -, -, -, hc⟩ <;> rw [hc]
    · exact h
    · obtain ⟨g, hg, hrest⟩ := h
      exact ⟨g, by rw [← @writeTask_generations db] at hg; exact hg, hrest⟩
  | _ => exact hmove rfl

theorem mem_finalCredits {g : ExternalSyncGeneration} {dataset : Option String} {count : Int}
    {c : Credit} (h : c ∈ finalCredits db g dataset count) :
    c.generationTaskId = g.generationTaskId ∧ c.kind = .final := by
  unfold finalCredits at h
  split at h
  · split at h
    · obtain ⟨t, -, rfl⟩ := List.mem_map.mp h
      exact ⟨rfl, rfl⟩
    · rw [List.mem_singleton] at h
      subst h
      exact ⟨rfl, rfl⟩
  · cases h

theorem mem_qaCredits {g : ExternalSyncGeneration} {dataset : Option String} {count : Int}
    {c : Credit} (h : c ∈ qaCredits db g dataset count) :
    c.generationTaskId = g.generationTaskId ∧ c.kind = .qa ∧ dataset ≠ none := by
  unfold qaCredits at h
  split at h
  · rename_i hc
    obtain ⟨t, -, rfl⟩ := List.mem_map.mp h
    exact ⟨rfl, rfl, ne_none_of_truthy hc.1⟩
  · cases h

theorem finalCredits_nodup (g : ExternalSyncGeneration) (dataset : Option String) (count : Int) :
    ((finalCredits db g dataset count).map Credit.key).Nodup := by
  unfold finalCredits
  split
  · split
    · exact targetCredits_nodup
    · exact List.nodup_singleton _
  · exact List.nodup_nil

theorem qaCredits_nodup (g : ExternalSyncGeneration) (dataset : Option String) (count : Int) :
    ((qaCredits db g dataset count).map Credit.key).Nodup := by
  unfold qaCredits
  split
  · exact targetCredits_nodup
  · exact List.nodup_nil

theorem credits_spec (op : Op) :
    ((op.credits db).map Credit.key).Nodup ∧
    ∀ c ∈ op.credits db, ¬ OutputSettled c.key db ∧ OutputSettled c.key (op.apply env db) := by
  have hunique : ∀ {gid : String} {g g' : ExternalSyncGeneration},
      db.generations.lookup gid = some g → g' ∈ db.generations → g'.generationTaskId = gid →
      g' = g := by
    intro gid g g' hg hg' hid
    obtain ⟨hmem, hkey⟩ := Table.lookup_eq_some.mp hg
    exact Table.eq_of_key hg' hmem (hid.trans hkey.symm)
  cases op with
  | completeGenerationAndConsumeBatches now gid outputDatasetId outputSampleCount =>
    simp only [Op.apply, Op.credits]
    rcases completeGeneration_cases db now gid outputDatasetId outputSampleCount with
      ⟨r, h, hr⟩ | ⟨r, g, h, hr, hg, hpending, -⟩ <;> rw [h]
    · cases db.generations.lookup gid <;> simp [hr]
    rw [hg]
    simp only [hr, ↓reduceIte, Outcome.commit_ok]
    obtain ⟨hmem, hkey⟩ := Table.lookup_eq_some.mp hg
    have hkey : g.generationTaskId = gid := hkey
    constructor
    · rw [List.map_append, List.nodup_append]
      refine ⟨finalCredits_nodup _ _ _, qaCredits_nodup _ _ _, ?_⟩
      intro a ha b hb hab
      obtain ⟨c, hc, rfl⟩ := List.mem_map.mp ha
      obtain ⟨c', hc', rfl⟩ := List.mem_map.mp hb
      have hkind : c.kind = c'.kind := congrArg (fun k => k.2.1) hab
      rw [(mem_finalCredits hc).2, (mem_qaCredits hc').2.1] at hkind
      cases hkind
    · intro c hc
      have hcid : c.generationTaskId = g.generationTaskId := by
        rcases List.mem_append.mp hc with hc | hc
        · exact (mem_finalCredits hc).1
        · exact (mem_qaCredits hc).1
      have hqa : c.kind = .qa → g.qaDatasetId ≠ none := by
        intro hk
        rcases List.mem_append.mp hc with hc | hc
        · rw [(mem_finalCredits hc).2] at hk
          cases hk
        · exact (mem_qaCredits hc).2.2
      constructor
      · rintro ⟨g', hg', hid, hs, -⟩
        obtain rfl : g' = g := hunique hg hg' (hid.trans (hcid.trans hkey))
        exact hs hpending
      · have hafter : ({ g with
            status := .completed
            outputDatasetId := outputDatasetId
            outputSampleCount := max outputSampleCount 0
            completedAt := some now } : ExternalSyncGeneration) ∈
            (consumeBatches now g outputDatasetId (max outputSampleCount 0) db).generations := by
          rw [consumeBatches_generations]
          exact Table.mem_update.mpr ⟨g, hmem, by simp⟩
        exact ⟨_, hafter, hcid.symm, by simp, hqa⟩
  | updateGenerationQaOutput gid qaDatasetId qaSampleCount =>
    simp only [Op.apply, Op.credits]
    rcases updateGenerationQaOutput_cases db gid qaDatasetId qaSampleCount with
      ⟨r, h, hr⟩ | ⟨r, g, h, hr, hg, hnone, -⟩ <;> rw [h]
    · cases db.generations.lookup gid <;> simp [hr]
    rw [hg]
    simp only [hr, true_and, Outcome.commit_ok]
    obtain ⟨hmem, hkey⟩ := Table.lookup_eq_some.mp hg
    have hkey : g.generationTaskId = gid := hkey
    split
    · rename_i hcompleted
      refine ⟨qaCredits_nodup _ _ _, ?_⟩
      intro c hc
      obtain ⟨hcid, hkind, hds⟩ := mem_qaCredits hc
      constructor
      · rintro ⟨g', hg', hid, -, hq⟩
        obtain rfl : g' = g := hunique hg hg' (hid.trans (hcid.trans hkey))
        exact hq hkind hnone
      · have hafter : ({ g with
            qaDatasetId := qaDatasetId
            qaSampleCount := max qaSampleCount 0 } : ExternalSyncGeneration) ∈
            (recordQaOutput g qaDatasetId (max qaSampleCount 0) db).generations := by
          rw [recordQaOutput_generations]
          exact Table.mem_update.mpr ⟨g, hmem, by simp⟩
        exact ⟨_, hafter, hcid.symm, by simp [hcompleted], fun _ => hds⟩
    · simp
  | _ => exact ⟨List.nodup_nil, fun c hc => by cases hc⟩

theorem creditLedger_nodup (env : Env) (db : Database) (ops : List Op) :
    ((creditLedger env db ops).map Credit.key).Nodup :=
  @events_nodup Database Op Credit _ (Op.apply env) Op.credits (fun _ _ => True) (fun _ => True)
    Credit.key OutputSettled (fun _ _ _ _ => trivial) (fun _ op _ _ => credits_spec op)
    (fun _ op _ _ _ h => h.apply op) ops db trivial (Admits.of_forall fun _ _ => trivial)

/-! ## Every claim is reconciled once -/

/-- The claim of a training was consumed or restored. -/
def Reconciled (trainingTaskId : String) (db : Database) : Prop :=
  ∃ t ∈ db.trainings, t.trainingTaskId = trainingTaskId ∧ t.claimReconciled = true

theorem Reconciled.apply {id : String} (h : Reconciled id db) (op : Op) :
    Reconciled id (op.apply env db) := by
  have hmove := apply_trainingMove env db op
  unfold Reconciled
  generalize (op.apply env db).trainings = trainings at hmove ⊢
  obtain ⟨t, ht, hid, hrec⟩ := h
  have hupdate : ∀ {p : ExternalSyncTraining → Bool}
      {f : ExternalSyncTraining → ExternalSyncTraining} (hf : ∀ t, Keyed.key (f t) = Keyed.key t),
      (f t).claimReconciled = true →
      ∃ t ∈ db.trainings.updateWhere p f hf, t.trainingTaskId = id ∧ t.claimReconciled = true := by
    intro p f hf hkeep
    refine ⟨_, Table.mem_updateWhere.mpr ⟨t, ht, rfl⟩, ?_⟩
    split
    · exact ⟨(hf t).trans hid, hkeep⟩
    · exact ⟨hid, hrec⟩
  cases hmove with
  | stay => exact ⟨t, ht, hid, hrec⟩
  | claim args task claim _ hins => exact ⟨t, (Table.mem_insert hins).mpr (Or.inl ht), hid, hrec⟩
  | reconcile now status training => exact hupdate _ rfl
  | write now training status output => exact hupdate _ hrec
  | unload taskId filter => exact hupdate _ hrec

theorem reconciles_spec (op : Op) :
    ((op.reconciles db).map id).Nodup ∧
    ∀ trainingTaskId ∈ op.reconciles db,
      ¬ Reconciled trainingTaskId db ∧ Reconciled trainingTaskId (op.apply env db) := by
  have hbefore : ∀ {id : String} {t : ExternalSyncTraining}, db.trainings.lookup id = some t →
      t.isOpen = true → ¬ Reconciled id db := by
    rintro id t ht hopen ⟨t', ht', hid, hrec⟩
    obtain ⟨hmem, hkey⟩ := Table.lookup_eq_some.mp ht
    obtain rfl : t' = t := Table.eq_of_key ht' hmem (Eq.trans hid hkey.symm)
    rw [(ExternalSyncTraining.isOpen_iff.mp hopen).2] at hrec
    cases hrec
  have hafter : ∀ {id : String} {t : ExternalSyncTraining} {db' : Database}
      {f : ExternalSyncTraining → ExternalSyncTraining} (hf : ∀ t, Keyed.key (f t) = Keyed.key t),
      db.trainings.lookup id = some t →
      db'.trainings = db.trainings.update t.trainingTaskId f hf →
      (f t).claimReconciled = true → Reconciled id db' := by
    intro id t db' f hf ht htrainings hrec
    obtain ⟨hmem, rfl⟩ := Table.lookup_eq_some.mp ht
    refine ⟨f t, ?_, hf t, hrec⟩
    rw [htrainings]
    exact Table.mem_update.mpr ⟨t, hmem, by simp⟩
  cases op with
  | completeTrainingClaim now trainingTaskId =>
    simp only [Op.apply, Op.reconciles]
    rcases completeTrainingClaim_cases db now trainingTaskId with
      ⟨r, h, hr, -⟩ | ⟨r, training, h, hr, -, htr, hopen, -⟩ <;> rw [h]
    · simp [hr]
    · simp only [hr, ↓reduceIte, Outcome.commit_ok, List.mem_singleton]
      refine ⟨by simp, ?_⟩
      rintro _ rfl
      exact ⟨hbefore htr hopen, hafter (by intro _; rfl) htr rfl rfl⟩
  | failTrainingAndRestoreClaim now trainingTaskId reason =>
    simp only [Op.apply, Op.reconciles]
    rcases failTrainingAndRestoreClaim_cases db now trainingTaskId reason with
      ⟨r, h, hr, -⟩ | ⟨r, training, h, hr, htr, hopen, -⟩ <;> rw [h]
    · simp [hr]
    · simp only [hr, ↓reduceIte, Outcome.commit_ok, List.mem_singleton]
      refine ⟨by simp, ?_⟩
      rintro _ rfl
      exact ⟨hbefore htr hopen, hafter (by intro _; rfl) htr rfl rfl⟩
  | _ => exact ⟨List.nodup_nil, fun _ h => by cases h⟩

theorem reconciliations_nodup (env : Env) (db : Database) (ops : List Op) :
    (reconciliations env db ops).Nodup := by
  have hrun := @events_nodup Database Op String String (Op.apply env) Op.reconciles
    (fun _ _ => True) (fun _ => True) id Reconciled (fun _ _ _ _ => trivial)
    (fun _ op _ _ => reconciles_spec op) (fun _ op _ _ _ h => h.apply op) ops db trivial
    (Admits.of_forall fun _ _ => trivial)
  simpa [reconciliations] using hrun

theorem reconciles_nil {op : Op} (hop : op.isReconciliation = true) (h : op.reconciles db = []) :
    op.apply env db = db := by
  cases op with
  | completeTrainingClaim now trainingTaskId =>
    rcases completeTrainingClaim_cases db now trainingTaskId with ⟨r, hr, -⟩ | ⟨r, t, hr, hc, -⟩
    · simp only [Op.apply, hr, Outcome.commit_ok]
    · simp [Op.reconciles, hr, hc] at h
  | failTrainingAndRestoreClaim now trainingTaskId reason =>
    rcases failTrainingAndRestoreClaim_cases db now trainingTaskId reason with
      ⟨r, hr, -⟩ | ⟨r, t, hr, hc, -⟩
    · simp only [Op.apply, hr, Outcome.commit_ok]
    · simp [Op.reconciles, hr, hc] at h
  | _ => cases hop

end Once

/-! ## Whole runs -/

section Runs

variable {env : Env} {db : Database}

theorem SampleInv.fresh (htrainings : db.trainings = Table.empty)
    (htargets : ∀ t ∈ db.targets, t.pendingTrainingSamples = 0)
    (htasks : ∀ t ∈ db.tasks, t.pendingTrainingSamples = 0) : SampleInv [] db := by
  have hheld : ∀ b, db.heldClaims b = 0 := by
    intro b
    rw [Database.heldClaims, htrainings, Table.sumBy_empty]
  refine ⟨?_, ?_, ?_, ?_, ?_⟩
  · intro t ht
    rw [creditedTo_nil, htargets t ht, hheld, add_zero]
  · intro t ht
    rw [creditedTo_nil, htasks t ht, hheld, add_zero]
  · exact fun t ht => (htargets t ht).ge
  · exact fun t ht => (htasks t ht).ge
  · rw [htrainings]
    exact fun t ht => absurd ht (Table.not_mem_empty t)

theorem SampleInv.run (hI : SampleInv [] db) {ops : List Op}
    (hops : ∀ op ∈ ops, op.keepsSamples) : SampleInv (creditLedger env db ops) (db.run env ops) :=
  @events_invariant Database Op Credit (Op.apply env) Op.credits (fun _ op => op.keepsSamples)
    SampleInv (fun _ _ _ hI hop => hI.apply hop) ops [] db hI (Admits.of_forall hops)

/-- Training samples are conserved along every run of the claim protocol: the samples ever credited to
a target, or to a task, are pending, held by an unreconciled training, or consumed by a completed
one. No output of a generation is credited to one of them twice, and no claim is reconciled twice:
every other call to complete or fail a training changes nothing. -/
theorem samples_conserved (env : Env) (db : Database) (htrainings : db.trainings = Table.empty)
    (htargets : ∀ t ∈ db.targets, t.pendingTrainingSamples = 0)
    (htasks : ∀ t ∈ db.tasks, t.pendingTrainingSamples = 0) (ops : List Op)
    (hops : ∀ op ∈ ops, op.keepsSamples) :
    let db' := db.run env ops
    let ledger := creditLedger env db ops
    (∀ t ∈ db'.targets, creditedTo ledger (.target t.targetId) = t.pendingTrainingSamples +
      db'.openClaims (.target t.targetId) + db'.consumedClaims (.target t.targetId)) ∧
    (∀ t ∈ db'.tasks, creditedTo ledger (.task t.taskId) = t.pendingTrainingSamples +
      db'.openClaims (.task t.taskId) + db'.consumedClaims (.task t.taskId)) ∧
    (ledger.map Credit.key).Nodup ∧ (reconciliations env db ops).Nodup ∧
    ∀ op : Op, op.isReconciliation = true → op.reconciles db' = [] → op.apply env db' = db' := by
  have hI : SampleInv (creditLedger env db ops) (db.run env ops) :=
    (SampleInv.fresh htrainings htargets htasks).run hops
  refine ⟨?_, ?_, creditLedger_nodup env db ops, reconciliations_nodup env db ops,
    fun _ hop => reconciles_nil hop⟩
  · intro t ht
    rw [hI.targets t ht, heldClaims_eq, add_assoc]
  · intro t ht
    rw [hI.tasks t ht, heldClaims_eq, add_assoc]

def firstTraining : List Op :=
  firstGeneration ++
    [.createTrainingWithClaim
        { now := 4, taskId := "task", trainingTaskId := "training", userId := "user"
          inputDatasetIds := ["dataset"] },
      .completeTrainingClaim 5 "training"]

theorem samples_conserved_first :
    (∀ t ∈ ((Database.ofTask generatingTask).run defaultEnv firstTraining).tasks,
      creditedTo (creditLedger defaultEnv (Database.ofTask generatingTask) firstTraining)
          (.task t.taskId) =
        t.pendingTrainingSamples +
        ((Database.ofTask generatingTask).run defaultEnv firstTraining).openClaims
          (.task t.taskId) +
        ((Database.ofTask generatingTask).run defaultEnv firstTraining).consumedClaims
          (.task t.taskId)) ∧
    ((Database.ofTask generatingTask).run defaultEnv firstTraining).consumedClaims
      (.task "task") = 5 := by
  have hops : ∀ op ∈ firstTraining, op.keepsSamples := by
    simp [firstTraining, firstGeneration, Op.keepsSamples]
  exact ⟨(samples_conserved defaultEnv (Database.ofTask generatingTask) rfl
    (fun t ht => absurd ht (Table.not_mem_empty t))
    (by simp [Table.mem_def, Database.ofTask, generatingTask]) firstTraining hops).2.1, by decide⟩

end Runs

end Sync
