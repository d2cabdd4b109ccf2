import TrainFactory.Sync.Proofs.SampleLedgerProofs

/-!
# Proofs: rolling a claim back

What a failed claim restores. A claim writes the training pointer of the task and of a target, and
keeps one of the two: the failure writes that one back to both.
-/

namespace Sync

open Lib

variable {db db' db'' : Database} {ledger ledger' : List Credit}

/-! ## Credits in between -/

/-- From `db` to `db'` targets and tasks are credited as the ledger says, and nothing else happens
to them or to the trainings. A task that is generating may become idle. -/
structure Credited (ledger : List Credit) (db db' : Database) : Prop where
  targets : ∀ id, db'.targets.lookup id =
    (db.targets.lookup id).map (·.credit (creditedTo ledger (.target id)))
  tasks : ∀ id t, db.tasks.lookup id = some t → t.status ≠ .generating →
    db'.tasks.lookup id = some (t.credit (creditedTo ledger (.task id)))
  trainings : db'.trainings = db.trainings
  nonneg : ∀ b, 0 ≤ creditedTo ledger b

@[simp] theorem ExternalSyncTrainingTarget.credit_zero (t : ExternalSyncTrainingTarget) :
    t.credit 0 = t := by
  simp [ExternalSyncTrainingTarget.credit]

@[simp] theorem ExternalSyncTask.credit_zero (t : ExternalSyncTask) : t.credit 0 = t := by
  simp [ExternalSyncTask.credit]

theorem ExternalSyncTrainingTarget.credit_credit (t : ExternalSyncTrainingTarget) (n m : Int) :
    (t.credit n).credit m = t.credit (n + m) := by
  simp [ExternalSyncTrainingTarget.credit, add_assoc]

theorem ExternalSyncTask.credit_credit (t : ExternalSyncTask) (n m : Int) :
    (t.credit n).credit m = t.credit (n + m) := by
  simp [ExternalSyncTask.credit, add_assoc]

theorem Credited.refl (db : Database) : Credited [] db db where
  targets := by simp
  tasks := by
    intro id t ht _
    simpa using ht
  trainings := rfl
  nonneg := fun _ => le_refl _

theorem Credited.trans (h : Credited ledger db db') (h' : Credited ledger' db' db'') :
    Credited (ledger ++ ledger') db db'' where
  targets := by
    intro id
    rw [h'.targets, h.targets, Option.map_map, creditedTo_append]
    congr 1
    funext t
    exact t.credit_credit _ _
  tasks := by
    intro id t ht hstatus
    rw [h'.tasks id _ (h.tasks id t ht hstatus) hstatus, ExternalSyncTask.credit_credit,
      creditedTo_append]
  trainings := h'.trainings.trans h.trainings
  nonneg := by
    intro b
    rw [creditedTo_append]
    exact add_nonneg (h.nonneg b) (h'.nonneg b)

theorem Credited.of_same (htargets : db'.targets = db.targets)
    (htasks : ∀ id t, db.tasks.lookup id = some t → t.status ≠ .generating →
      db'.tasks.lookup id = some t)
    (htrainings : db'.trainings = db.trainings) : Credited [] db db' where
  targets := by simp [htargets]
  tasks := by simpa using htasks
  trainings := htrainings
  nonneg := fun _ => le_refl _

theorem Credited.creditTargets (db : Database) (generationTaskId : String) (kind : OutputKind)
    (taskId phase : String) {count : Int} (hcount : 0 < count) :
    Credited (targetCredits db generationTaskId kind taskId phase count) db
      (creditTargets taskId phase count db) where
  targets := by
    intro id
    rw [Sync.creditTargets, Table.lookup_updateWhere]
    cases hl : db.targets.lookup id with
    | none => rfl
    | some t =>
      obtain ⟨ht, hid⟩ := Table.lookup_eq_some.mp hl
      have hid : t.targetId = id := hid
      rw [Option.map_some, Option.map_some, ← hid, creditedTo_targetCredits ht]
      split
      · rfl
      · rw [ExternalSyncTrainingTarget.credit_zero]
  tasks := by
    intro id t ht _
    rw [creditedTo_targetCredits_task, ExternalSyncTask.credit_zero]
    exact ht
  trainings := rfl
  nonneg := by
    intro b
    refine List.sum_nonneg fun n hn => ?_
    obtain ⟨c, hc, rfl⟩ := List.mem_map.mp hn
    obtain ⟨t, -, rfl⟩ := List.mem_map.mp (List.mem_filter.mp hc).1
    exact hcount.le

theorem Credited.creditTask (db : Database) (generationTaskId : String) (kind : OutputKind)
    (taskId : String) {count : Int} (hcount : 0 < count) :
    Credited [{ generationTaskId := generationTaskId, kind := kind
                beneficiary := .task taskId, amount := count }] db
      (creditTask taskId count db) where
  targets := by
    intro id
    simp [creditedTo, Sync.creditTask]
  tasks := by
    intro id t ht _
    rw [Sync.creditTask, Table.lookup_update]
    by_cases hid : id = taskId
    · subst hid
      rw [if_pos rfl, ht]
      simp [creditedTo]
    · have hother : ¬ taskId = id := fun h => hid h.symm
      rw [if_neg hid, ht]
      simp [creditedTo, hother]
  trainings := rfl
  nonneg := by
    intro b
    by_cases hb : Beneficiary.task taskId = b
    · simp [creditedTo, hb, hcount.le]
    · simp [creditedTo, hb]

theorem Credited.creditFinalOutput (db : Database) (g : ExternalSyncGeneration)
    (outputDatasetId : Option String) (count : Int) :
    Credited (finalCredits db g outputDatasetId count) db
      (creditFinalOutput g.taskId outputDatasetId count db) := by
  unfold finalCredits Sync.creditFinalOutput
  by_cases hc : truthy outputDatasetId ∧ count > 0
  · by_cases ht : db.targetsOf g.taskId ≠ []
    · rw [if_pos hc, if_pos hc, if_pos ht, if_pos ht]
      exact .creditTargets db _ _ _ _ hc.2
    · rw [if_pos hc, if_pos hc, if_neg ht, if_neg ht]
      exact .creditTask db _ _ _ hc.2
  · rw [if_neg hc, if_neg hc]
    exact .refl db

theorem Credited.creditQaOutput (db : Database) (g : ExternalSyncGeneration)
    (qaDatasetId : Option String) (count : Int) :
    Credited (qaCredits db g qaDatasetId count) db
      (creditQaOutput g.taskId qaDatasetId count db) := by
  unfold qaCredits Sync.creditQaOutput
  by_cases hc : truthy qaDatasetId ∧ count > 0
  · rw [if_pos hc, if_pos hc]
    exact .creditTargets db _ _ _ _ hc.2
  · rw [if_neg hc, if_neg hc]
    exact .refl db

theorem Credited.complete (now : DateTime) (db : Database) (g : ExternalSyncGeneration)
    (outputDatasetId : Option String) (count : Int) :
    Credited (finalCredits db g outputDatasetId count ++
        qaCredits db g g.qaDatasetId (max g.qaSampleCount 0)) db
      (consumeBatches now g outputDatasetId count db) := by
  have hfinal := Credited.creditFinalOutput db g outputDatasetId count
  have hqa := Credited.creditQaOutput (Sync.creditFinalOutput g.taskId outputDatasetId count db) g
    g.qaDatasetId (max g.qaSampleCount 0)
  rw [qaCredits_creditFinalOutput] at hqa
  have hidle : Credited [] (Sync.creditQaOutput g.taskId g.qaDatasetId (max g.qaSampleCount 0)
      (Sync.creditFinalOutput g.taskId outputDatasetId count db))
      (consumeBatches now g outputDatasetId count db) := by
    refine .of_same (consumeBatches_targets ..) ?_ ?_
    · intro id t ht hstatus
      rw [creditQaOutput_tasks] at ht
      rw [consumeBatches_tasks, Table.lookup_update]
      by_cases hid : id = g.taskId
      · subst hid
        rw [if_pos rfl, ht, Option.map_some, ExternalSyncTask.leaveGenerating, if_neg hstatus]
      · rw [if_neg hid]
        exact ht
    · rw [consumeBatches_trainings, creditQaOutput_trainings, creditFinalOutput_trainings]
  have hall := (hfinal.trans hqa).trans hidle
  rw [List.append_nil] at hall
  exact hall

theorem Credited.recordQa (db : Database) (g : ExternalSyncGeneration)
    (qaDatasetId : Option String) (count : Int) :
    Credited (if g.status = .completed then qaCredits db g qaDatasetId count else []) db
      (recordQaOutput g qaDatasetId count db) := by
  let written : Database := { db with
    generations := db.generations.update g.generationTaskId fun g => { g with
      qaDatasetId := qaDatasetId
      qaSampleCount := count } }
  have hwritten : Credited [] db written := .of_same rfl (fun _ _ ht _ => ht) rfl
  have hcredited : Credited (qaCredits db g qaDatasetId count) db
      (Sync.creditQaOutput g.taskId qaDatasetId count written) :=
    hwritten.trans (.creditQaOutput written g qaDatasetId count)
  unfold recordQaOutput creditsQa
  unfold Sync.creditQaOutput at hcredited
  by_cases hs : g.status = .completed
  · rw [if_pos hs]
    simpa [hs] using hcredited
  · rw [if_neg hs]
    simp only [hs, decide_false, Bool.false_and, Bool.false_eq_true, if_false]
    exact .of_same rfl (fun _ _ ht _ => ht) rfl

theorem Credited.apply (env : Env) (db : Database) {op : Op} (hop : op.isCredit = true) :
    Credited (op.credits db) db (op.apply env db) := by
  cases op with
  | completeGenerationAndConsumeBatches now generationTaskId outputDatasetId outputSampleCount =>
    simp only [Op.apply, Op.credits]
    rcases completeGeneration_cases db now generationTaskId outputDatasetId outputSampleCount with
      ⟨r, h, hr⟩ | ⟨r, g, h, hr, hg, -⟩ <;> rw [h]
    · cases db.generations.lookup generationTaskId <;> simpa [hr] using Credited.refl db
    · rw [hg]
      simp only [hr, ↓reduceIte]
      exact .complete now db g outputDatasetId _
  | updateGenerationQaOutput generationTaskId qaDatasetId qaSampleCount =>
    simp only [Op.apply, Op.credits]
    rcases updateGenerationQaOutput_cases db generationTaskId qaDatasetId qaSampleCount with
      ⟨r, h, hr⟩ | ⟨r, g, h, hr, hg, -, -⟩ <;> rw [h]
    · cases db.generations.lookup generationTaskId <;> simpa [hr] using Credited.refl db
    · rw [hg]
      simp only [hr, true_and]
      exact .recordQa db g qaDatasetId _
  | _ => cases hop

theorem Credited.run (env : Env) (db : Database) {ops : List Op}
    (hops : ∀ op ∈ ops, op.isCredit = true) :
    Credited (creditLedger env db ops) db (db.run env ops) := by
  induction ops generalizing db with
  | nil => exact .refl db
  | cons op ops ih =>
    have hop := Credited.apply env db (hops op (List.mem_cons_self ..))
    exact hop.trans (ih (op.apply env db) fun op' hop' => hops op' (List.mem_cons_of_mem _ hop'))

/-! ## Claim and failure -/

theorem lookup_of_recordClaim {args : CreateTraining} {task : ExternalSyncTask} {claim : Claim}
    {training : ExternalSyncTraining}
    (h : recordClaim args task claim db = .ok (some training, db')) :
    db'.trainings.lookup args.trainingTaskId = some training := by
  have hcases := @recordClaim_cases db args task claim
  rcases hcases with ⟨e, he⟩ | ⟨trainings, hins, hok⟩
  · rw [he] at h
    cases h
  · rw [hok] at h
    cases h
    exact (Table.lookup_insert hins _).trans (if_pos rfl)

theorem lookup_of_createTraining {args : CreateTraining} {training : ExternalSyncTraining}
    (h : createTrainingWithClaim args db = .ok (some training, db')) :
    db'.trainings.lookup args.trainingTaskId = some training := by
  unfold createTrainingWithClaim at h
  cases hexisting : db.trainings.lookup args.trainingTaskId with
  | some existing =>
    rw [hexisting] at h
    cases h
    exact hexisting
  | none =>
    rw [hexisting] at h
    cases htask : db.tasks.lookup args.taskId with
    | none =>
      rw [htask] at h
      cases h
    | some task =>
      rw [htask] at h
      simp only [] at h
      split_ifs at h
      · cases h
      · unfold claimForTarget at h
        simp only [] at h
        split_ifs at h
        · cases h
        · cases htarget : (activeTargets db args.taskId).find? fun t =>
              some t.targetId = args.targetId with
          | none =>
            rw [htarget] at h
            cases h
          | some target =>
            rw [htarget] at h
            simp only [] at h
            split_ifs at h
            · cases h
            · exact lookup_of_recordClaim h
            · cases h
      · unfold claimForTask at h
        split_ifs at h
        · cases h
        · exact lookup_of_recordClaim h

theorem createTrainingWithClaim_cases {args : CreateTraining} {training : ExternalSyncTraining}
    (h : createTrainingWithClaim args db = .ok (some training, db'))
    (hnew : db.trainings.lookup args.trainingTaskId = none) :
    ∃ task, db.tasks.lookup args.taskId = some task ∧ task.status.isDeleting = false ∧
      ((∃ trainings, truthy args.targetId = false ∧
          db.trainings.insert (args.row task task.asClaim) = some trainings ∧
          db' = claimedForTask args trainings db) ∨
        ∃ target trainings, truthy args.targetId = true ∧ target ∈ db.targets ∧
          some target.targetId = args.targetId ∧ target.taskId = args.taskId ∧
          db.trainings.insert (args.row task (target.asClaim task)) = some trainings ∧
          db' = claimedForTarget args target.targetId trainings db) := by
  have hcommit : (createTrainingWithClaim args db).commit db = db' := by
    rw [h, Outcome.commit_ok]
  rcases createTrainingWithClaim_commit db args with
    hsame | ⟨task, htask, hdeleting, -, ⟨trainings, htruthy, hins, hdb⟩ |
      ⟨target, trainings, htruthy, htarget, hid, htid, -, -, hins, hdb⟩⟩
  · have hlookup := lookup_of_createTraining h
    rw [← hcommit, hsame, hnew] at hlookup
    cases hlookup
  · exact ⟨task, htask, hdeleting, Or.inl ⟨trainings, htruthy, hins, hcommit.symm.trans hdb⟩⟩
  · exact ⟨task, htask, hdeleting, Or.inr ⟨target, trainings, htruthy, htarget, hid, htid, hins,
      hcommit.symm.trans hdb⟩⟩

/-- The task and the target of a claim are what they were before it, with the credits of the ledger;
the task reports the failure. -/
structure RolledBack (ledger : List Credit) (args : CreateTraining) (reason : String)
    (db db' : Database) : Prop where
  task : ∀ t, db.tasks.lookup args.taskId = some t → db'.tasks.lookup args.taskId =
    some { t.credit (creditedTo ledger (.task args.taskId)) with
      status := .error
      errorMessage := some reason }
  target : truthy args.targetId = true → ∀ t, t ∈ db.targets → some t.targetId = args.targetId →
    db'.targets.lookup t.targetId = some (t.credit (creditedTo ledger (.target t.targetId)))

/-- The task and the target that a claim is for point to the same training, and no counter that it
empties is negative. -/
structure PointsAlike (args : CreateTraining) (db : Database) : Prop where
  task : truthy args.targetId = false → ∀ t, db.tasks.lookup args.taskId = some t →
    0 ≤ t.pendingTrainingSamples
  target : truthy args.targetId = true → ∀ t, t ∈ db.targets → some t.targetId = args.targetId →
    0 ≤ t.pendingTrainingSamples ∧ ∀ task, db.tasks.lookup args.taskId = some task →
      task.currentTrainingId = t.currentTrainingId

theorem max_add_max_eq_iff {n p : Int} (hn : 0 ≤ n) : max (0 + n) 0 + max (max p 0) 0 = p + n ↔
    0 ≤ p := by
  omega

theorem fail_of_owned {training : ExternalSyncTraining}
    (htraining : db.trainings.lookup training.trainingTaskId = some training)
    (hopen : training.isOpen = true) (howned : claimOwned db training = true) (now : DateTime)
    (reason : String) :
    (failTrainingAndRestoreClaim now training.trainingTaskId reason db).commit db =
      restoreClaim now training reason db := by
  rcases failTrainingAndRestoreClaim_cases db now training.trainingTaskId reason with
    ⟨r, -, -, hnot⟩ | ⟨r, training', hok, -, htraining', -⟩
  · exact absurd ⟨hopen, howned⟩ (hnot training htraining)
  · rw [htraining] at htraining'
    obtain rfl := Option.some.inj htraining'
    rw [hok, Outcome.commit_ok]

section Claimed

variable {args : CreateTraining} {task : ExternalSyncTask} {trainings : Table ExternalSyncTraining}

theorem fail_claimedForTask (htask : db.tasks.lookup args.taskId = some task)
    (htruthy : truthy args.targetId = false)
    (hins : db.trainings.insert (args.row task task.asClaim) = some trainings)
    (hcredited : Credited ledger (claimedForTask args trainings db) db') (now : DateTime)
    (reason : String) :
    ((failTrainingAndRestoreClaim now args.trainingTaskId reason db').commit db').tasks.lookup
        args.taskId =
      some { task.credit (creditedTo ledger (.task args.taskId)) with
        pendingTrainingSamples := max (0 + creditedTo ledger (.task args.taskId)) 0 +
          max (max task.pendingTrainingSamples 0) 0
        status := .error
        errorMessage := some reason } := by
  have htraining : db'.trainings.lookup args.trainingTaskId =
      some (args.row task task.asClaim) := by
    rw [hcredited.trainings]
    exact (Table.lookup_insert hins _).trans (if_pos rfl)
  have hclaimed : (claimedForTask args trainings db).tasks.lookup args.taskId =
      some (({ task with pendingTrainingSamples := 0 } : ExternalSyncTask).claim
        args.trainingTaskId) := by
    rw [claimedForTask, Table.lookup_update, if_pos rfl, Table.lookup_update, if_pos rfl, htask]
    rfl
  have hafter := hcredited.tasks args.taskId _ hclaimed (by simp [ExternalSyncTask.claim])
  have howned : claimOwned db' (args.row task task.asClaim) = true :=
    claimOwned_iff.mpr ⟨⟨_, hafter, rfl⟩, fun h => by
      rw [show (args.row task task.asClaim).targetId = args.targetId from rfl, htruthy] at h
      cases h⟩
  have hfail := fail_of_owned htraining rfl howned now reason
  rw [show (args.row task task.asClaim).trainingTaskId = args.trainingTaskId from rfl] at hfail
  rw [hfail, restoreClaim, show (args.row task task.asClaim).taskId = args.taskId from rfl,
    Table.lookup_update, if_pos rfl, hafter, Option.map_some]
  simp [ExternalSyncTask.restore, ExternalSyncTask.claim, ExternalSyncTask.credit,
    CreateTraining.row, ExternalSyncTask.asClaim, htruthy, SyncStatus.isDeleting]

theorem fail_claimedForTarget {target : ExternalSyncTrainingTarget}
    (htask : db.tasks.lookup args.taskId = some task) (htruthy : truthy args.targetId = true)
    (htarget : target ∈ db.targets) (hid : some target.targetId = args.targetId)
    (htid : target.taskId = args.taskId)
    (hins : db.trainings.insert (args.row task (target.asClaim task)) = some trainings)
    (hcredited : Credited ledger (claimedForTarget args target.targetId trainings db) db')
    (now : DateTime) (reason : String) :
    let failed := (failTrainingAndRestoreClaim now args.trainingTaskId reason db').commit db'
    failed.tasks.lookup args.taskId =
        some { task.credit (creditedTo ledger (.task args.taskId)) with
          currentTrainingId := target.currentTrainingId
          status := .error
          errorMessage := some reason } ∧
      failed.targets.lookup target.targetId =
        some { target.credit (creditedTo ledger (.target target.targetId)) with
          pendingTrainingSamples := max (0 + creditedTo ledger (.target target.targetId)) 0 +
            max (max target.pendingTrainingSamples 0) 0 } := by
  have hrow : ∀ claim, (args.row task claim).targetId = args.targetId := fun _ => rfl
  have htraining : db'.trainings.lookup args.trainingTaskId =
      some (args.row task (target.asClaim task)) := by
    rw [hcredited.trainings]
    exact (Table.lookup_insert hins _).trans (if_pos rfl)
  have hclaimed : (claimedForTarget args target.targetId trainings db).tasks.lookup args.taskId =
      some (task.claim args.trainingTaskId) := by
    rw [claimedForTarget, Table.lookup_update, if_pos rfl, htask, Option.map_some]
  have hclaimed' : (claimedForTarget args target.targetId trainings db).targets.lookup
      target.targetId = some (target.claim args.trainingTaskId) := by
    have hlookup : db.targets.lookup target.targetId = some target := Table.lookup_of_mem htarget
    rw [claimedForTarget, Table.lookup_update, if_pos rfl, hlookup, Option.map_some]
  have hafter := hcredited.tasks args.taskId _ hclaimed (by simp [ExternalSyncTask.claim])
  have hafter' := hcredited.targets target.targetId
  rw [hclaimed', Option.map_some] at hafter'
  have howned : claimOwned db' (args.row task (target.asClaim task)) = true :=
    claimOwned_iff.mpr ⟨⟨_, hafter, rfl⟩, fun _ =>
      ⟨_, (Table.lookup_eq_some.mp hafter').1, htid, hid, rfl⟩⟩
  have hfail := fail_of_owned htraining rfl howned now reason
  rw [show (args.row task (target.asClaim task)).trainingTaskId = args.trainingTaskId from rfl]
    at hfail
  intro failed
  constructor
  · show ((failTrainingAndRestoreClaim now args.trainingTaskId reason db').commit
      db').tasks.lookup args.taskId = _
    rw [hfail, restoreClaim,
      show (args.row task (target.asClaim task)).taskId = args.taskId from rfl,
      Table.lookup_update, if_pos rfl, hafter, Option.map_some]
    simp [ExternalSyncTask.restore, ExternalSyncTask.claim, ExternalSyncTask.credit,
      CreateTraining.row, ExternalSyncTrainingTarget.asClaim, htruthy, SyncStatus.isDeleting]
  · show ((failTrainingAndRestoreClaim now args.trainingTaskId reason db').commit
      db').targets.lookup target.targetId = _
    rw [hfail, restoreClaim]
    simp only [hrow, htruthy, if_true]
    rw [Table.lookup_updateWhere, hafter', Option.map_some]
    simp [ExternalSyncTrainingTarget.restore, ExternalSyncTrainingTarget.claim,
      ExternalSyncTrainingTarget.credit, CreateTraining.row, ExternalSyncTrainingTarget.asClaim,
      htid, hid]

end Claimed

/-- A claim that succeeds, any credits, and its failure: the claim is rolled back exactly if the
task and the target pointed to the same training before. -/
theorem rolledBack_iff (env : Env) (db db₁ : Database) (args : CreateTraining)
    (training : ExternalSyncTraining)
    (hclaim : createTrainingWithClaim args db = .ok (some training, db₁))
    (hnew : db.trainings.lookup args.trainingTaskId = none) (credits : List Op)
    (hcredits : ∀ op ∈ credits, op.isCredit = true) (now : DateTime) (reason : String) :
    let db₂ := db₁.run env credits
    RolledBack (creditLedger env db₁ credits) args reason db
        ((failTrainingAndRestoreClaim now args.trainingTaskId reason db₂).commit db₂) ↔
      PointsAlike args db := by
  intro db₂
  have hcredited : Credited (creditLedger env db₁ credits) db₁ db₂ := .run env db₁ hcredits
  generalize creditLedger env db₁ credits = ledger at hcredited
  obtain ⟨task, htask, -, ⟨trainings, htruthy, hins, rfl⟩ |
    ⟨target, trainings, htruthy, htarget, hid, htid, hins, rfl⟩⟩ :=
      createTrainingWithClaim_cases hclaim hnew
  · have hfail := fail_claimedForTask htask htruthy hins hcredited now reason
    have hn := hcredited.nonneg (.task args.taskId)
    constructor
    · intro hrolled
      refine ⟨fun _ t ht => ?_, fun h => ?_⟩
      · have hback := hrolled.task t ht
        rw [htask] at ht
        obtain rfl := Option.some.inj ht
        rw [hfail, Option.some.injEq] at hback
        exact (max_add_max_eq_iff hn).mp (congrArg ExternalSyncTask.pendingTrainingSamples hback)
      · rw [htruthy] at h
        cases h
    · intro halike
      refine ⟨fun t ht => ?_, fun h => ?_⟩
      · have hp := halike.task htruthy t ht
        rw [htask] at ht
        obtain rfl := Option.some.inj ht
        rw [hfail, (max_add_max_eq_iff hn).mpr hp]
        rfl
      · rw [htruthy] at h
        cases h
  · obtain ⟨hfail, hfail'⟩ :=
      fail_claimedForTarget htask htruthy htarget hid htid hins hcredited now reason
    have hn := hcredited.nonneg (.target target.targetId)
    have hunique : ∀ t ∈ db.targets, some t.targetId = args.targetId → t = target :=
      fun t ht hid' => Table.eq_of_key ht htarget (Option.some.inj (hid'.trans hid.symm))
    constructor
    · intro hrolled
      refine ⟨fun h => ?_, fun _ t ht hid' => ?_⟩
      · rw [htruthy] at h
        cases h
      · obtain rfl := hunique t ht hid'
        have hback := hrolled.target htruthy t ht hid'
        have hback' := hrolled.task task htask
        rw [hfail', Option.some.injEq] at hback
        rw [hfail, Option.some.injEq] at hback'
        refine ⟨(max_add_max_eq_iff hn).mp
          (congrArg ExternalSyncTrainingTarget.pendingTrainingSamples hback), ?_⟩
        intro task' htask'
        rw [htask] at htask'
        obtain rfl := Option.some.inj htask'
        exact (congrArg ExternalSyncTask.currentTrainingId hback').symm
    · intro halike
      obtain ⟨hp, hsame⟩ := halike.target htruthy target htarget hid
      refine ⟨fun t ht => ?_, fun _ t ht hid' => ?_⟩
      · rw [htask] at ht
        obtain rfl := Option.some.inj ht
        rw [hfail, ← hsame task htask]
        rfl
      · obtain rfl := hunique t ht hid'
        rw [hfail', (max_add_max_eq_iff hn).mpr hp]
        rfl

def readyTarget (targetId : String) : ExternalSyncTrainingTarget where
  targetId := targetId
  taskId := "task"
  targetName := targetId
  pendingTrainingSamples := 5
  totalTrainingSamples := 5
  status := .ready

def claimFor (targetId trainingTaskId : String) : CreateTraining :=
  { now := 4, taskId := "task", trainingTaskId := trainingTaskId, userId := "user"
    inputDatasetIds := [], targetId := some targetId }

def trainedTarget : Database := { Database.ofTask { generatingTask with
    status := .idle
    currentTrainingId := some "first" } with
  targets := ⟨[{ readyTarget "a" with currentTrainingId := some "first" }, readyTarget "b"],
    by decide⟩ }

/-- The failure of the first training of a target takes the task's pointer to the training of the
other one away. -/
theorem trainedTarget_not_rolledBack :
    ¬ RolledBack [] (claimFor "b" "second") "stopped" trainedTarget
      (trainedTarget.run defaultEnv [.createTrainingWithClaim (claimFor "b" "second"),
        .failTrainingAndRestoreClaim 5 "second" "stopped"]) := by
  intro hrolled
  have hback := hrolled.task _ rfl
  have hlost : ((trainedTarget.run defaultEnv [.createTrainingWithClaim (claimFor "b" "second"),
      .failTrainingAndRestoreClaim 5 "second" "stopped"]).tasks.lookup "task").map
        ExternalSyncTask.currentTrainingId = some none := by decide
  rw [show "task" = (claimFor "b" "second").taskId from rfl, hback] at hlost
  cases hlost

def generatingTargets : Database :=
  ({ Database.ofTask generatingTask with
    targets := ⟨[readyTarget "a", readyTarget "b"], by decide⟩ } : Database).run defaultEnv
      (firstGeneration.take 3)

def firstCompletion : List Op :=
  [.completeGenerationAndConsumeBatches 3 "generation" (some "dataset") 5]

/-- The first claim for a target is rolled back, and the samples of a generation that completes in
between are kept. -/
theorem generatingTargets_rolledBack :
    let claimed := generatingTargets.run defaultEnv
      [.createTrainingWithClaim (claimFor "b" "second")]
    let ledger := creditLedger defaultEnv claimed firstCompletion
    creditedTo ledger (.target "b") = 5 ∧
    RolledBack ledger (claimFor "b" "second") "stopped" generatingTargets
      ((failTrainingAndRestoreClaim 5 "second" "stopped"
        (claimed.run defaultEnv firstCompletion)).commit
          (claimed.run defaultEnv firstCompletion)) := by
  intro claimed ledger
  refine ⟨by decide, ?_⟩
  refine (rolledBack_iff defaultEnv generatingTargets claimed (claimFor "b" "second") _ rfl rfl
    firstCompletion (by simp [firstCompletion, Op.isCredit]) 5 "stopped").mpr ⟨fun h => ?_, ?_⟩
  · cases h
  · intro _ t ht _
    have hrows : t ∈ [readyTarget "a", readyTarget "b"] := ht
    refine ⟨?_, fun task htask => ?_⟩
    · rcases List.mem_cons.mp hrows with rfl | hrows
      · decide
      · obtain rfl := List.mem_singleton.mp hrows
        decide
    · cases htask
      rcases List.mem_cons.mp hrows with rfl | hrows
      · rfl
      · obtain rfl := List.mem_singleton.mp hrows
        rfl

end Sync
