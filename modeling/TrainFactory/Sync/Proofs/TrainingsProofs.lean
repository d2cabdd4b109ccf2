import TrainFactory.Sync.Trainings

/-!
# Proofs: the training transactions

What each training transaction can do: the guards under which a claim is taken, consumed or
restored, and what it then writes.
-/

namespace Sync

open Lib

variable {db : Database}

/-! ## Taking a claim -/

theorem recordClaim_cases (args : CreateTraining) (task : ExternalSyncTask) (claim : Claim) :
    (∃ e, recordClaim args task claim db = .error e) ∨
    ∃ trainings, db.trainings.insert (args.row task claim) = some trainings ∧
      recordClaim args task claim db = .ok (some (args.row task claim), { db with
        trainings := trainings
        tasks := db.tasks.update args.taskId (·.claim args.trainingTaskId) }) := by
  unfold recordClaim
  split
  · exact Or.inl ⟨_, rfl⟩
  · cases hins : db.trainings.insert (args.row task claim) with
    | none => exact Or.inl ⟨_, rfl⟩
    | some trainings => exact Or.inr ⟨trainings, rfl, rfl⟩

theorem key_emptied (t : ExternalSyncTask) :
    Keyed.key { t with pendingTrainingSamples := 0 } = Keyed.key t := rfl

theorem CreateTraining.key_claimedTask (args : CreateTraining) (t : ExternalSyncTask) :
    Keyed.key (t.claim args.trainingTaskId) = Keyed.key t := rfl

theorem CreateTraining.key_claimedTarget (args : CreateTraining) (t : ExternalSyncTrainingTarget) :
    Keyed.key (t.claim args.trainingTaskId) = Keyed.key t := rfl

def claimedForTask (args : CreateTraining) (trainings : Table ExternalSyncTraining)
    (db : Database) : Database :=
  { db with
    trainings := trainings
    tasks := (db.tasks.update args.taskId (fun t => { t with pendingTrainingSamples := 0 })
      key_emptied).update args.taskId (·.claim args.trainingTaskId) args.key_claimedTask }

def claimedForTarget (args : CreateTraining) (targetId : String)
    (trainings : Table ExternalSyncTraining) (db : Database) : Database :=
  { db with
    trainings := trainings
    targets := db.targets.update targetId (·.claim args.trainingTaskId) args.key_claimedTarget
    tasks := db.tasks.update args.taskId (·.claim args.trainingTaskId) args.key_claimedTask }

/-- `create_training_with_claim` claims the samples of an idle task, or of one of its targets while
no active target of it is busy, or changes nothing. -/
theorem createTrainingWithClaim_commit (db : Database) (args : CreateTraining) :
    (createTrainingWithClaim args db).commit db = db ∨
    ∃ task, db.tasks.lookup args.taskId = some task ∧ task.status.isDeleting = false ∧
      task.status.isBusy = false ∧
      ((∃ trainings, truthy args.targetId = false ∧
          db.trainings.insert (args.row task task.asClaim) = some trainings ∧
          (createTrainingWithClaim args db).commit db = claimedForTask args trainings db) ∨
        ∃ target trainings, truthy args.targetId = true ∧ target ∈ db.targets ∧
          some target.targetId = args.targetId ∧ target.taskId = args.taskId ∧
          target.isActive = true ∧
          (∀ t ∈ db.targets, t.taskId = args.taskId → t.isActive = true →
            t.status.isBusy = false) ∧
          db.trainings.insert (args.row task (target.asClaim task)) = some trainings ∧
          (createTrainingWithClaim args db).commit db =
            claimedForTarget args target.targetId trainings db) := by
  unfold createTrainingWithClaim
  split
  · exact Or.inl rfl
  cases htask : db.tasks.lookup args.taskId with
  | none => exact Or.inl rfl
  | some task =>
    simp only []
    split
    · exact Or.inl rfl
    split
    · exact Or.inl rfl
    rename_i hdel
    split
    · exact Or.inl rfl
    rename_i hbusy
    have hdel : task.status.isDeleting = false := by simpa using hdel
    have hbusy : task.status.isBusy = false := by simpa using hbusy
    split
    · rename_i htruthy
      unfold claimForTarget
      simp only []
      split
      · exact Or.inl rfl
      rename_i hany
      cases hfind : (activeTargets db args.taskId).find? fun t => some t.targetId = args.targetId with
      | none => exact Or.inl rfl
      | some target =>
        simp only []
        split
        · exact Or.inl rfl
        split
        · exact Or.inl rfl
        have hmem := List.mem_of_find?_eq_some hfind
        obtain ⟨htarget, hsel⟩ := Table.mem_select.mp hmem
        obtain ⟨htid, hactive⟩ : target.taskId = args.taskId ∧ target.isActive = true := by
          simpa using hsel
        rcases recordClaim_cases args task (target.asClaim task) with ⟨e, he⟩ | ⟨trainings, hins, hok⟩
        · rw [he]
          exact Or.inl rfl
        · rw [hok]
          refine Or.inr ⟨task, rfl, hdel, hbusy, Or.inr ⟨target, trainings, htruthy, htarget,
            by simpa using List.find?_some hfind, htid, hactive, ?_, hins, rfl⟩⟩
          intro t ht htt hta
          by_contra hc
          refine hany (List.any_eq_true.mpr ⟨t, Table.mem_select.mpr ⟨ht, by simp [htt, hta]⟩, ?_⟩)
          simpa using hc
    · rename_i htruthy
      unfold claimForTask
      split
      · exact Or.inl rfl
      rcases recordClaim_cases args task task.asClaim with ⟨e, he⟩ | ⟨trainings, hins, hok⟩
      · rw [he]
        exact Or.inl rfl
      · rw [hok]
        exact Or.inr ⟨task, rfl, hdel, hbusy,
          Or.inl ⟨trainings, by simpa using htruthy, hins, rfl⟩⟩

/-! ## Reconciling a claim -/

/-- An unreconciled claim: its samples are neither consumed nor restored yet. -/
def ExternalSyncTraining.isOpen (t : ExternalSyncTraining) : Bool :=
  t.status = .pending && !t.claimReconciled

theorem ExternalSyncTraining.isOpen_iff {t : ExternalSyncTraining} :
    t.isOpen = true ↔ t.status = .pending ∧ t.claimReconciled = false := by
  simp [ExternalSyncTraining.isOpen]

/-- `complete_training_claim` consumes an open claim that is owned, or reports `completed = false`
and changes nothing. -/
theorem completeTrainingClaim_cases (db : Database) (now : DateTime) (trainingTaskId : String) :
    (∃ r, completeTrainingClaim now trainingTaskId db = .ok (r, db) ∧ r.completed = false ∧
      ∀ training, db.trainings.lookup trainingTaskId = some training →
        ¬ (training.isOpen = true ∧ claimOwned db training = true)) ∨
    ∃ r training, completeTrainingClaim now trainingTaskId db =
        .ok (r, consumeClaim now training db) ∧
      r.completed = true ∧ r.deletionPending = deletionPending db training.taskId ∧
      db.trainings.lookup trainingTaskId = some training ∧
      training.isOpen = true ∧ claimOwned db training = true := by
  unfold completeTrainingClaim
  cases htr : db.trainings.lookup trainingTaskId with
  | none => exact Or.inl ⟨_, rfl, rfl, by simp⟩
  | some training =>
    simp only []
    split
    · rename_i hrec
      refine Or.inl ⟨_, rfl, rfl, ?_⟩
      rintro _ ⟨⟩ ⟨hopen, -⟩
      simp [(ExternalSyncTraining.isOpen_iff.mp hopen).2] at hrec
    split
    · rename_i hstatus
      refine Or.inl ⟨_, rfl, rfl, ?_⟩
      rintro _ ⟨⟩ ⟨hopen, -⟩
      exact hstatus (ExternalSyncTraining.isOpen_iff.mp hopen).1
    split
    · rename_i hown
      refine Or.inl ⟨_, rfl, rfl, ?_⟩
      rintro _ ⟨⟩ ⟨-, hc⟩
      exact hown hc
    · rename_i hrec hstatus hown
      exact Or.inr ⟨_, training, rfl, rfl, rfl, rfl,
        ExternalSyncTraining.isOpen_iff.mpr ⟨not_not.mp hstatus, by simpa using hrec⟩,
        not_not.mp hown⟩

/-- `fail_training_and_restore_claim` restores an open claim that is owned, or reports
`recovered = false` and changes nothing. -/
theorem failTrainingAndRestoreClaim_cases (db : Database) (now : DateTime)
    (trainingTaskId reason : String) :
    (∃ r, failTrainingAndRestoreClaim now trainingTaskId reason db = .ok (r, db) ∧
      r.recovered = false ∧ ∀ training, db.trainings.lookup trainingTaskId = some training →
        ¬ (training.isOpen = true ∧ claimOwned db training = true)) ∨
    ∃ r training, failTrainingAndRestoreClaim now trainingTaskId reason db =
        .ok (r, restoreClaim now training reason db) ∧
      r.recovered = true ∧ db.trainings.lookup trainingTaskId = some training ∧
      training.isOpen = true ∧ claimOwned db training = true := by
  unfold failTrainingAndRestoreClaim
  cases htr : db.trainings.lookup trainingTaskId with
  | none => exact Or.inl ⟨_, rfl, rfl, by simp⟩
  | some training =>
    simp only []
    split
    · rename_i hrec
      refine Or.inl ⟨_, rfl, rfl, ?_⟩
      rintro _ ⟨⟩ ⟨hopen, -⟩
      simp [(ExternalSyncTraining.isOpen_iff.mp hopen).2] at hrec
    split
    · rename_i hstatus
      refine Or.inl ⟨_, rfl, rfl, ?_⟩
      rintro _ ⟨⟩ ⟨hopen, -⟩
      exact hstatus (ExternalSyncTraining.isOpen_iff.mp hopen).1
    split
    · rename_i hown
      refine Or.inl ⟨_, rfl, rfl, ?_⟩
      rintro _ ⟨⟩ ⟨-, hc⟩
      exact hown hc
    · rename_i hrec hstatus hown
      exact Or.inr ⟨_, training, rfl, rfl, rfl,
        ExternalSyncTraining.isOpen_iff.mpr ⟨not_not.mp hstatus, by simpa using hrec⟩,
        not_not.mp hown⟩

theorem mem_targetsOf {taskId : String} {t : ExternalSyncTrainingTarget} :
    t ∈ db.targetsOf taskId ↔ t ∈ db.targets ∧ t.taskId = taskId := by
  simp [Database.targetsOf]

theorem claimTarget_eq_some {training : ExternalSyncTraining} {t : ExternalSyncTrainingTarget} :
    claimTarget db training = some t ↔
      t ∈ db.targets ∧ t.taskId = training.taskId ∧ some t.targetId = training.targetId := by
  unfold claimTarget
  constructor
  · intro h
    obtain ⟨ht, htid⟩ := mem_targetsOf.mp (List.mem_of_find?_eq_some h)
    exact ⟨ht, htid, by simpa using List.find?_some h⟩
  · rintro ⟨ht, htid, hid⟩
    cases hf : (db.targetsOf training.taskId).find? fun t => some t.targetId = training.targetId with
    | none => exact absurd (List.find?_eq_none.mp hf t (mem_targetsOf.mpr ⟨ht, htid⟩)) (by simp [hid])
    | some t' =>
      obtain ⟨ht', -⟩ := mem_targetsOf.mp (List.mem_of_find?_eq_some hf)
      have hid' : some t'.targetId = training.targetId := by simpa using List.find?_some hf
      have hkey : t'.targetId = t.targetId := Option.some.inj (hid'.trans hid.symm)
      rw [Table.eq_of_key ht' ht hkey]

theorem claimOwned_iff {training : ExternalSyncTraining} :
    claimOwned db training = true ↔
      (∃ task, db.tasks.lookup training.taskId = some task ∧
        task.currentTrainingId = some training.trainingTaskId) ∧
      (truthy training.targetId = true → ∃ t ∈ db.targets, t.taskId = training.taskId ∧
        some t.targetId = training.targetId ∧
        t.currentTrainingId = some training.trainingTaskId) := by
  unfold claimOwned
  rw [Bool.and_eq_true, Option.any_eq_true]
  have htarget : ((!truthy training.targetId || (claimTarget db training).any fun t =>
      t.taskId = training.taskId && t.currentTrainingId = some training.trainingTaskId) = true) ↔
      (truthy training.targetId = true → ∃ t ∈ db.targets, t.taskId = training.taskId ∧
        some t.targetId = training.targetId ∧
        t.currentTrainingId = some training.trainingTaskId) := by
    cases truthy training.targetId with
    | false => simp
    | true =>
      simp only [Bool.not_true, Bool.false_or, Option.any_eq_true, forall_const]
      constructor
      · rintro ⟨t, ht, hc⟩
        obtain ⟨hmem, htid, hid⟩ := claimTarget_eq_some.mp ht
        exact ⟨t, hmem, htid, hid, (by simpa using hc : _ ∧ _).2⟩
      · rintro ⟨t, hmem, htid, hid, hc⟩
        exact ⟨t, claimTarget_eq_some.mpr ⟨hmem, htid, hid⟩, by simp [htid, hc]⟩
  rw [htarget]
  simp

/-! ## Bookkeeping -/

theorem updateTrainingStatus_commit (db : Database) (now : DateTime) (trainingTaskId : String)
    (status : SyncTrainingStatus) (output : TrainingOutput) :
    (updateTrainingStatus now trainingTaskId status output db).commit db = db ∨
    ∃ training, db.trainings.lookup trainingTaskId = some training ∧
      (training.status = status ∨ status ∈ trainingStatusTransitions training.status) ∧
      (updateTrainingStatus now trainingTaskId status output db).commit db =
        { db with trainings := db.trainings.update trainingTaskId (output.write now status) } := by
  unfold updateTrainingStatus
  cases htr : db.trainings.lookup trainingTaskId with
  | none => exact Or.inl rfl
  | some training =>
    simp only []
    split
    · exact Or.inl rfl
    · rename_i hvalid
      exact Or.inr ⟨training, rfl, validateTransition_eq_ok.mp hvalid, rfl⟩

theorem markAllTrainingsAdapterUnloaded_commit (db : Database) (taskId : String)
    (filter : UnloadFilter) :
    (markAllTrainingsAdapterUnloaded taskId filter db).commit db = db ∨
    (markAllTrainingsAdapterUnloaded taskId filter db).commit db = { db with
      trainings := db.trainings.updateWhere (filter.selects taskId) ExternalSyncTraining.unload } := by
  unfold markAllTrainingsAdapterUnloaded
  split
  · exact Or.inl rfl
  · exact Or.inr rfl

end Sync
