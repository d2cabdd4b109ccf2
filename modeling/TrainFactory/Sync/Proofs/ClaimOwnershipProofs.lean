import TrainFactory.Sync.Proofs.OperationsProofs

/-!
# Proofs: which claims stay reconcilable

A new claim is refused while the parent is `TRAINING` or `LOADING_ADAPTER`, or under deletion; the
pointers of the parent and of the target then name the training of the open claim. The status is the
only guard: a status write that the transition table allows can free the parent while the claim is
open, and then the next claim takes the pointers over.
-/

namespace Sync

open Lib

/-- At most one claim of the task is open, and it can be consumed as well as restored. -/
structure ClaimsReconcilable (db : Database) (taskId : String) : Prop where
  unique : ∀ t ∈ db.trainings, ∀ t' ∈ db.trainings, t.taskId = taskId → t'.taskId = taskId →
    t.isOpen = true → t'.isOpen = true → t = t'
  owned : ∀ t ∈ db.trainings, t.taskId = taskId → t.isOpen = true → claimOwned db t = true
  consumable : ∀ t ∈ db.trainings, t.taskId = taskId → t.isOpen = true → ∀ now, ∃ r db',
    completeTrainingClaim now t.trainingTaskId db = .ok (r, db') ∧ r.completed = true
  restorable : ∀ t ∈ db.trainings, t.taskId = taskId → t.isOpen = true → ∀ now reason, ∃ r db',
    failTrainingAndRestoreClaim now t.trainingTaskId reason db = .ok (r, db') ∧ r.recovered = true

/-- The transactions of the claim protocol, and `update_task` with a status and other columns, except
the pointer to the training and the targets. -/
def Op.isClaimStep : Op → Prop
  | .createTrainingWithClaim _ => True
  | .completeTrainingClaim .. => True
  | .failTrainingAndRestoreClaim .. => True
  | .updateTask _ args => args.patch.currentTrainingId = none ∧ args.trainingTargets = none
  | _ => False

/-- The operation writes a status that the transition table allows and that accepts new claims, while
a claim of the task is open. -/
def Op.freesClaim (db : Database) : Op → Prop
  | .updateTask _ args => ∃ task status, db.tasks.lookup args.taskId = some task ∧
    args.patch.status = some status ∧ status ∈ taskStatusTransitions task.status ∧
    status.isBusy = false ∧ status.isDeleting = false ∧
    ∃ t ∈ db.trainings, t.taskId = args.taskId ∧ t.isOpen = true
  | _ => False

/-- The claim is guarded: its parent refuses other claims, and parent and target point to it. -/
structure Guarded (db : Database) (t : ExternalSyncTraining) : Prop where
  parent : ∃ task, db.tasks.lookup t.taskId = some task ∧
    task.currentTrainingId = some t.trainingTaskId ∧
    (task.status.isBusy = true ∨ task.status.isDeleting = true)
  target : truthy t.targetId = true → ∃ target ∈ db.targets, target.taskId = t.taskId ∧
    some target.targetId = t.targetId ∧ target.currentTrainingId = some t.trainingTaskId

def GuardInv (db : Database) : Prop := ∀ t ∈ db.trainings, t.isOpen = true → Guarded db t

section Steps

variable {db db' : Database} {env : Env}

theorem GuardInv.unique (hI : GuardInv db) {t t' : ExternalSyncTraining} (ht : t ∈ db.trainings)
    (ht' : t' ∈ db.trainings) (htid : t.taskId = t'.taskId) (hopen : t.isOpen = true)
    (hopen' : t'.isOpen = true) : t = t' := by
  obtain ⟨task, htask, hcur, -⟩ := (hI t ht hopen).parent
  obtain ⟨task', htask', hcur', -⟩ := (hI t' ht' hopen').parent
  rw [htid, htask'] at htask
  cases htask
  exact Table.eq_of_key ht ht' (Option.some.inj (hcur.symm.trans hcur'))

theorem Guarded.owned {t : ExternalSyncTraining} (h : Guarded db t) : claimOwned db t = true := by
  obtain ⟨task, htask, hcur, -⟩ := h.parent
  exact claimOwned_iff.mpr ⟨⟨task, htask, hcur⟩, h.target⟩

theorem GuardInv.reconcilable (hI : GuardInv db) (taskId : String) :
    ClaimsReconcilable db taskId := by
  refine ⟨?_, ?_, ?_, ?_⟩
  · intro t ht t' ht' hid hid' hopen hopen'
    exact hI.unique ht ht' (hid.trans hid'.symm) hopen hopen'
  · exact fun t ht _ hopen => (hI t ht hopen).owned
  · intro t ht _ hopen now
    rcases completeTrainingClaim_cases db now t.trainingTaskId with
      ⟨r, -, -, hnot⟩ | ⟨r, training, h, hr, -⟩
    · exact absurd ⟨hopen, (hI t ht hopen).owned⟩ (hnot t (Table.lookup_of_mem ht))
    · exact ⟨r, _, h, hr⟩
  · intro t ht _ hopen now reason
    rcases failTrainingAndRestoreClaim_cases db now t.trainingTaskId reason with
      ⟨r, -, -, hnot⟩ | ⟨r, training, h, hr, -⟩
    · exact absurd ⟨hopen, (hI t ht hopen).owned⟩ (hnot t (Table.lookup_of_mem ht))
    · exact ⟨r, _, h, hr⟩

theorem Guarded.frame {t : ExternalSyncTraining} (h : Guarded db t)
    (htask : db'.tasks.lookup t.taskId = db.tasks.lookup t.taskId)
    (htargets : ∀ target ∈ db.targets, target.taskId = t.taskId → ∃ target' ∈ db'.targets,
      target'.taskId = target.taskId ∧ target'.targetId = target.targetId ∧
      target'.currentTrainingId = target.currentTrainingId) : Guarded db' t := by
  refine ⟨by rw [htask]; exact h.parent, fun htruthy => ?_⟩
  obtain ⟨target, hmem, htid, hid, hcur⟩ := h.target htruthy
  obtain ⟨target', hmem', htid', hid', hcur'⟩ := htargets target hmem htid
  exact ⟨target', hmem', htid'.trans htid, hid' ▸ hid, hcur'.trans hcur⟩

theorem targets_frame {p : ExternalSyncTrainingTarget → Bool}
    {f : ExternalSyncTrainingTarget → ExternalSyncTrainingTarget}
    (hf : ∀ t, Keyed.key (f t) = Keyed.key t) {taskId : String}
    (hkeep : ∀ t ∈ db.targets, t.taskId = taskId → p t = true →
      (f t).taskId = t.taskId ∧ (f t).currentTrainingId = t.currentTrainingId) :
    ∀ target ∈ db.targets, target.taskId = taskId → ∃ target' ∈ db.targets.updateWhere p f hf,
      target'.taskId = target.taskId ∧ target'.targetId = target.targetId ∧
      target'.currentTrainingId = target.currentTrainingId := by
  intro target hmem htid
  refine ⟨_, Table.mem_updateWhere.mpr ⟨target, hmem, rfl⟩, ?_⟩
  by_cases hp : p target = true
  · rw [if_pos hp]
    obtain ⟨h1, h2⟩ := hkeep target hmem htid hp
    exact ⟨h1, hf target, h2⟩
  · rw [if_neg hp]
    exact ⟨rfl, rfl, rfl⟩

theorem GuardInv.create (hI : GuardInv db) (args : CreateTraining) :
    GuardInv ((createTrainingWithClaim args db).commit db) := by
  rcases createTrainingWithClaim_commit db args with
    h | ⟨task, htask, hdel, hbusy, hclaimed⟩
  · rw [h]
    exact hI
  have hother : ∀ t ∈ db.trainings, t.isOpen = true → t.taskId ≠ args.taskId := by
    intro t ht hopen hid
    obtain ⟨task', htask', -, hguard⟩ := (hI t ht hopen).parent
    rw [hid, htask] at htask'
    cases htask'
    simp [hdel, hbusy] at hguard
  obtain ⟨hmem, hkey⟩ := Table.lookup_eq_some.mp htask
  rcases hclaimed with ⟨trainings, htruthy, hins, h⟩ |
    ⟨target, trainings, htruthy, htarget, hid, htid, -, -, hins, h⟩ <;> rw [h]
  · intro t ht hopen
    rcases (Table.mem_insert hins).mp ht with ht | rfl
    · refine (hI t ht hopen).frame ?_ fun target hmem _ => ⟨target, hmem, rfl, rfl, rfl⟩
      dsimp only [claimedForTask]
      rw [Table.lookup_update, if_neg (hother t ht hopen), Table.lookup_update,
        if_neg (hother t ht hopen)]
    · refine ⟨⟨({ task with pendingTrainingSamples := 0 } : ExternalSyncTask).claim
        args.trainingTaskId, ?_, rfl, Or.inl rfl⟩, ?_⟩
      · dsimp only [claimedForTask, CreateTraining.row]
        rw [Table.lookup_update, if_pos rfl, Table.lookup_update, if_pos rfl, htask]
        rfl
      · intro hc
        have hc : truthy args.targetId = true := hc
        rw [htruthy] at hc
        cases hc
  · intro t ht hopen
    rcases (Table.mem_insert hins).mp ht with ht | rfl
    · have hne := hother t ht hopen
      refine (hI t ht hopen).frame ?_ (targets_frame (by intro _; rfl) ?_)
      · dsimp only [claimedForTarget]
        rw [Table.lookup_update, if_neg hne]
      · intro t' ht' htid' hp
        have hp : Keyed.key t' = target.targetId := by simpa using hp
        obtain rfl : t' = target := Table.eq_of_key ht' htarget hp
        exact absurd (htid'.symm.trans htid) hne
    · refine ⟨⟨task.claim args.trainingTaskId, ?_, rfl, Or.inl rfl⟩, fun _ => ?_⟩
      · dsimp only [claimedForTarget, CreateTraining.row]
        rw [Table.lookup_update, if_pos rfl, htask]
        rfl
      · refine ⟨target.claim args.trainingTaskId, ?_, htid, hid, rfl⟩
        dsimp only [claimedForTarget]
        exact Table.mem_update.mpr ⟨target, htarget, by simp⟩

theorem open_of_reconcile (hI : GuardInv db) {training : ExternalSyncTraining}
    (hmem : training ∈ db.trainings) (hopen : training.isOpen = true) {now : DateTime}
    {status : SyncTrainingStatus}
    (hf : ∀ t, Keyed.key (ExternalSyncTraining.reconcile now status t) = Keyed.key t)
    {t : ExternalSyncTraining}
    (ht : t ∈ db.trainings.update training.trainingTaskId (·.reconcile now status) hf)
    (hopent : t.isOpen = true) : t ∈ db.trainings ∧ t.taskId ≠ training.taskId := by
  obtain ⟨t₀, ht₀, rfl⟩ := Table.mem_update.mp ht
  by_cases hid : Keyed.key t₀ = training.trainingTaskId
  · rw [if_pos hid] at hopent
    simp [ExternalSyncTraining.isOpen, ExternalSyncTraining.reconcile] at hopent
  · rw [if_neg hid] at hopent ⊢
    refine ⟨ht₀, fun htid => hid ?_⟩
    rw [hI.unique ht₀ hmem htid hopent hopen]
    rfl

theorem GuardInv.consume (hI : GuardInv db) (now : DateTime) {training : ExternalSyncTraining}
    (hmem : training ∈ db.trainings) (hopen : training.isOpen = true) :
    GuardInv (consumeClaim now training db) := by
  intro t ht hopent
  obtain ⟨hmemt, hne⟩ := open_of_reconcile hI hmem hopen (by intro _; rfl) ht hopent
  refine (hI t hmemt hopent).frame ?_ ?_
  · unfold consumeClaim
    simp only []
    split
    · rfl
    · rw [Table.lookup_update, if_neg hne]
  · unfold consumeClaim
    simp only []
    split
    · exact targets_frame (by intro _; rfl) fun _ _ _ _ => ⟨rfl, rfl⟩
    · exact fun target hmem _ => ⟨target, hmem, rfl, rfl, rfl⟩

theorem GuardInv.restore (hI : GuardInv db) (now : DateTime) {training : ExternalSyncTraining}
    (hmem : training ∈ db.trainings) (hopen : training.isOpen = true) (reason : String) :
    GuardInv (restoreClaim now training reason db) := by
  intro t ht hopent
  obtain ⟨hmemt, hne⟩ := open_of_reconcile hI hmem hopen (by intro _; rfl) ht hopent
  refine (hI t hmemt hopent).frame ?_ ?_
  · dsimp only [restoreClaim]
    rw [Table.lookup_update, if_neg hne]
  · unfold restoreClaim
    simp only []
    split
    · refine targets_frame (by intro _; rfl) fun target _ htid hp => ?_
      simp only [Bool.and_eq_true, decide_eq_true_eq] at hp
      exact absurd (htid.symm.trans hp.1) hne
    · exact fun target hmem _ => ⟨target, hmem, rfl, rfl, rfl⟩

theorem writeTask_lookup_self {legacyTrainingTargetId : String → String} {p : TaskPatch}
    {task : ExternalSyncTask} {targets : List ExternalSyncTrainingTarget}
    (htask : db.tasks.lookup task.taskId = some task) :
    ∃ n, (writeTask legacyTrainingTargetId p none task targets db).2.tasks.lookup task.taskId =
      some ((p.apply task).setPending n) := by
  unfold writeTask invalidateFetchedBatches
  simp only []
  have hpatched : (db.tasks.update task.taskId
      (patchedTask legacyTrainingTargetId p none targets)
      (patchedTask_taskId legacyTrainingTargetId p none targets)).lookup task.taskId =
      some (p.apply task) := by
    rw [Table.lookup_update, if_pos rfl, htask]
    rfl
  split
  · split
    · exact ⟨(p.apply task).pendingRecordCount, hpatched⟩
    · rw [Table.lookup_update, if_pos rfl, hpatched]
      exact ⟨_, rfl⟩
  · exact ⟨(p.apply task).pendingRecordCount, hpatched⟩

theorem GuardInv.updateTask (hI : GuardInv db) (verdict : DependencyVerdict) (args : UpdateTask)
    (hcurrent : args.patch.currentTrainingId = none) (hnone : args.trainingTargets = none)
    (hfree : ¬ (Op.updateTask verdict args).freesClaim db) :
    GuardInv ((Op.updateTask verdict args).apply env db) := by
  simp only [Op.apply]
  rcases updateTask_commit db env.legacyTrainingTargetId verdict args with
    h | ⟨task, final, written, htask, hdel, hstatus, hfinal, hwritten, h⟩ <;> rw [h]
  · exact hI
  rw [hnone] at hfinal
  obtain rfl : none = final := Except.ok.inj hfinal
  obtain rfl := replaceTargets_none hwritten
  obtain ⟨-, hkey⟩ := Table.lookup_eq_some.mp htask
  have hkey : task.taskId = args.taskId := hkey
  intro t ht hopen
  have ht : t ∈ db.trainings := by
    rw [← @writeTask_trainings db]
    exact ht
  have hguarded := hI t ht hopen
  by_cases hid : t.taskId = args.taskId
  · obtain ⟨task', htask', hcur, hguard⟩ := hguarded.parent
    rw [hid, htask] at htask'
    cases htask'
    obtain ⟨n, hlookup⟩ := @writeTask_lookup_self db env.legacyTrainingTargetId args.patch task
      (db.targetsOf args.taskId) (hkey ▸ htask)
    refine ⟨⟨(args.patch.apply task).setPending n, ?_, ?_, ?_⟩, hguarded.target⟩
    · rw [hid, ← hkey]
      exact hkey ▸ hlookup
    · show args.patch.currentTrainingId.getD task.currentTrainingId = _
      rw [hcurrent]
      exact hcur
    · show (args.patch.status.getD task.status).isBusy = true ∨
        (args.patch.status.getD task.status).isDeleting = true
      cases hs : args.patch.status with
      | none => exact hguard
      | some status =>
        rw [hs] at hstatus
        by_contra hc
        obtain ⟨hb, hd⟩ := not_or.mp hc
        rcases hstatus with heq | hallowed
        · rw [heq] at hguard
          exact hc hguard
        · exact hfree ⟨task, status, htask, hs, hallowed, by simpa using hb, by simpa using hd,
            t, ht, hid, hopen⟩
  · refine hguarded.frame ?_ fun target hmem _ => ⟨target, hmem, rfl, rfl, rfl⟩
    exact writeTask_lookup_of_ne (by rw [hkey]; exact hid)

theorem GuardInv.apply (hI : GuardInv db) {op : Op} (hop : op.isClaimStep)
    (hfree : ¬ op.freesClaim db) : GuardInv (op.apply env db) := by
  cases op with
  | createTrainingWithClaim args => exact hI.create args
  | completeTrainingClaim now trainingTaskId =>
    simp only [Op.apply]
    rcases completeTrainingClaim_cases db now trainingTaskId with
      ⟨r, h, -⟩ | ⟨r, training, h, -, -, htr, hopen, -⟩ <;> rw [h]
    · exact hI
    · exact hI.consume now (Table.lookup_eq_some.mp htr).1 hopen
  | failTrainingAndRestoreClaim now trainingTaskId reason =>
    simp only [Op.apply]
    rcases failTrainingAndRestoreClaim_cases db now trainingTaskId reason with
      ⟨r, h, -⟩ | ⟨r, training, h, -, htr, hopen, -⟩ <;> rw [h]
    · exact hI
    · exact hI.restore now (Table.lookup_eq_some.mp htr).1 hopen reason
  | updateTask verdict args => exact hI.updateTask verdict args hop.1 hop.2 hfree
  | _ => exact hop.elim

/-! ## After a claim is freed -/

theorem training_allowed {status : SyncStatus} (hbusy : status.isBusy = false)
    (hdel : status.isDeleting = false) : .training ∈ taskStatusTransitions status := by
  revert hbusy hdel
  cases status <;> decide

theorem createTraining_accepted {args : CreateTraining} {task : ExternalSyncTask}
    (htask : db.tasks.lookup args.taskId = some task) (huser : task.userId = args.userId)
    (hbusy : task.status.isBusy = false) (hdel : task.status.isDeleting = false)
    (hnone : args.targetId = none) (hmanual : args.requireThreshold = false)
    (hfresh : ∀ t ∈ db.trainings, t.trainingTaskId ≠ args.trainingTaskId) :
    ∃ trainings, db.trainings.insert (args.row task task.asClaim) = some trainings ∧
      (createTrainingWithClaim args db).commit db = claimedForTask args trainings db := by
  obtain ⟨trainings, hins⟩ := @Table.exists_insert _ _ _ _ db.trainings
    (args.row task task.asClaim) hfresh
  refine ⟨trainings, hins, ?_⟩
  have hlookup : db.trainings.lookup args.trainingTaskId = none :=
    Table.lookup_eq_none.mpr hfresh
  have hallowed : validateTransition taskStatusTransitions "sync task" task.status .training =
      .ok () := validateTransition_eq_ok.mpr (Or.inr (training_allowed hbusy hdel))
  have hnot : truthy args.targetId = false := by
    rw [hnone]
    rfl
  simp only [createTrainingWithClaim, hlookup, htask, huser, hdel, hbusy, hnot, claimForTask,
    belowThreshold, hmanual, recordClaim, hallowed, hins, ne_eq, not_true_eq_false,
    Bool.false_eq_true, Bool.false_and, ↓reduceIte]
  rfl

/-- After a status write that frees an open claim takes effect, one more claim breaks it. -/
theorem freed_claim_is_lost {verdict : DependencyVerdict} {args : UpdateTask}
    (hop : (Op.updateTask verdict args).isClaimStep)
    (hfree : (Op.updateTask verdict args).freesClaim db)
    (heffect : (Op.updateTask verdict args).apply env db ≠ db) :
    ∃ claim : CreateTraining, ¬ ClaimsReconcilable
      (db.run env [.updateTask verdict args, .createTrainingWithClaim claim]) args.taskId := by
  obtain ⟨task, status, htask, hpatch, -, hbusy, hdel, t, ht, htid, hopen⟩ := hfree
  obtain ⟨hcurrent, hnone⟩ := hop
  have hdb₁ : ∃ task₁, ((Op.updateTask verdict args).apply env db).tasks.lookup args.taskId =
      some task₁ ∧ task₁.status = status ∧
      ((Op.updateTask verdict args).apply env db).trainings = db.trainings := by
    simp only [Op.apply] at heffect ⊢
    rcases updateTask_commit db env.legacyTrainingTargetId verdict args with
      h | ⟨task', final, written, htask', -, -, hfinal, hwritten, h⟩
    · exact absurd h heffect
    rw [h]
    rw [hnone] at hfinal
    obtain rfl : none = final := Except.ok.inj hfinal
    obtain ⟨-, hkey⟩ := Table.lookup_eq_some.mp htask'
    have hkey : task'.taskId = args.taskId := hkey
    obtain ⟨n, hlookup⟩ := @writeTask_lookup_self db env.legacyTrainingTargetId args.patch task'
      (db.targetsOf args.taskId) (hkey ▸ htask')
    refine ⟨_, hkey ▸ hlookup, ?_, writeTask_trainings⟩
    show args.patch.status.getD task'.status = status
    rw [hpatch]
    rfl
  obtain ⟨id, hid⟩ := Table.exists_fresh_key db.trainings
  generalize hdb : (Op.updateTask verdict args).apply env db = db₁ at hdb₁ heffect
  obtain ⟨task₁, htask₁, hstatus₁, htrainings⟩ := hdb₁
  let claim : CreateTraining :=
    { now := 0, taskId := args.taskId, trainingTaskId := id, userId := task₁.userId
      inputDatasetIds := [] }
  refine ⟨claim, fun hrec => ?_⟩
  rw [Database.run_cons, hdb, Database.run_cons, Database.run_nil] at hrec
  obtain ⟨trainings, hins, hcommit⟩ := @createTraining_accepted db₁ claim task₁ htask₁ rfl
    (hstatus₁ ▸ hbusy) (hstatus₁ ▸ hdel) rfl rfl (htrainings ▸ hid)
  have hrec : ClaimsReconcilable (claimedForTask claim trainings db₁) args.taskId := by
    rw [← hcommit]
    exact hrec
  have hold : t ∈ (claimedForTask claim trainings db₁).trainings :=
    (Table.mem_insert hins).mpr (Or.inl (htrainings ▸ ht))
  have hnew : claim.row task₁ task₁.asClaim ∈ (claimedForTask claim trainings db₁).trainings :=
    (Table.mem_insert hins).mpr (Or.inr rfl)
  have heq := hrec.unique t hold _ hnew htid rfl hopen rfl
  exact hid t ht (congrArg ExternalSyncTraining.trainingTaskId heq)

end Steps

/-! ## Whole runs -/

section Runs

/-- The claims of every task stay reconcilable along every run that frees no claim; and where such a
run goes on with a status write that takes effect and frees one, one more claim breaks it. -/
theorem claims_reconcilable (env : Env) (db : Database)
    (hdb : ∀ t ∈ db.trainings, t.isOpen = false) (ops : List Op)
    (hops : Admits (Op.apply env) (fun db op => op.isClaimStep ∧ ¬ op.freesClaim db) db ops) :
    (∀ taskId, ClaimsReconcilable (db.run env ops) taskId) ∧
    ∀ verdict args, (Op.updateTask verdict args).isClaimStep →
      (Op.updateTask verdict args).freesClaim (db.run env ops) →
      (Op.updateTask verdict args).apply env (db.run env ops) ≠ db.run env ops →
      ∃ claim : CreateTraining, ¬ ClaimsReconcilable (db.run env
        (ops ++ [.updateTask verdict args, .createTrainingWithClaim claim])) args.taskId := by
  have h0 : GuardInv db := by
    intro t ht hopen
    rw [hdb t ht] at hopen
    cases hopen
  have hI : GuardInv (db.run env ops) :=
    exec_invariant (fun _ _ hI hop => hI.apply hop.1 hop.2) h0 hops
  refine ⟨hI.reconcilable, fun verdict args hop hfree heffect => ?_⟩
  obtain ⟨claim, hclaim⟩ := freed_claim_is_lost hop hfree heffect
  refine ⟨claim, ?_⟩
  rw [Database.run_append]
  exact hclaim

def firstClaim : CreateTraining where
  now := 1
  taskId := "task"
  trainingTaskId := "first"
  userId := "user"
  inputDatasetIds := ["dataset"]

theorem claims_reconcilable_first :
    ClaimsReconcilable ((Database.ofTask generatingTask).run defaultEnv
      [.createTrainingWithClaim firstClaim]) "task" :=
  (claims_reconcilable defaultEnv (Database.ofTask generatingTask)
    (fun t ht => absurd ht (Table.not_mem_empty t)) [.createTrainingWithClaim firstClaim]
    ⟨⟨trivial, id⟩, trivial⟩).1 "task"

/-- A status write sets the parent of the first claim back to `IDLE`, and a second claim is taken. -/
def claimedTwice : List Op :=
  [.createTrainingWithClaim firstClaim,
    .updateTask {} { taskId := "task", patch := { status := some .idle } },
    .createTrainingWithClaim { firstClaim with trainingTaskId := "second" }]

/-- Two claims of one task are open, and the first can no longer be reconciled. -/
theorem claimedTwice_not_reconcilable :
    ¬ ClaimsReconcilable ((Database.ofTask generatingTask).run defaultEnv claimedTwice) "task" := by
  intro h
  have hids : ((Database.ofTask generatingTask).run defaultEnv claimedTwice).trainings.rows.map
      (fun t => (t.trainingTaskId, t.taskId, t.isOpen)) =
      [("first", "task", true), ("second", "task", true)] := by
    decide +kernel
  have hmem : ∀ id ∈ ["first", "second"], ∃ t ∈ ((Database.ofTask generatingTask).run defaultEnv
      claimedTwice).trainings, t.trainingTaskId = id ∧ t.taskId = "task" ∧ t.isOpen = true := by
    intro id hid
    have hrow : (id, "task", true) ∈ ((Database.ofTask generatingTask).run defaultEnv
        claimedTwice).trainings.rows.map (fun t => (t.trainingTaskId, t.taskId, t.isOpen)) := by
      rw [hids]
      simpa using hid
    obtain ⟨t, ht, heq⟩ := List.mem_map.mp hrow
    simp only [Prod.mk.injEq] at heq
    exact ⟨t, ht, heq⟩
  obtain ⟨t, ht, hid, htid, hopen⟩ := hmem "first" (by simp)
  obtain ⟨t', ht', hid', htid', hopen'⟩ := hmem "second" (by simp)
  have heq := h.unique t ht t' ht' htid htid' hopen hopen'
  rw [heq, hid'] at hid
  exact absurd hid (by decide)

end Runs

end Sync
