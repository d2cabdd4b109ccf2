import TrainFactory.Lib.RowHistory
import TrainFactory.Sync.Proofs.OperationsProofs

/-!
# Proofs: what becomes of the rows

The trainings and the generations of the sync service are journals: none of the operations deletes a
row of theirs or changes what it was created with, and what has been settled once stays settled. The
tasks keep their owners; their statuses follow the transition table, which `complete_training_claim`
and `cancel_task_deletion` alone do not consult. What removes whole rows is outside the operations:
the deletion of a task, and of a tracking row with its training or its generation task.
-/

namespace Sync

open Lib Relation

/-! ## Trainings -/

/-- What a training row may become: its status follows the transition table, its claim stays as it
was taken, and a reconciliation is final. -/
structure ExternalSyncTraining.LivesAs (t t' : ExternalSyncTraining) : Prop where
  status : ReflTransGen (fun s s' => s' ∈ trainingStatusTransitions s) t.status t'.status
  claim : { t' with
    outputAdapterPath := t.outputAdapterPath
    outputModelRegistryId := t.outputModelRegistryId
    loadedAdapterName := t.loadedAdapterName
    loadedAdapterId := t.loadedAdapterId
    claimReconciled := t.claimReconciled
    status := t.status
    completedAt := t.completedAt } = t
  reconciled : t.claimReconciled = true → t'.claimReconciled = true
  opened : t.claimReconciled = false → t'.claimReconciled = true → t.status = .pending
  completed : t.completedAt ≠ none → t'.completedAt ≠ none

/-- A training row as a claim creates it. -/
structure ExternalSyncTraining.IsNew (t : ExternalSyncTraining) : Prop where
  isOpen : t.isOpen = true
  samples : 0 ≤ t.claimedSampleCount
  completed : t.completedAt = none
  unloaded : t.loadedAdapterId = none

/-- No transition leads back to `PENDING`. -/
theorem eq_pending_of_reflTransGen {s s' : SyncTrainingStatus}
    (h : ReflTransGen (fun s s' => s' ∈ trainingStatusTransitions s) s s') (hs : s' = .pending) :
    s = .pending := by
  induction h with
  | refl => exact hs
  | tail _ hmem ih =>
    rw [hs] at hmem
    revert hmem
    rename_i s₁ _ _
    cases s₁ <;> simp [trainingStatusTransitions]

instance : Std.Refl ExternalSyncTraining.LivesAs where
  refl t := ⟨.refl, rfl, id, fun h h' => absurd (h.symm.trans h') (by simp), id⟩

instance : IsTrans ExternalSyncTraining ExternalSyncTraining.LivesAs where
  trans t t' t'' h h' := by
    refine ⟨h.status.trans h'.status, ?_, h'.reconciled ∘ h.reconciled, ?_,
      h'.completed ∘ h.completed⟩
    · rw [← h.claim, ← h'.claim]
    · intro hopen hrec
      cases hmid : t'.claimReconciled with
      | false => exact eq_pending_of_reflTransGen h.status (h'.opened hmid hrec)
      | true => exact h.opened hopen hmid

theorem ExternalSyncTraining.livesAs_reconcile {t : ExternalSyncTraining} {now : DateTime}
    {status : SyncTrainingStatus} (hopen : t.isOpen = true)
    (hstatus : status ∈ trainingStatusTransitions .pending) :
    t.LivesAs (t.reconcile now status) := by
  have hpending := (ExternalSyncTraining.isOpen_iff.mp hopen).1
  exact ⟨.single (hpending ▸ hstatus), rfl, fun _ => rfl, fun _ _ => hpending,
    fun _ => Option.some_ne_none now⟩

theorem ExternalSyncTraining.livesAs_write {t : ExternalSyncTraining} {now : DateTime}
    {status : SyncTrainingStatus} {output : TrainingOutput}
    (hstatus : t.status = status ∨ status ∈ trainingStatusTransitions t.status) :
    t.LivesAs (output.write now status t) := by
  refine ⟨?_, rfl, id, fun h h' => absurd (h.symm.trans h') (by simp), fun h => ?_⟩
  · rcases hstatus with rfl | hmem
    · exact .refl
    · exact .single hmem
  · simp only [TrainingOutput.write]
    split
    · simp
    · exact h

theorem ExternalSyncTraining.livesAs_unload {t : ExternalSyncTraining}
    (hloaded : t.status = .adapterLoaded) : t.LivesAs t.unload := by
  refine ⟨.single ?_, rfl, id, fun h h' => absurd (h.symm.trans h') (by simp), id⟩
  simp [hloaded, ExternalSyncTraining.unload, trainingStatusTransitions]

theorem UnloadFilter.status_of_selects {filter : UnloadFilter} {taskId : String}
    {t : ExternalSyncTraining} (h : filter.selects taskId t = true) :
    t.status = .adapterLoaded := by
  simp only [UnloadFilter.selects, Bool.and_eq_true, decide_eq_true_eq] at h
  exact h.1.1.1.1.2

/-- The training is the row of a claim that the operation takes. -/
def Op.claimsFor (op : Op) (t : ExternalSyncTraining) : Prop :=
  ∃ args, op = .createTrainingWithClaim args ∧ args.taskId = t.taskId ∧ args.userId = t.userId

theorem apply_trainings_evolve (env : Env) (db : Database) (op : Op) :
    db.trainings.Evolves (fun t => t.IsNew ∧ op.claimsFor t) ExternalSyncTraining.LivesAs
      (op.apply env db).trainings := by
  have hstay : db.trainings.Evolves (fun t => t.IsNew ∧ op.claimsFor t)
      ExternalSyncTraining.LivesAs db.trainings := .refl db.trainings
  have heffect := op.effect env db
  generalize op.apply env db = db' at heffect ⊢
  cases heffect with
  | claimForTask args task trainings htask hguard htruthy hins =>
    have hnew : (args.row task task.asClaim).IsNew :=
      ⟨rfl, by simp [CreateTraining.row, ExternalSyncTask.asClaim], rfl, rfl⟩
    exact .insert hins ⟨hnew, args, rfl, rfl, rfl⟩
  | claimForTarget args task target trainings htask hguard htruthy htarget hid hins =>
    have hnew : (args.row task (target.asClaim task)).IsNew :=
      ⟨rfl, by simp [CreateTraining.row, ExternalSyncTrainingTarget.asClaim], rfl, rfl⟩
    exact .insert hins ⟨hnew, args, rfl, rfl, rfl⟩
  | consume now training hmem hopen =>
    simp only [consumeClaim]
    refine .update hmem ?_
    exact ExternalSyncTraining.livesAs_reconcile hopen (by decide)
  | restore now training reason hmem hopen hown =>
    simp only [restoreClaim]
    refine .update hmem ?_
    exact ExternalSyncTraining.livesAs_reconcile hopen (by decide)
  | writeTraining now training status output hmem hstatus =>
    dsimp only
    refine .update hmem ?_
    exact ExternalSyncTraining.livesAs_write hstatus
  | unload taskId filter =>
    dsimp only
    refine .updateWhere fun t ht hsel => ?_
    exact ExternalSyncTraining.livesAs_unload (filter.status_of_selects hsel)
  | complete =>
    rw [consumeBatches_trainings]
    exact hstay
  | toggle g disabled hg hdisabled =>
    simp only [toggled]
    split <;> split <;> simpa using hstay
  | recordQa =>
    simp only [recordQaOutput]
    split <;> exact hstay
  | updateTask => simpa using hstay
  | _ => exact hstay

/-- The trainings are a journal. In every run of operations no row is lost, each keeps the claim that
it was created with and moves along the transition table, no reconciliation is taken back, and a claim
is reconciled while it is pending or never; every other row began as a pending claim that is open. -/
theorem trainings_journal (env : Env) (db : Database) (ops : List Op) :
    db.trainings.Evolves ExternalSyncTraining.IsNew ExternalSyncTraining.LivesAs
      (db.run env ops).trainings :=
  Table.Evolves.exec (fun db op =>
    (apply_trainings_evolve env db op).imp (fun _ => And.left) fun _ _ => id) db ops

/-! ## Generations -/

/-- What a generation row may become: its inputs stay, it is settled once, with its output, and its
QA output is recorded once. -/
structure ExternalSyncGeneration.LivesAs (g g' : ExternalSyncGeneration) : Prop where
  inputs : { g' with
    outputDatasetId := g.outputDatasetId
    outputSampleCount := g.outputSampleCount
    qaDatasetId := g.qaDatasetId
    qaSampleCount := g.qaSampleCount
    status := g.status
    completedAt := g.completedAt
    disabled := g.disabled } = g
  settled : g.status ≠ .pending → g'.status = g.status ∧ g'.completedAt = g.completedAt ∧
    g'.outputDatasetId = g.outputDatasetId ∧ g'.outputSampleCount = g.outputSampleCount
  pending : g'.status = .pending → g'.outputDatasetId = g.outputDatasetId ∧
    g'.outputSampleCount = g.outputSampleCount ∧ g'.completedAt = g.completedAt
  recorded : g.qaDatasetId ≠ none →
    g'.qaDatasetId = g.qaDatasetId ∧ g'.qaSampleCount = g.qaSampleCount

/-- A generation row as a claim of batches creates it. -/
structure ExternalSyncGeneration.IsNew (g : ExternalSyncGeneration) : Prop where
  pending : g.status = .pending
  inputs : g.inputBatchIds ≠ []
  blank : g.outputDatasetId = none ∧ g.qaDatasetId = none ∧ g.completedAt = none
  enabled : g.disabled = false

instance : Std.Refl ExternalSyncGeneration.LivesAs where
  refl _ := ⟨rfl, fun _ => ⟨rfl, rfl, rfl, rfl⟩, fun _ => ⟨rfl, rfl, rfl⟩, fun _ => ⟨rfl, rfl⟩⟩

instance : IsTrans ExternalSyncGeneration ExternalSyncGeneration.LivesAs where
  trans g g' g'' h h' := by
    refine ⟨by rw [← h.inputs, ← h'.inputs], ?_, ?_, ?_⟩
    · intro hset
      obtain ⟨hs, hat, hds, hn⟩ := h.settled hset
      obtain ⟨hs', hat', hds', hn'⟩ := h'.settled (hs ▸ hset)
      exact ⟨hs'.trans hs, hat'.trans hat, hds'.trans hds, hn'.trans hn⟩
    · intro hpending
      obtain ⟨hds', hn', hat'⟩ := h'.pending hpending
      have hmid : g'.status = .pending := by
        by_contra hset
        exact hset ((h'.settled hset).1.symm.trans hpending)
      obtain ⟨hds, hn, hat⟩ := h.pending hmid
      exact ⟨hds'.trans hds, hn'.trans hn, hat'.trans hat⟩
    · intro hrec
      obtain ⟨hds, hn⟩ := h.recorded hrec
      obtain ⟨hds', hn'⟩ := h'.recorded (hds ▸ hrec)
      exact ⟨hds'.trans hds, hn'.trans hn⟩

/-- The batches that a generation names are there, and of its task and its user. -/
def ExternalSyncGeneration.NamesOwn (db : Database) (g : ExternalSyncGeneration) : Prop :=
  ∀ id ∈ g.inputBatchIds, ∃ b ∈ db.batches, b.batchId = id ∧ b.taskId = g.taskId ∧
    b.userId = g.userId

theorem apply_generations_evolve (env : Env) (db : Database) (op : Op) :
    db.generations.Evolves (fun g => g.IsNew ∧ g.NamesOwn db) ExternalSyncGeneration.LivesAs
      (op.apply env db).generations := by
  have heffect := op.effect env db
  generalize op.apply env db = db' at heffect ⊢
  cases heffect with
  | claim args task n generations htask hgen hne hpending hfetched hins =>
    refine .insert hins ⟨⟨rfl, hne, ⟨rfl, rfl, rfl⟩, rfl⟩, fun id hid => ?_⟩
    obtain ⟨b, hb, hbid, htask, huser, -, -⟩ := hfetched id hid
    exact ⟨b, hb, hbid, htask, huser⟩
  | complete now g outputDatasetId outputSampleCount hg hpending howns =>
    rw [consumeBatches_generations]
    refine .update hg ?_
    exact ⟨rfl, fun h => absurd hpending h, fun h => absurd h (by simp), fun _ => ⟨rfl, rfl⟩⟩
  | fail now g reason reason' hg hpending =>
    rw [restoreBatches_generations]
    refine .update hg ?_
    exact ⟨rfl, fun h => absurd hpending h, fun h => absurd h (by simp), fun _ => ⟨rfl, rfl⟩⟩
  | toggle g disabled hg hdisabled =>
    have hflag : db.generations.Evolves (fun g => g.IsNew ∧ g.NamesOwn db)
        ExternalSyncGeneration.LivesAs
        (db.generations.update g.generationTaskId fun g => { g with disabled := disabled }) := by
      refine .update hg ?_
      exact ⟨rfl, fun _ => ⟨rfl, rfl, rfl, rfl⟩, fun _ => ⟨rfl, rfl, rfl⟩, fun _ => ⟨rfl, rfl⟩⟩
    simp only [toggled]
    split <;> split <;> simpa using hflag
  | recordQa g qaDatasetId qaSampleCount hg hnone =>
    rw [recordQaOutput_generations]
    refine .update hg ?_
    exact ⟨rfl, fun _ => ⟨rfl, rfl, rfl, rfl⟩, fun _ => ⟨rfl, rfl, rfl⟩, fun h => absurd hnone h⟩
  | updateTask => simpa using Table.Evolves.refl db.generations
  | _ => exact .refl db.generations

/-- The generations are a journal. In every run of operations no row is lost and each keeps the
batches that it claimed; it is completed or failed once, and what it put out then, and its QA output,
stay as they were recorded; every other row began as a pending one without outputs. -/
theorem generations_journal (env : Env) (db : Database) (ops : List Op) :
    db.generations.Evolves ExternalSyncGeneration.IsNew ExternalSyncGeneration.LivesAs
      (db.run env ops).generations :=
  Table.Evolves.exec (fun db op =>
    (apply_generations_evolve env db op).imp (fun _ => And.left) fun _ _ => id) db ops

/-! ## Tasks -/

/-- One operation on a task: the owner stays, no record is discounted, and the status stays or
follows the transition table; with `early`, `SYNCING` and `GENERATING` may also turn into
`LOADING_ADAPTER`, and with `restored` the status of a deletion may turn into another. -/
structure ExternalSyncTask.Step (early restored : Prop) (t t' : ExternalSyncTask) : Prop where
  owner : t'.userId = t.userId
  records : t.totalRecordCount ≤ t'.totalRecordCount
  status : t'.status = t.status ∨ t'.status ∈ taskStatusTransitions t.status ∨
    (early ∧ (t.status = .syncing ∨ t.status = .generating) ∧ t'.status = .loadingAdapter) ∨
    (restored ∧ t.status.isDeleting = true)

/-- The task may have changed, but not its owner or its status, and no record is discounted. -/
structure ExternalSyncTask.Quiet (t t' : ExternalSyncTask) : Prop where
  owner : t'.userId = t.userId
  records : t.totalRecordCount ≤ t'.totalRecordCount
  status : t'.status = t.status

/-- The rows of `tasks'` are those of `tasks`, changed by at most one operation. -/
abbrev TasksStep (early restored : Prop) (tasks tasks' : Table ExternalSyncTask) : Prop :=
  tasks.Evolves (fun _ => False) (ExternalSyncTask.Step early restored) tasks'

/-- The rows of `tasks'` are those of `tasks`, with quiet changes only. -/
abbrev TasksQuiet (tasks tasks' : Table ExternalSyncTask) : Prop :=
  tasks.Evolves (fun _ => False) ExternalSyncTask.Quiet tasks'

instance (early restored : Prop) : Std.Refl (ExternalSyncTask.Step early restored) where
  refl _ := ⟨rfl, Int.le_refl _, Or.inl rfl⟩

instance : Std.Refl ExternalSyncTask.Quiet where
  refl _ := ⟨rfl, Int.le_refl _, rfl⟩

instance : IsTrans ExternalSyncTask ExternalSyncTask.Quiet where
  trans _ _ _ h h' :=
    ⟨h'.owner.trans h.owner, h.records.trans h'.records, h'.status.trans h.status⟩

section TasksStep

variable {early restored : Prop} {db : Database} {tasks tasks' tasks'' : Table ExternalSyncTask}

theorem ExternalSyncTask.Step.of_eq {t t' : ExternalSyncTask} (howner : t'.userId = t.userId)
    (hrecords : t'.totalRecordCount = t.totalRecordCount)
    (hstatus : t'.status = t.status ∨ t'.status ∈ taskStatusTransitions t.status) :
    Step early restored t t' :=
  ⟨howner, hrecords.ge, hstatus.imp_right Or.inl⟩

theorem TasksQuiet.step (h : TasksQuiet tasks tasks') (h' : TasksStep early restored tasks' tasks'') :
    TasksStep early restored tasks tasks'' :=
  h.comp h' (fun _ _ hfalse => hfalse.elim) fun _ _ _ hq hs =>
    ⟨hs.owner.trans hq.owner, hq.records.trans hs.records, hq.status ▸ hs.status⟩

theorem TasksStep.quiet (h : TasksStep early restored tasks tasks') (h' : TasksQuiet tasks' tasks'') :
    TasksStep early restored tasks tasks'' :=
  h.comp h' (fun _ _ hfalse => hfalse.elim) fun _ _ _ hs hq =>
    ⟨hq.owner.trans hs.owner, hs.records.trans hq.records, hq.status ▸ hs.status⟩

theorem TasksQuiet.toStep (h : TasksQuiet tasks tasks') : TasksStep early restored tasks tasks' :=
  h.step (.refl tasks')

/-- An update of one task that changes neither its owner nor its status. -/
theorem tasksQuiet_update {taskId : String} {f : ExternalSyncTask → ExternalSyncTask}
    {hf : ∀ t, Keyed.key (f t) = Keyed.key t} (h : ∀ t, ExternalSyncTask.Quiet t (f t)) :
    TasksQuiet tasks (tasks.update taskId f hf) :=
  .updateWhere fun t _ _ => h t

theorem recountPending_quiet (db : Database) (taskId : String) :
    TasksQuiet db.tasks (recountPending db taskId).tasks := by
  dsimp only [recountPending]
  exact tasksQuiet_update fun _ => ⟨rfl, Int.le_refl _, rfl⟩

theorem creditFinalOutput_quiet (taskId : String) (dataset : Option String) (count : Int) :
    TasksQuiet db.tasks (creditFinalOutput taskId dataset count db).tasks := by
  rw [creditFinalOutput_tasks]
  split
  · exact tasksQuiet_update fun _ => ⟨rfl, Int.le_refl _, rfl⟩
  · exact .refl db.tasks

theorem shiftCounters_quiet (db : Database) (g : ExternalSyncGeneration) (disabled : Bool) :
    TasksQuiet db.tasks (shiftCounters g disabled db).tasks := by
  rw [shiftCounters_tasks]
  split
  · exact tasksQuiet_update fun _ => ⟨rfl, Int.le_refl _, rfl⟩
  · exact .refl db.tasks

theorem toggled_quiet (g : ExternalSyncGeneration) (disabled : Bool) :
    TasksQuiet db.tasks (toggled g disabled db).tasks := by
  simp only [toggled]
  generalize hmoved : movedBatches g disabled _ = moved
  have htasks : db.tasks = moved.tasks := by rw [← hmoved, movedBatches_tasks]
  rw [htasks]
  generalize hcounted : (if toggledBatches g disabled db ≠ [] then recountPending moved g.taskId
    else moved) = counted
  have hquiet : TasksQuiet moved.tasks counted.tasks := by
    rw [← hcounted]
    split
    · exact recountPending_quiet moved g.taskId
    · exact .refl moved.tasks
  split
  · exact hquiet.trans (shiftCounters_quiet counted g disabled)
  · exact hquiet

/-- An update of one task, by its row. -/
theorem tasksStep_update {task : ExternalSyncTask} {taskId : String}
    {f : ExternalSyncTask → ExternalSyncTask} {hf : ∀ t, Keyed.key (f t) = Keyed.key t}
    (hmem : task ∈ tasks) (hid : task.taskId = taskId) (h : task.Step early restored (f task)) :
    TasksStep early restored tasks (tasks.update taskId f hf) := by
  subst hid
  exact .update hmem h

/-- A task that takes a new claim is neither busy nor being deleted, and starts training. -/
theorem ExternalSyncTask.step_claim {task : ExternalSyncTask} {trainingTaskId : String}
    (hdel : task.status.isDeleting = false) (hbusy : task.status.isBusy = false) :
    task.Step early restored (task.claim trainingTaskId) := by
  refine .of_eq rfl rfl (Or.inr ?_)
  cases hs : task.status <;>
    simp_all [SyncStatus.isDeleting, SyncStatus.isBusy, taskStatusTransitions, claim]

theorem createTraining_tasksStep (args : CreateTraining) :
    TasksStep early restored db.tasks ((createTrainingWithClaim args db).commit db).tasks := by
  rcases createTrainingWithClaim_commit db args with
    h | ⟨task, htask, hdel, hbusy, ⟨trainings, -, -, h⟩ | ⟨target, trainings, -, -, -, -, -, -, -, h⟩⟩
    <;> rw [h]
  · exact .refl db.tasks
  · obtain ⟨hmem, hid⟩ := Table.lookup_eq_some.mp htask
    have hquiet : TasksQuiet db.tasks (db.tasks.update args.taskId _ key_emptied) :=
      tasksQuiet_update fun _ => ⟨rfl, Int.le_refl _, rfl⟩
    have hmem' : { task with pendingTrainingSamples := 0 } ∈
        db.tasks.update args.taskId _ key_emptied :=
      Table.mem_update.mpr ⟨task, hmem, by simp [hid]⟩
    dsimp only [claimedForTask]
    exact hquiet.step (tasksStep_update hmem' hid (ExternalSyncTask.step_claim hdel hbusy))
  · obtain ⟨hmem, hid⟩ := Table.lookup_eq_some.mp htask
    dsimp only [claimedForTarget]
    exact tasksStep_update hmem hid (ExternalSyncTask.step_claim hdel hbusy)

theorem updateTask_tasksStep (legacyTrainingTargetId : String → String)
    (verdict : DependencyVerdict) (args : UpdateTask) :
    TasksStep early restored db.tasks
      ((updateTask legacyTrainingTargetId verdict args db).commit db).tasks := by
  rcases updateTask_commit db legacyTrainingTargetId verdict args with
    h | ⟨task, final, written, htask, -, hstatus, -, -, h⟩ <;> rw [h]
  · exact .refl db.tasks
  · obtain ⟨hmem, -⟩ := Table.lookup_eq_some.mp htask
    have hpatched : TasksStep early restored db.tasks (db.tasks.update task.taskId _
        (patchedTask_taskId legacyTrainingTargetId args.patch final (db.targetsOf args.taskId))) := by
      refine tasksStep_update hmem rfl ?_
      unfold patchedTask
      split <;> exact .of_eq rfl rfl (hstatus.imp Eq.symm id)
    dsimp only [writeTask]
    split
    · unfold invalidateFetchedBatches
      dsimp only
      split
      · exact hpatched
      · dsimp only
        exact hpatched.quiet (tasksQuiet_update fun _ => ⟨rfl, Int.le_refl _, rfl⟩)
    · exact hpatched

/-- The operation completes a training claim while the task of the claim fetches or generates. -/
def Op.finishesEarly (db : Database) : Op → Prop
  | .completeTrainingClaim _ trainingTaskId => ∃ training ∈ db.trainings, ∃ task ∈ db.tasks,
    training.trainingTaskId = trainingTaskId ∧ training.isOpen = true ∧
    claimOwned db training = true ∧ task.taskId = training.taskId ∧
    (task.status = .syncing ∨ task.status = .generating)
  | _ => False

/-- A claim that is completed leaves a task under deletion alone, and loads the adapter otherwise.
-/
theorem consumeClaim_tasks (now : DateTime) (training : ExternalSyncTraining) :
    (consumeClaim now training db).tasks =
      if deletionPending db training.taskId then db.tasks
      else db.tasks.update training.taskId fun t =>
        { t with status := .loadingAdapter, errorMessage := none } := rfl

theorem completeTraining_tasksStep (now : DateTime) (trainingTaskId : String) :
    TasksStep (Op.finishesEarly db (.completeTrainingClaim now trainingTaskId)) restored db.tasks
      ((completeTrainingClaim now trainingTaskId db).commit db).tasks := by
  rcases completeTrainingClaim_cases db now trainingTaskId with
    ⟨r, h, -⟩ | ⟨r, training, h, -, -, htr, hopen, hown⟩ <;> rw [h]
  · exact .refl db.tasks
  · obtain ⟨hmem, hid⟩ := Table.lookup_eq_some.mp htr
    dsimp only [Outcome.commit_ok]
    rw [consumeClaim_tasks]
    split
    · exact .refl db.tasks
    · rename_i hdel
      refine .updateWhere fun task htask hkey => ⟨rfl, Int.le_refl _, ?_⟩
      have hkey : task.taskId = training.taskId := by simpa using hkey
      have hlookup : db.tasks.lookup training.taskId = some task :=
        hkey ▸ Table.lookup_of_mem htask
      have hguard : task.status.isDeleting = false := by
        simpa [deletionPending, hlookup] using hdel
      have hearly : (task.status = .syncing ∨ task.status = .generating) →
          Op.finishesEarly db (.completeTrainingClaim now trainingTaskId) :=
        fun hs => ⟨training, hmem, task, htask, hid, hopen, hown, hkey, hs⟩
      cases hs : task.status <;> simp_all [SyncStatus.isDeleting, taskStatusTransitions]

/-- Every operation takes each task one step along the transition table, but for a claim that is
completed early. -/
theorem apply_tasksStep (env : Env) (db : Database) (op : Op) :
    TasksStep (op.finishesEarly db) restored db.tasks (op.apply env db).tasks := by
  have hclaim : ∀ args, op = .createTrainingWithClaim args →
      TasksStep (op.finishesEarly db) restored db.tasks (op.apply env db).tasks := by
    rintro args rfl
    exact createTraining_tasksStep args
  have hupdate : ∀ verdict args, op = .updateTask verdict args →
      TasksStep (op.finishesEarly db) restored db.tasks (op.apply env db).tasks := by
    rintro verdict args rfl
    exact updateTask_tasksStep env.legacyTrainingTargetId verdict args
  have hconsume : ∀ now trainingTaskId, op = .completeTrainingClaim now trainingTaskId →
      TasksStep (op.finishesEarly db) restored db.tasks (op.apply env db).tasks := by
    rintro now trainingTaskId rfl
    exact completeTraining_tasksStep now trainingTaskId
  have heffect := op.effect env db
  generalize op.finishesEarly db = early at *
  generalize op.apply env db = db' at *
  have hstay : TasksStep early restored db.tasks db.tasks := .refl db.tasks
  cases heffect with
  | promote batch userId hbatch hstatus =>
    dsimp only
    refine TasksQuiet.toStep (tasksQuiet_update fun t => ⟨rfl, ?_, rfl⟩)
    dsimp only
    omega
  | reset taskId =>
    dsimp only [recountPending]
    exact TasksQuiet.toStep (tasksQuiet_update fun _ => ⟨rfl, Int.le_refl _, rfl⟩)
  | reconcile task hmem hlt =>
    dsimp only
    refine tasksStep_update hmem rfl ⟨rfl, ?_, Or.inl rfl⟩
    dsimp only
    omega
  | claim args task n generations htask hgen hne hpending hfetched hins =>
    dsimp only [claimBatches, recountPending]
    exact TasksQuiet.toStep (tasksQuiet_update fun _ => ⟨rfl, Int.le_refl _, rfl⟩)
  | complete now g outputDatasetId outputSampleCount hg hpending howns =>
    rw [consumeBatches_tasks]
    refine (creditFinalOutput_quiet g.taskId outputDatasetId _).step (.updateWhere fun t _ _ => ?_)
    unfold ExternalSyncTask.leaveGenerating
    split
    · rename_i hs
      exact .of_eq rfl rfl (Or.inr (by simp [hs, taskStatusTransitions]))
    · exact .of_eq rfl rfl (Or.inl rfl)
  | fail now g reason reason' hg hpending =>
    dsimp only [restoreBatches, recountPending]
    refine TasksQuiet.step ?_ (.updateWhere fun t _ _ => ?_)
    · exact tasksQuiet_update fun _ => ⟨rfl, Int.le_refl _, rfl⟩
    unfold ExternalSyncTask.failGenerating
    split
    · rename_i hs
      exact .of_eq rfl rfl (Or.inr (by simp [hs, taskStatusTransitions]))
    · exact .of_eq rfl rfl (Or.inl rfl)
  | toggle g disabled hg hdisabled => exact (toggled_quiet g disabled).toStep
  | recordQa =>
    simp only [recordQaOutput]
    split <;> exact hstay
  | recalculate taskId =>
    dsimp only
    exact TasksQuiet.toStep (tasksQuiet_update fun _ => ⟨rfl, Int.le_refl _, rfl⟩)
  | claimForTask args => exact hclaim args rfl
  | claimForTarget args => exact hclaim args rfl
  | consume now training => exact hconsume now training.trainingTaskId rfl
  | restore now training reason hmem hopen hown =>
    dsimp only [restoreClaim]
    refine .updateWhere fun t _ _ => .of_eq rfl rfl ?_
    unfold ExternalSyncTask.restore
    cases hs : t.status <;> simp [SyncStatus.isDeleting, taskStatusTransitions]
  | updateTask verdict args => exact hupdate verdict args rfl
  | compareAndSet expectedStatus status errorMessage task hmem hvalid =>
    dsimp only
    exact tasksStep_update hmem rfl (.of_eq rfl rfl (hvalid.imp Eq.symm id))
  | transition expectedStatus status errorMessage task hmem hvalid =>
    dsimp only
    exact tasksStep_update hmem rfl (.of_eq rfl rfl (hvalid.imp Eq.symm id))
  | beginDeletion cascade expectedUserId task hmem hguard =>
    dsimp only
    refine tasksStep_update hmem rfl (.of_eq rfl rfl (Or.inr ?_))
    cases cascade <;> cases hs : task.status <;>
      simp_all [SyncStatus.isDeleting, taskStatusTransitions]
  | migrate verdict args task targets htask hguard htargets =>
    dsimp only
    exact TasksQuiet.toStep (tasksQuiet_update fun _ => ⟨rfl, Int.le_refl _, rfl⟩)
  | _ => exact hstay

/-- A claim that is completed early puts its task in a status that the table does not allow. -/
theorem not_tasksStep_of_finishesEarly {op : Op} (env : Env) (h : op.finishesEarly db) :
    ¬ TasksStep False restored db.tasks (op.apply env db).tasks := by
  cases op with
  | completeTrainingClaim now trainingTaskId =>
    obtain ⟨training, hmem, task, htask, rfl, hopen, hown, hid, hs⟩ := h
    have hlookup : db.tasks.lookup training.taskId = some task := hid ▸ Table.lookup_of_mem htask
    have hdel : deletionPending db training.taskId = false := by
      rcases hs with hs | hs <;> simp [deletionPending, hlookup, hs, SyncStatus.isDeleting]
    have htr : db.trainings.lookup training.trainingTaskId = some training :=
      Table.lookup_of_mem hmem
    intro hstep
    rcases completeTrainingClaim_cases db now training.trainingTaskId with
      ⟨r, -, -, hnot⟩ | ⟨r, training', hok, -, -, htr', -, -⟩
    · exact hnot training htr ⟨hopen, hown⟩
    · obtain rfl : training = training' := Option.some.inj (htr.symm.trans htr')
      simp only [Op.apply, hok, Outcome.commit_ok, consumeClaim_tasks, hdel, Bool.false_eq_true,
        ↓reduceIte] at hstep
      have hstatus := (hstep.of_update htask hid).status
      rcases hs with hs | hs <;>
        simp [hs, taskStatusTransitions, SyncStatus.isDeleting] at hstatus
  | _ => exact h.elim

/-! ## The rollback of a deletion -/

/-- The operation is the rollback of a deletion that is going on, to a status of no deletion. -/
def TaskOp.restores (db : Database) : TaskOp → Prop
  | .cancelTaskDeletion verdict args => args.status.isDeleting = false ∧
    args.expectedDeletingStatus.isDeleting = true ∧
    (∃ task ∈ db.tasks, task.taskId = args.taskId ∧ task.userId = args.expectedUserId ∧
      task.status = args.expectedDeletingStatus) ∧
    (args.isActive = true → verdict.lock = .ok () ∧ verdict.binding = .ok ())
  | .service _ => False

def TaskOp.finishesEarly (db : Database) : TaskOp → Prop
  | .service op => op.finishesEarly db
  | .cancelTaskDeletion .. => False

theorem cancelTaskDeletion_cases (db : Database) (verdict : DependencyVerdict)
    (args : CancelTaskDeletion) :
    ((cancelTaskDeletion verdict args db).commit db = db ∧
      ¬ TaskOp.restores db (.cancelTaskDeletion verdict args)) ∨
    (TaskOp.restores db (.cancelTaskDeletion verdict args) ∧
      (cancelTaskDeletion verdict args db).commit db =
        { db with tasks := db.tasks.update args.taskId fun t =>
          { t with status := args.status, isActive := args.isActive } }) := by
  unfold cancelTaskDeletion
  split
  · rename_i hstatus
    exact Or.inl ⟨rfl, fun h => absurd hstatus (by simp [h.1])⟩
  rename_i hstatus
  split
  · rename_i hexpected
    exact Or.inl ⟨rfl, fun h => hexpected h.2.1⟩
  rename_i hexpected
  split
  · rename_i hnone
    refine Or.inl ⟨rfl, ?_⟩
    rintro ⟨-, -, ⟨task, hmem, hid, -⟩, -⟩
    exact Table.lookup_eq_none.mp hnone task hmem hid
  rename_i task htask
  obtain ⟨hmem, hid⟩ := Table.lookup_eq_some.mp htask
  have hsame : ∀ {t}, t ∈ db.tasks → t.taskId = args.taskId → t = task :=
    fun ht htid => Table.eq_of_key ht hmem (htid.trans hid.symm)
  split
  · rename_i e hlock
    refine Or.inl ⟨rfl, ?_⟩
    rintro ⟨-, -, -, hverdict⟩
    split at hlock
    · rename_i hactive
      rw [(hverdict hactive).1] at hlock
      cases hlock
    · cases hlock
  rename_i hlock
  split
  · rename_i howner
    refine Or.inl ⟨rfl, ?_⟩
    rintro ⟨-, -, ⟨t, ht, htid, huser, -⟩, -⟩
    exact howner (hsame ht htid ▸ huser)
  rename_i howner
  split
  · rename_i hmode
    refine Or.inl ⟨rfl, ?_⟩
    rintro ⟨-, -, ⟨t, ht, htid, -, hs⟩, -⟩
    exact hmode (hsame ht htid ▸ hs)
  rename_i hmode
  split
  · rename_i e hbinding
    refine Or.inl ⟨rfl, ?_⟩
    rintro ⟨-, -, -, hverdict⟩
    split at hbinding
    · rename_i hactive
      rw [(hverdict hactive).2] at hbinding
      cases hbinding
    · cases hbinding
  rename_i hbinding
  refine Or.inr ⟨⟨by simpa using hstatus, by simpa using hexpected,
    ⟨task, hmem, hid, not_not.mp howner, not_not.mp hmode⟩, fun hactive => ?_⟩, rfl⟩
  rw [if_pos hactive] at hlock hbinding
  exact ⟨hlock, hbinding⟩

theorem TaskOp.tasksStep (env : Env) (db : Database) (op : TaskOp) :
    TasksStep (op.finishesEarly db) (op.restores db) db.tasks (op.apply env db).tasks := by
  cases op with
  | service op => exact apply_tasksStep env db op
  | cancelTaskDeletion verdict args =>
    simp only [TaskOp.apply]
    rcases cancelTaskDeletion_cases db verdict args with ⟨h, -⟩ | ⟨hrestores, h⟩ <;> rw [h]
    · exact .refl db.tasks
    · obtain ⟨-, hexpected, ⟨task, hmem, hid, -, hs⟩, -⟩ := id hrestores
      dsimp only
      refine tasksStep_update hmem hid ⟨rfl, Int.le_refl _, ?_⟩
      exact Or.inr (Or.inr (Or.inr ⟨hrestores, hs ▸ hexpected⟩))

/-- A deletion that is rolled back leaves a status that the table does not allow to leave. -/
theorem TaskOp.not_tasksStep_of_restores {op : TaskOp} (env : Env) (h : op.restores db) :
    ¬ TasksStep early False db.tasks (op.apply env db).tasks := by
  cases op with
  | service op => exact h.elim
  | cancelTaskDeletion verdict args =>
    obtain ⟨hstatus, hexpected, ⟨task, hmem, hid, -, hs⟩, -⟩ := id h
    intro hstep
    rcases cancelTaskDeletion_cases db verdict args with ⟨-, hnot⟩ | ⟨-, hcommit⟩
    · exact hnot h
    · simp only [TaskOp.apply, hcommit] at hstep
      have hnew := (hstep.of_update hmem hid).status
      have hdel : task.status.isDeleting = true := hs ▸ hexpected
      have hstay : args.status ≠ task.status := by
        rintro heq
        rw [heq, hdel] at hstatus
        cases hstatus
      rcases hnew with hnew | hnew | ⟨-, hbusy, -⟩ | ⟨hfalse, -⟩
      · exact hstay hnew
      · exact hstay (taskStatusTransitions_deleting hdel (Or.inr hnew))
      · rcases hbusy with hbusy | hbusy <;> rw [hbusy] at hdel <;> cases hdel
      · exact hfalse

end TasksStep

/-- What a task row may become: its owner stays, and no record is discounted. -/
structure ExternalSyncTask.LivesAs (t t' : ExternalSyncTask) : Prop where
  owner : t'.userId = t.userId
  records : t.totalRecordCount ≤ t'.totalRecordCount

/-- A deletion that has begun is not left. -/
def ExternalSyncTask.StaysDeleting (t t' : ExternalSyncTask) : Prop :=
  t.status.isDeleting = true → t'.status = t.status

instance : Std.Refl ExternalSyncTask.LivesAs where
  refl _ := ⟨rfl, Int.le_refl _⟩

instance : IsTrans ExternalSyncTask ExternalSyncTask.LivesAs where
  trans _ _ _ h h' := ⟨h'.owner.trans h.owner, h.records.trans h'.records⟩

instance : Std.Refl ExternalSyncTask.StaysDeleting where
  refl _ _ := rfl

instance : IsTrans ExternalSyncTask ExternalSyncTask.StaysDeleting where
  trans _ _ _ h h' hdel := (h' ((h hdel).symm ▸ hdel)).trans (h hdel)

theorem ExternalSyncTask.Step.staysDeleting {early : Prop} {t t' : ExternalSyncTask}
    (h : t.Step early False t') : t.StaysDeleting t' := by
  intro hdel
  rcases h.status with hs | hs | ⟨-, hs, -⟩ | ⟨hfalse, -⟩
  · exact hs
  · exact taskStatusTransitions_deleting hdel (Or.inr hs)
  · rcases hs with hs | hs <;> simp [hs, SyncStatus.isDeleting] at hdel
  · exact hfalse.elim

/-- In every run no task is lost or made, each keeps its owner, and its total record count does not
fall; a deletion that has begun is left by its rollback only. The statuses of the tasks follow the
transition table in every step of a run if and only if no step of it completes a training claim of a
task that fetches or generates, or rolls back a deletion. -/
theorem tasks_follow_table_iff (env : Env) (db : Database) (ops : List TaskOp) :
    db.tasks.Evolves (fun _ => False) ExternalSyncTask.LivesAs
      (exec (TaskOp.apply env) db ops).tasks ∧
    (Admits (TaskOp.apply env) (fun db op => ¬ op.restores db) db ops →
      db.tasks.Evolves (fun _ => False) ExternalSyncTask.StaysDeleting
        (exec (TaskOp.apply env) db ops).tasks) ∧
    (Admits (TaskOp.apply env)
        (fun db op => TasksStep False False db.tasks (op.apply env db).tasks) db ops ↔
      Admits (TaskOp.apply env) (fun db op => ¬ op.finishesEarly db ∧ ¬ op.restores db) db ops) := by
  refine ⟨?_, ?_, ?_⟩
  · exact Table.Evolves.exec (fun db op => (op.tasksStep env db).imp (fun _ => id)
      fun _ _ h => ⟨h.owner, h.records⟩) db ops
  · have hstep : ∀ db' (op : TaskOp), db.tasks.Evolves (fun _ => False)
        ExternalSyncTask.StaysDeleting db'.tasks → ¬ op.restores db' →
        db.tasks.Evolves (fun _ => False) ExternalSyncTask.StaysDeleting
          (op.apply env db').tasks := by
      intro db' op h hnot
      have hstep := op.tasksStep env db'
      rw [eq_false hnot] at hstep
      exact h.trans (hstep.imp (fun _ => id) fun _ _ => (·.staysDeleting))
    exact exec_invariant hstep (.refl db.tasks)
  · have hiff : ∀ db op, True → (TasksStep False False db.tasks (TaskOp.apply env db op).tasks ↔
        ¬ op.finishesEarly db ∧ ¬ op.restores db) := by
      intro db op _
      constructor
      · intro hstep
        refine ⟨?_, fun h => op.not_tasksStep_of_restores env h hstep⟩
        intro hearly
        cases op with
        | service op => exact not_tasksStep_of_finishesEarly env hearly hstep
        | cancelTaskDeletion verdict args => exact hearly
      · rintro ⟨hearly, hrestores⟩
        have hstep := op.tasksStep env db
        rwa [eq_false hearly, eq_false hrestores] at hstep
    exact Admits.congr hiff (fun _ _ _ _ => trivial) trivial ops

end Sync
