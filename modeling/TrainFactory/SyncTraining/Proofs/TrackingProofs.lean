import TrainFactory.Lib.Run
import TrainFactory.Sync.Proofs.ClaimOwnershipProofs
import TrainFactory.SyncTraining.Lifecycle

/-!
# Proofs: which deletions strand a claim

While the claim of a training is open, its parent is `TRAINING` and points to it. A run strands a
claim just where it deletes the tracking row of an open claim: no check of the delete route looks at
the claim.
-/

namespace SyncTraining

open Lib Sync Training

def Awaits (db : Database) (trainingTaskId : String) : Prop :=
  (∃ task ∈ db.tasks, task.status = .training ∧
    task.currentTrainingId = some trainingTaskId) ∨
  ∃ target ∈ db.targets, target.status = .training ∧
    target.currentTrainingId = some trainingTaskId

structure CanSettle (db : Database) (trainingTaskId : String) : Prop where
  consumable : ∀ now, ∃ r db',
    completeTrainingClaim now trainingTaskId db = .ok (r, db') ∧ r.completed = true
  restorable : ∀ now reason, ∃ r db',
    failTrainingAndRestoreClaim now trainingTaskId reason db = .ok (r, db') ∧ r.recovered = true

/-- Where a task or a target waits for an open claim, the claim is tracked and can be settled. -/
def NoneStranded (s : State) : Prop :=
  ∀ trainingTaskId ∈ s.openClaims, Awaits s.sync trainingTaskId →
    isTracked s.sync trainingTaskId = true ∧ CanSettle s.sync trainingTaskId

def Action.keepsOpenClaims (s : State) : Action → Prop
  | .deleteTrainingTracking taskId raises => taskId ∈ s.deleted → raises = false →
    ∀ t ∈ s.sync.trainings.lookup taskId, t.isOpen = false
  | _ => True

/-- No claim is open yet. -/
structure State.IsStart (s : State) : Prop where
  settled : ∀ t ∈ s.sync.trainings, t.isOpen = false
  history : s.openClaims = []

/-- Every open claim is tracked, and keeps its parent in `TRAINING`. -/
structure ClaimInv (s : State) : Prop where
  guard : GuardInv s.sync
  parent : ∀ t ∈ s.sync.trainings, t.isOpen = true →
    ∃ task, s.sync.tasks.lookup t.taskId = some task ∧ task.status = .training
  history : ∀ id, id ∈ s.openClaims ↔
    ∃ t, s.sync.trainings.lookup id = some t ∧ t.isOpen = true

theorem State.IsStart.claimInv {s : State} (h : s.IsStart) : ClaimInv s := by
  have hnone : ∀ t ∈ s.sync.trainings, ¬ t.isOpen = true := by
    intro t ht hopen
    rw [h.settled t ht] at hopen
    cases hopen
  refine ⟨fun t ht hopen => absurd hopen (hnone t ht),
    fun t ht hopen => absurd hopen (hnone t ht), fun id => ?_⟩
  rw [h.history]
  refine ⟨fun hmem => absurd hmem List.not_mem_nil, ?_⟩
  rintro ⟨t, ht, hopen⟩
  exact absurd hopen (hnone t (Table.lookup_eq_some.mp ht).1)

section Inv

variable {s : State}

theorem ClaimInv.awaited (hI : ClaimInv s) {t : ExternalSyncTraining}
    (ht : t ∈ s.sync.trainings) (hopen : t.isOpen = true) :
    ∃ task, s.sync.tasks.lookup t.taskId = some task ∧ task.status = .training ∧
      task.currentTrainingId = some t.trainingTaskId := by
  obtain ⟨task, htask, hstatus⟩ := hI.parent t ht hopen
  obtain ⟨task', htask', hcurrent, -⟩ := (hI.guard t ht hopen).parent
  obtain rfl : task = task' := Option.some.inj (htask.symm.trans htask')
  exact ⟨task, htask, hstatus, hcurrent⟩

theorem ClaimInv.noneStranded (hI : ClaimInv s) : NoneStranded s := by
  intro id hid _
  obtain ⟨t, ht, hopen⟩ := (hI.history id).mp hid
  obtain ⟨hmem, hkey⟩ := Table.lookup_eq_some.mp ht
  have hkey : t.trainingTaskId = id := hkey
  have hrec := hI.guard.reconcilable t.taskId
  refine ⟨by rw [isTracked, ht]; rfl, ?_, ?_⟩
  · intro now
    rw [← hkey]
    exact hrec.consumable t hmem rfl hopen now
  · intro now reason
    rw [← hkey]
    exact hrec.restorable t hmem rfl hopen now reason

theorem ClaimInv.of_eq (hI : ClaimInv s) {s' : State} (hsync : s'.sync = s.sync)
    (hopen : s'.openClaims = s.openClaims) : ClaimInv s' := by
  refine ⟨?_, ?_, ?_⟩
  · rw [hsync]
    exact hI.guard
  · rw [hsync]
    exact hI.parent
  · rw [hsync, hopen]
    exact hI.history

end Inv

/-! ## The claim transactions -/

section Claims

variable {s : State}

/-- A new claim is open, tracked, and the others are those of other tasks. -/
theorem ClaimInv.create (hI : ClaimInv s) (args : CreateTraining) :
    ClaimInv (step s (.createTrainingWithClaim args)) := by
  rcases createTrainingWithClaim_commit s.sync args with h | ⟨task, htask, hdel, hbusy, hclaimed⟩
  · refine hI.of_eq h ?_
    simp only [step, h]
    rw [if_neg (by simp)]
  have hguard := hI.guard.create args
  have hother : ∀ t ∈ s.sync.trainings, t.isOpen = true → t.taskId ≠ args.taskId := by
    intro t ht hopen hid
    obtain ⟨task', htask', hstatus, -⟩ := hI.awaited ht hopen
    rw [hid, htask] at htask'
    obtain rfl := Option.some.inj htask'
    rw [hstatus] at hbusy
    cases hbusy
  -- both kinds of claim insert one open row and move the task
  have hclaim : ∃ trainings claim, s.sync.trainings.insert (args.row task claim) = some trainings ∧
      ((createTrainingWithClaim args s.sync).commit s.sync).trainings = trainings ∧
      (∃ task', ((createTrainingWithClaim args s.sync).commit s.sync).tasks.lookup args.taskId =
        some task' ∧ task'.status = .training) ∧
      ∀ taskId, taskId ≠ args.taskId →
        ((createTrainingWithClaim args s.sync).commit s.sync).tasks.lookup taskId =
          s.sync.tasks.lookup taskId := by
    rcases hclaimed with ⟨trainings, -, hins, h⟩ | ⟨target, trainings, -, -, -, -, -, -, hins, h⟩
    · refine ⟨trainings, task.asClaim, hins, by rw [h]; rfl, ?_, ?_⟩
      · rw [h, claimedForTask, Table.lookup_update, if_pos rfl, Table.lookup_update, if_pos rfl,
          htask]
        exact ⟨_, rfl, rfl⟩
      · intro taskId hne
        rw [h, claimedForTask, Table.lookup_update, if_neg hne, Table.lookup_update, if_neg hne]
    · refine ⟨trainings, target.asClaim task, hins, by rw [h]; rfl, ?_, ?_⟩
      · rw [h, claimedForTarget, Table.lookup_update, if_pos rfl, htask]
        exact ⟨_, rfl, rfl⟩
      · intro taskId hne
        rw [h, claimedForTarget, Table.lookup_update, if_neg hne]
  obtain ⟨trainings, claim, hins, htrainings, hmoved, hkept⟩ := hclaim
  have hfresh : s.sync.trainings.lookup args.trainingTaskId = none := by
    refine Table.lookup_eq_none.mpr fun t ht hk => ?_
    exact (Table.insert_eq_some.mp hins).1 t ht hk
  have hlookup : ∀ id, trainings.lookup id =
      if args.trainingTaskId = id then some (args.row task claim) else s.sync.trainings.lookup id :=
    fun id => Table.lookup_insert hins id
  refine ⟨hguard, ?_, fun id => ?_⟩
  · intro t ht hopen
    rw [show (step s (.createTrainingWithClaim args)).sync.trainings = trainings from
      htrainings] at ht
    rcases (Table.mem_insert hins).mp ht with hold | rfl
    · obtain ⟨task', htask', hstatus⟩ := hI.parent t hold hopen
      exact ⟨task', (hkept t.taskId (hother t hold hopen)).trans htask', hstatus⟩
    · exact hmoved
  · have hhistory : (step s (.createTrainingWithClaim args)).openClaims =
        args.trainingTaskId :: s.openClaims := by
      simp only [step]
      rw [if_pos]
      simp [isTracked, hfresh, htrainings, hlookup]
    rw [hhistory, List.mem_cons, hI.history,
      show (step s (.createTrainingWithClaim args)).sync.trainings = trainings from htrainings,
      hlookup]
    by_cases hid : args.trainingTaskId = id
    · rw [if_pos hid]
      exact ⟨fun _ => ⟨_, rfl, rfl⟩, fun _ => Or.inl hid.symm⟩
    · rw [if_neg hid]
      exact ⟨fun h => h.resolve_left fun heq => hid heq.symm, Or.inr⟩

theorem key_reconcile (now : DateTime) (status : SyncTrainingStatus) (t : ExternalSyncTraining) :
    Keyed.key (t.reconcile now status) = Keyed.key t := rfl

theorem ClaimInv.reconcile (hI : ClaimInv s) {training : ExternalSyncTraining} {now : DateTime}
    {status : SyncTrainingStatus} {db : Database}
    (hlookup : s.sync.trainings.lookup training.trainingTaskId = some training)
    (hopen : training.isOpen = true) (hguard : GuardInv db)
    (htrainings : db.trainings = s.sync.trainings.update training.trainingTaskId
      (·.reconcile now status) (key_reconcile now status))
    (htasks : ∀ taskId, taskId ≠ training.taskId →
      db.tasks.lookup taskId = s.sync.tasks.lookup taskId) :
    ClaimInv { s with
      sync := db
      openClaims := s.openClaims.filter (· ≠ training.trainingTaskId) } := by
  have hmem := (Table.lookup_eq_some.mp hlookup).1
  refine ⟨hguard, ?_, fun id => ?_⟩
  · intro t ht hopent
    dsimp only at ht
    rw [htrainings] at ht
    obtain ⟨hmemt, hne⟩ :=
      open_of_reconcile hI.guard hmem hopen (key_reconcile now status) ht hopent
    obtain ⟨task, htask, hstatus⟩ := hI.parent t hmemt hopent
    exact ⟨task, (htasks t.taskId hne).trans htask, hstatus⟩
  · dsimp only
    rw [htrainings, Table.lookup_update, List.mem_filter, hI.history]
    by_cases hid : id = training.trainingTaskId
    · rw [if_pos hid, hid, hlookup]
      simp [ExternalSyncTraining.isOpen, ExternalSyncTraining.reconcile]
    · rw [if_neg hid]
      simp [hid]

theorem ClaimInv.complete (hI : ClaimInv s) (now : DateTime) (trainingTaskId : String) :
    ClaimInv (step s (.completeTrainingClaim now trainingTaskId)) := by
  rcases completeTrainingClaim_cases s.sync now trainingTaskId with
    ⟨r, h, hr, -⟩ | ⟨r, training, h, hr, -, hlookup, hopen, -⟩
  · refine hI.of_eq ?_ ?_ <;> simp [step, h, hr]
  · obtain ⟨hmem, hkey⟩ := Table.lookup_eq_some.mp hlookup
    obtain rfl : training.trainingTaskId = trainingTaskId := hkey
    simp only [step, h, hr, if_true]
    refine hI.reconcile hlookup hopen (hI.guard.consume now hmem hopen) rfl fun taskId hne => ?_
    unfold consumeClaim
    dsimp only
    split
    · rfl
    · rw [Table.lookup_update, if_neg hne]

theorem ClaimInv.fail (hI : ClaimInv s) (now : DateTime) (trainingTaskId reason : String) :
    ClaimInv (step s (.failTrainingAndRestoreClaim now trainingTaskId reason)) := by
  rcases failTrainingAndRestoreClaim_cases s.sync now trainingTaskId reason with
    ⟨r, h, hr, -⟩ | ⟨r, training, h, hr, hlookup, hopen, -⟩
  · refine hI.of_eq ?_ ?_ <;> simp [step, h, hr]
  · obtain ⟨hmem, hkey⟩ := Table.lookup_eq_some.mp hlookup
    obtain rfl : training.trainingTaskId = trainingTaskId := hkey
    simp only [step, h, hr, if_true]
    refine hI.reconcile hlookup hopen (hI.guard.restore now hmem hopen reason) rfl
      fun taskId hne => ?_
    unfold restoreClaim
    dsimp only
    rw [Table.lookup_update, if_neg hne]

end Claims

/-! ## The deletion of the tracking row -/

section Tracking

variable {s : State} {taskId : String}

theorem mem_deleteTrainingTracking {t : ExternalSyncTraining} :
    t ∈ (deleteTrainingTracking taskId s.sync).trainings ↔
      t ∈ s.sync.trainings ∧ t.trainingTaskId ≠ taskId := by
  simp [deleteTrainingTracking, Table.mem_deleteWhere]

theorem lookup_deleteTrainingTracking (id : String) :
    (deleteTrainingTracking taskId s.sync).trainings.lookup id =
      if id = taskId then none else s.sync.trainings.lookup id := by
  have h := Table.lookup_deleteWhere s.sync.trainings (fun k => decide (k = taskId)) id
  simpa [deleteTrainingTracking] using h

theorem ClaimInv.untrack (hI : ClaimInv s)
    (hclosed : ∀ t ∈ s.sync.trainings.lookup taskId, t.isOpen = false) :
    ClaimInv { s with sync := deleteTrainingTracking taskId s.sync } := by
  refine ⟨?_, ?_, fun id => ?_⟩
  · intro t ht hopen
    exact (hI.guard t (mem_deleteTrainingTracking.mp ht).1 hopen).frame rfl
      fun target hmem _ => ⟨target, hmem, rfl, rfl, rfl⟩
  · intro t ht hopen
    exact hI.parent t (mem_deleteTrainingTracking.mp ht).1 hopen
  · dsimp only
    rw [hI.history, lookup_deleteTrainingTracking]
    by_cases hid : id = taskId
    · rw [if_pos hid, hid]
      constructor
      · rintro ⟨t, ht, hopen⟩
        rw [hclosed t ht] at hopen
        cases hopen
      · rintro ⟨t, ht, -⟩
        cases ht
    · rw [if_neg hid]

theorem ClaimInv.strands (hI : ClaimInv s) {t : ExternalSyncTraining}
    (ht : s.sync.trainings.lookup taskId = some t) (hopen : t.isOpen = true)
    {deleted : List String} :
    ¬ NoneStranded { s with sync := deleteTrainingTracking taskId s.sync, deleted := deleted } := by
  intro hnone
  obtain ⟨hmem, hkey⟩ := Table.lookup_eq_some.mp ht
  obtain rfl : t.trainingTaskId = taskId := hkey
  obtain ⟨task, htask, hstatus, hcurrent⟩ := hI.awaited hmem hopen
  have hid : t.trainingTaskId ∈ s.openClaims := (hI.history _).mpr ⟨t, ht, hopen⟩
  have htracked := (hnone t.trainingTaskId hid
    (Or.inl ⟨task, (Table.lookup_eq_some.mp htask).1, hstatus, hcurrent⟩)).1
  dsimp only [isTracked] at htracked
  rw [lookup_deleteTrainingTracking, if_pos rfl] at htracked
  cases htracked

end Tracking

/-! ## Steps and runs -/

theorem ClaimInv.step {s : State} (hI : ClaimInv s) {a : Action} (ha : a.keepsOpenClaims s) :
    ClaimInv (step s a) := by
  cases a with
  | createTrainingWithClaim args => exact hI.create args
  | completeTrainingClaim now trainingTaskId => exact hI.complete now trainingTaskId
  | failTrainingAndRestoreClaim now trainingTaskId reason =>
    exact hI.fail now trainingTaskId reason
  | createTask task => exact hI.of_eq rfl rfl
  | updateTaskStatus args references now => exact hI.of_eq rfl rfl
  | stopIfActive taskId now => exact hI.of_eq rfl rfl
  | completeTask args now => exact hI.of_eq rfl rfl
  | deleteRoute taskId verdict =>
    simp only [SyncTraining.step]
    split
    · exact hI.of_eq rfl rfl
    · exact hI
  | deleteTask taskId =>
    simp only [SyncTraining.step]
    split
    · split
      · exact hI.of_eq rfl rfl
      · exact hI.of_eq rfl rfl
    · exact hI
  | deleteTrainingTracking taskId raises =>
    simp only [SyncTraining.step]
    by_cases hmem : taskId ∈ s.deleted
    · rw [if_pos hmem]
      cases raises with
      | true => exact hI.of_eq rfl rfl
      | false => exact (hI.untrack (ha hmem rfl)).of_eq rfl rfl
    · rw [if_neg hmem]
      exact hI

theorem ClaimInv.not_noneStranded {s : State} (hI : ClaimInv s) {a : Action}
    (ha : ¬ a.keepsOpenClaims s) : ¬ NoneStranded (SyncTraining.step s a) := by
  cases a with
  | deleteTrainingTracking taskId raises =>
    simp only [Action.keepsOpenClaims, not_forall, Bool.not_eq_false] at ha
    obtain ⟨hmem, rfl, t, ht, hopen⟩ := ha
    simp only [SyncTraining.step, if_pos hmem]
    exact hI.strands ht hopen
  | _ => exact absurd trivial ha

/-- No claim is stranded in any state of a run if and only if no step of the run deletes the
tracking row of an open claim. -/
theorem noneStranded_iff {s : State} (hs : s.IsStart) (actions : List Action) :
    (∀ before, before <+: actions → NoneStranded (exec step s before)) ↔
      Admits step (fun s a => a.keepsOpenClaims s) s actions :=
  @prefixes_iff_admits _ _ step (fun s a => a.keepsOpenClaims s) ClaimInv NoneStranded
    (fun _ hI => hI.noneStranded) (fun _ _ hI ha => hI.step ha)
    (fun _ _ hI ha => hI.not_noneStranded ha) s hs.claimInv actions

def firstTask : TrainingTask :=
  ⟨"first", some "user", .pending, 0, none, none, none, none, none, none, .null, none, .null, none,
    none, none, none, none, none, 0⟩

def oneTask : State where
  training := Table.empty
  sync := Database.ofTask generatingTask

def stopped : List Action :=
  [.createTrainingWithClaim firstClaim, .createTask firstTask, .stopIfActive "first" 1]

def deletion : List Action :=
  [.deleteRoute "first" true, .deleteTask "first", .deleteTrainingTracking "first" false]

theorem isStart_oneTask : oneTask.IsStart :=
  ⟨fun t ht => absurd ht (Table.not_mem_empty t), rfl⟩

/-- The callback restores the claim before the deletion. -/
def settled : List Action :=
  stopped ++ .failTrainingAndRestoreClaim 2 "first" "Stopped" :: deletion

theorem noneStranded_settled : NoneStranded (exec step oneTask settled) := by
  refine (noneStranded_iff isStart_oneTask settled).mpr ?_ settled List.prefix_rfl
  refine ⟨trivial, trivial, trivial, trivial, trivial, trivial, ?_, trivial⟩
  intro _ _ t ht
  have hclosed : ((exec step oneTask (stopped ++ [.failTrainingAndRestoreClaim 2 "first" "Stopped",
      .deleteRoute "first" true, .deleteTask "first"])).sync.trainings.lookup "first").all
        (fun t => !t.isOpen) = true := by decide
  simpa using (Option.all_eq_true ..).mp hclosed t ht

/-- The callback has failed before the deletion: the task stays in `TRAINING`, without the record of
its claim. -/
theorem stranded_stopped :
    oneTask.IsStart ∧ ¬ NoneStranded (exec step oneTask (stopped ++ deletion)) := by
  refine ⟨isStart_oneTask, fun hnone => ?_⟩
  have hopen : "first" ∈ (exec step oneTask (stopped ++ deletion)).openClaims := by decide
  have huntracked : isTracked (exec step oneTask (stopped ++ deletion)).sync "first" = false := by
    decide
  have htask : ((exec step oneTask (stopped ++ deletion)).sync.tasks.lookup "task").any
      (fun task => task.status = .training && task.currentTrainingId = some "first") = true := by
    decide
  have hwaits : Awaits (exec step oneTask (stopped ++ deletion)).sync "first" := by
    obtain ⟨task, hlookup, hwaits⟩ := (Option.any_eq_true ..).mp htask
    simp only [Bool.and_eq_true, decide_eq_true_eq] at hwaits
    exact Or.inl ⟨task, (Table.lookup_eq_some.mp hlookup).1, hwaits.1, hwaits.2⟩
  rw [(hnone "first" hopen hwaits).1] at huntracked
  cases huntracked

end SyncTraining
