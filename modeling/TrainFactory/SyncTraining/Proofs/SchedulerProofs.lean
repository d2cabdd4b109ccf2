import Mathlib.Logic.Equiv.List
import TrainFactory.Sync.Proofs.ClaimOwnershipProofs
import TrainFactory.SyncTraining.Scheduler

/-!
# Proofs: the order of the scheduler and the order of the claim

A launch that fails leaves the targets as it found them, so the next call lists them in the same
order and hands over the same target: the targets behind it wait as long as it cannot be launched.
And the list is ordered by `sort_order` alone, the claim by `priority` first.
-/

namespace SyncTraining

open Lib Sync

/-! ## Launches -/

def acceptsClaim (task : ExternalSyncTask) : Bool := !task.status.isBusy && !task.status.isDeleting

def Call.succeeds (call : Call) (task : ExternalSyncTask) (target : ExternalSyncTrainingTarget) :
    Bool :=
  acceptsClaim task && (call.prepare target).isSome && (call.failure target).isNone

structure Launchable (configId : String) (target : ExternalSyncTrainingTarget) (db : Database) :
    Prop where
  mem : target ∈ activeTargets db configId
  free : ∀ t ∈ activeTargets db configId, t.status.isBusy = false
  schedulable : isSchedulable target = true
  nonempty : target.targetId ≠ ""

section Launch

variable {call : Call} {configId : String} {task : ExternalSyncTask}
  {target : ExternalSyncTrainingTarget} {db : Database}

theorem mem_activeTargets {t : ExternalSyncTrainingTarget} :
    t ∈ activeTargets db configId ↔ t ∈ db.targets ∧ t.taskId = configId ∧ t.isActive = true := by
  simp [activeTargets]

theorem isSchedulable_iff {t : ExternalSyncTrainingTarget} :
    isSchedulable t = true ↔ t.status.isEligible true = true ∧ 0 < t.trainingThreshold ∧
      t.trainingThreshold ≤ t.pendingTrainingSamples := by
  simp [isSchedulable, reachesThreshold]

theorem find?_activeTargets (h : target ∈ activeTargets db configId) :
    (activeTargets db configId).find? (fun t => some t.targetId = some target.targetId) =
      some target := by
  cases hfind : (activeTargets db configId).find?
      fun t => some t.targetId = some target.targetId with
  | none =>
    have := List.find?_eq_none.mp hfind target h
    simp at this
  | some t =>
    have hmem := List.mem_of_find?_eq_some hfind
    have hid : t.targetId = target.targetId := by simpa using List.find?_some hfind
    rw [Table.eq_of_key (mem_activeTargets.mp hmem).1 (mem_activeTargets.mp h).1 hid]

theorem createTraining_launchable (htarget : Launchable configId target db)
    (htask : db.tasks.lookup configId = some task) (haccepts : acceptsClaim task = true)
    (hfresh : ∀ t ∈ db.trainings, t.trainingTaskId ≠ call.trainingTaskId)
    (datasets : List String × Int) :
    ∃ trainings, db.trainings.insert
        ((call.claim configId task target datasets).row task (target.asClaim task)) =
          some trainings ∧
      createTrainingWithClaim (call.claim configId task target datasets) db =
        .ok (some ((call.claim configId task target datasets).row task (target.asClaim task)),
          claimedForTarget (call.claim configId task target datasets) target.targetId trainings
            db) := by
  obtain ⟨trainings, hins⟩ := @Table.exists_insert _ _ _ _ db.trainings
    ((call.claim configId task target datasets).row task (target.asClaim task)) hfresh
  refine ⟨trainings, hins, ?_⟩
  have hlookup : db.trainings.lookup call.trainingTaskId = none := Table.lookup_eq_none.mpr hfresh
  obtain ⟨hbusy, hdel⟩ : task.status.isBusy = false ∧ task.status.isDeleting = false := by
    simpa [acceptsClaim] using haccepts
  have hallowed : validateTransition taskStatusTransitions "sync task" task.status .training =
      .ok () := validateTransition_eq_ok.mpr (Or.inr (training_allowed hbusy hdel))
  have htruthy : truthy (some target.targetId) = true := by
    simpa [truthy] using htarget.nonempty
  have hfree : (activeTargets db configId).any (fun t => t.status.isBusy) = false :=
    List.any_eq_false.mpr fun t ht => by simp [htarget.free t ht]
  obtain ⟨helig, hpos, hreach⟩ := isSchedulable_iff.mp htarget.schedulable
  have hclaimed : (target.asClaim task).claimedSampleCount = target.pendingTrainingSamples := by
    simp only [ExternalSyncTrainingTarget.asClaim]
    omega
  have hbelow : belowThreshold true target.trainingThreshold target.pendingTrainingSamples =
      false := by
    simp only [belowThreshold, Bool.true_and, Bool.or_eq_false_iff, decide_eq_false_iff_not]
    omega
  unfold createTrainingWithClaim
  simp only [Call.claim] at hins ⊢
  simp only [hlookup, htask, hbusy, hdel, htruthy, claimForTarget, hfree,
    find?_activeTargets htarget.mem, helig, hclaimed, hbelow, recordClaim, hallowed, ne_eq,
    not_true_eq_false, Bool.false_eq_true, ↓reduceIte]
  rw [hins]
  rfl

theorem createTraining_refused (htask : db.tasks.lookup configId = some task)
    (haccepts : acceptsClaim task = false)
    (hfresh : ∀ t ∈ db.trainings, t.trainingTaskId ≠ call.trainingTaskId)
    (target : ExternalSyncTrainingTarget) (datasets : List String × Int) :
    (∃ e, createTrainingWithClaim (call.claim configId task target datasets) db = .error e) ∨
      createTrainingWithClaim (call.claim configId task target datasets) db = .ok (none, db) := by
  have hlookup : db.trainings.lookup call.trainingTaskId = none := Table.lookup_eq_none.mpr hfresh
  unfold createTrainingWithClaim
  simp only [Call.claim, hlookup, htask, ne_eq, not_true_eq_false, ↓reduceIte]
  cases hdel : task.status.isDeleting with
  | true => exact Or.inl ⟨_, if_pos rfl⟩
  | false =>
    have hbusy : task.status.isBusy = true := by simpa [acceptsClaim, hdel] using haccepts
    exact Or.inr (by simp [hbusy])

theorem restore_claim (htarget : isSchedulable target = true) (args : CreateTraining) :
    (target.claim args.trainingTaskId).restore (args.row task (target.asClaim task)) = target := by
  obtain ⟨-, hpos, hreach⟩ := isSchedulable_iff.mp htarget
  have hpending : max (target.claim args.trainingTaskId).pendingTrainingSamples 0 +
      max (args.row task (target.asClaim task)).claimedSampleCount 0 =
        target.pendingTrainingSamples := by
    simp only [ExternalSyncTrainingTarget.claim, CreateTraining.row,
      ExternalSyncTrainingTarget.asClaim]
    omega
  unfold ExternalSyncTrainingTarget.restore
  rw [hpending]
  rfl

end Launch

/-- The targets are as they were, and the task takes a claim if it did. -/
structure Kept (configId : String) (db db' : Database) : Prop where
  targets : db'.targets = db.targets
  accepts : (db'.tasks.lookup configId).map acceptsClaim =
    (db.tasks.lookup configId).map acceptsClaim

theorem Kept.refl (configId : String) (db : Database) : Kept configId db db := ⟨rfl, rfl⟩

theorem Kept.trans {configId : String} {db db' db'' : Database} (h : Kept configId db db')
    (h' : Kept configId db' db'') : Kept configId db db'' :=
  ⟨h'.targets.trans h.targets, h'.accepts.trans h.accepts⟩

def TrainingsFrom (trainingTaskId : String) (db db' : Database) : Prop :=
  ∀ t ∈ db'.trainings, (∃ t₀ ∈ db.trainings, t.trainingTaskId = t₀.trainingTaskId) ∨
    t.trainingTaskId = trainingTaskId

theorem TrainingsFrom.refl (trainingTaskId : String) (db : Database) :
    TrainingsFrom trainingTaskId db db := fun t ht => Or.inl ⟨t, ht, rfl⟩

section Launch

variable {call : Call} {configId : String} {task : ExternalSyncTask}
  {target : ExternalSyncTrainingTarget} {db : Database} {args : CreateTraining}
  {trainings : Table ExternalSyncTraining}

theorem busy_claimedForTarget (htarget : target ∈ activeTargets db configId) :
    ∃ t ∈ activeTargets (claimedForTarget args target.targetId trainings db) configId,
      t.status.isBusy = true := by
  obtain ⟨hmem, htid, hactive⟩ := mem_activeTargets.mp htarget
  refine ⟨target.claim args.trainingTaskId, mem_activeTargets.mpr ⟨?_, htid, hactive⟩, rfl⟩
  show _ ∈ db.targets.update target.targetId (·.claim args.trainingTaskId) args.key_claimedTarget
  exact Table.mem_update.mpr ⟨target, hmem, (if_pos rfl).symm⟩

theorem targets_restored (htarget : target ∈ db.targets) (hsched : isSchedulable target = true)
    (hid : args.targetId = some target.targetId) (htid : target.taskId = args.taskId) :
    (claimedForTarget args target.targetId trainings db).targets.updateWhere
      (fun t => t.taskId = (args.row task (target.asClaim task)).taskId &&
        some t.targetId = (args.row task (target.asClaim task)).targetId)
      (·.restore (args.row task (target.asClaim task))) = db.targets := by
  refine Table.updateWhere_update_eq_self args.key_claimedTarget _ (fun t ht hkey => ?_)
    fun t ht hkey => ?_
  · have hne : some t.targetId ≠ args.targetId := fun h => hkey (Option.some.inj (h.trans hid))
    simp [CreateTraining.row, hne]
  · obtain rfl := Table.eq_of_key (R := ExternalSyncTrainingTarget) ht htarget hkey
    refine ⟨?_, restore_claim hsched args⟩
    simp [CreateTraining.row, ExternalSyncTrainingTarget.claim, htid, hid]

theorem claimOwned_claimedForTarget (htarget : target ∈ activeTargets db args.taskId)
    (htask : db.tasks.lookup args.taskId = some task)
    (hid : args.targetId = some target.targetId) :
    claimOwned (claimedForTarget args target.targetId trainings db)
      (args.row task (target.asClaim task)) = true := by
  obtain ⟨hmem, htid, -⟩ := mem_activeTargets.mp htarget
  refine claimOwned_iff.mpr ⟨⟨task.claim args.trainingTaskId, ?_, rfl⟩, fun _ =>
    ⟨target.claim args.trainingTaskId, ?_, htid, hid.symm, rfl⟩⟩
  · show (db.tasks.update args.taskId (·.claim args.trainingTaskId) args.key_claimedTask).lookup
      args.taskId = _
    rw [Table.lookup_update, if_pos rfl, htask]
    rfl
  · show _ ∈ db.targets.update target.targetId (·.claim args.trainingTaskId) args.key_claimedTarget
    exact Table.mem_update.mpr ⟨target, hmem, (if_pos rfl).symm⟩

theorem failTraining_claimed (htarget : target ∈ activeTargets db args.taskId)
    (htask : db.tasks.lookup args.taskId = some task)
    (hid : args.targetId = some target.targetId)
    (hins : db.trainings.insert (args.row task (target.asClaim task)) = some trainings)
    (now : DateTime) (reason : String) :
    (failTrainingAndRestoreClaim now args.trainingTaskId reason
        (claimedForTarget args target.targetId trainings db)).commit
          (claimedForTarget args target.targetId trainings db) =
      restoreClaim now (args.row task (target.asClaim task)) reason
        (claimedForTarget args target.targetId trainings db) := by
  have hlookup : (claimedForTarget args target.targetId trainings db).trainings.lookup
      args.trainingTaskId = some (args.row task (target.asClaim task)) :=
    (Table.lookup_insert hins args.trainingTaskId).trans (if_pos rfl)
  have howned : claimOwned (claimedForTarget args target.targetId trainings db)
      (args.row task (target.asClaim task)) = true :=
    claimOwned_claimedForTarget htarget htask hid
  rcases failTrainingAndRestoreClaim_cases (claimedForTarget args target.targetId trainings db) now
    args.trainingTaskId reason with ⟨r, -, -, hnot⟩ | ⟨r, training, h, -, hl, -, -⟩
  · exact absurd ⟨rfl, howned⟩ (hnot _ hlookup)
  · rw [hlookup] at hl
    obtain rfl := Option.some.inj hl
    rw [h, Outcome.commit_ok]

theorem kept_restored (htarget : target ∈ activeTargets db args.taskId)
    (hsched : isSchedulable target = true) (htask : db.tasks.lookup args.taskId = some task)
    (haccepts : acceptsClaim task = true) (hid : args.targetId = some target.targetId)
    (hne : target.targetId ≠ "") (now : DateTime) (reason : String) :
    Kept args.taskId db (restoreClaim now (args.row task (target.asClaim task)) reason
      (claimedForTarget args target.targetId trainings db)) := by
  obtain ⟨hmem, htid, -⟩ := mem_activeTargets.mp htarget
  have htruthy : truthy (args.row task (target.asClaim task)).targetId = true := by
    show truthy args.targetId = true
    simpa [hid, truthy] using hne
  refine ⟨?_, ?_⟩
  · unfold restoreClaim
    simp only [htruthy, if_true]
    exact targets_restored hmem hsched hid htid
  · have hrestored := Table.lookup_update (claimedForTarget args target.targetId trainings db).tasks
      args.taskId (·.restore (args.row task (target.asClaim task)) reason) (fun _ => rfl)
      args.taskId
    have hclaimed : (claimedForTarget args target.targetId trainings db).tasks.lookup args.taskId =
        some (task.claim args.trainingTaskId) := by
      show (db.tasks.update args.taskId (·.claim args.trainingTaskId) args.key_claimedTask).lookup
        args.taskId = _
      rw [Table.lookup_update, if_pos rfl, htask]
      rfl
    rw [if_pos rfl, hclaimed] at hrestored
    rw [htask, Option.map_some, haccepts]
    exact congrArg (Option.map acceptsClaim) hrestored

theorem trainingsFrom_restored
    (hins : db.trainings.insert (args.row task (target.asClaim task)) = some trainings)
    (now : DateTime) (reason : String) :
    TrainingsFrom args.trainingTaskId db (restoreClaim now (args.row task (target.asClaim task))
      reason (claimedForTarget args target.targetId trainings db)) := by
  have hkey : ∀ t : ExternalSyncTraining, Keyed.key (t.reconcile now .failed) = Keyed.key t :=
    fun _ => rfl
  intro t ht
  obtain ⟨t₀, ht₀, rfl⟩ :=
    (@Table.mem_update _ _ _ _ trainings args.trainingTaskId _ hkey t).mp ht
  have hid : (if Keyed.key t₀ = args.trainingTaskId then t₀.reconcile now .failed
      else t₀).trainingTaskId = t₀.trainingTaskId := by
    split <;> rfl
  rcases (Table.mem_insert hins).mp ht₀ with ht₀ | rfl
  · exact Or.inl ⟨t₀, ht₀, hid⟩
  · exact Or.inr hid

theorem launchFrom_succeeds (htarget : Launchable configId target db)
    (htask : db.tasks.lookup configId = some task)
    (hfresh : ∀ t ∈ db.trainings, t.trainingTaskId ≠ call.trainingTaskId)
    (hsucceeds : call.succeeds task target = true) :
    (launchFrom call configId target db).1 = true ∧
      ∃ t ∈ activeTargets (launchFrom call configId target db).2 configId,
        t.status.isBusy = true := by
  simp only [Call.succeeds, Bool.and_eq_true, Option.isSome_iff_exists,
    Option.isNone_iff_eq_none] at hsucceeds
  obtain ⟨⟨haccepts, datasets, hprepare⟩, hfailure⟩ := hsucceeds
  obtain ⟨trainings, -, hcreate⟩ := createTraining_launchable htarget htask haccepts hfresh datasets
  have hlaunch : launchFrom call configId target db =
      (true, claimedForTarget (call.claim configId task target datasets) target.targetId
        trainings db) := by
    simp only [launchFrom, htask, hprepare, hcreate, hfailure]
  rw [hlaunch]
  exact ⟨rfl, busy_claimedForTarget htarget.mem⟩

theorem launchFrom_fails (htarget : Launchable configId target db)
    (htask : db.tasks.lookup configId = some task)
    (hfresh : ∀ t ∈ db.trainings, t.trainingTaskId ≠ call.trainingTaskId)
    (hfails : call.succeeds task target = false) :
    (launchFrom call configId target db).1 = false ∧
      Kept configId db (launchFrom call configId target db).2 ∧
      TrainingsFrom call.trainingTaskId db (launchFrom call configId target db).2 := by
  have hsame : ∀ {result : Bool × Database}, result = (false, db) →
      result.1 = false ∧ Kept configId db result.2 ∧
        TrainingsFrom call.trainingTaskId db result.2 := by
    rintro _ rfl
    exact ⟨rfl, Kept.refl configId db, TrainingsFrom.refl _ db⟩
  cases hprepare : call.prepare target with
  | none => exact hsame (by simp only [launchFrom, htask, hprepare])
  | some datasets =>
    cases haccepts : acceptsClaim task with
    | false =>
      rcases createTraining_refused htask haccepts hfresh target datasets with ⟨e, he⟩ | hnone
      · exact hsame (by simp only [launchFrom, htask, hprepare, he])
      · exact hsame (by simp only [launchFrom, htask, hprepare, hnone])
    | true =>
      cases hfailure : call.failure target with
      | none => simp [Call.succeeds, haccepts, hprepare, hfailure] at hfails
      | some failure =>
        obtain ⟨trainings, hins, hcreate⟩ :=
          createTraining_launchable htarget htask haccepts hfresh datasets
        have hfail := failTraining_claimed htarget.mem htask rfl hins failure.2 failure.1
        have hlaunch : launchFrom call configId target db = (false,
            restoreClaim failure.2
              ((call.claim configId task target datasets).row task (target.asClaim task))
              failure.1 (claimedForTarget (call.claim configId task target datasets)
                target.targetId trainings db)) := by
          simp only [launchFrom, htask, hprepare, hcreate, hfailure]
          exact congrArg (Prod.mk false) hfail
        rw [hlaunch]
        have hkept := @kept_restored task target db (call.claim configId task target datasets)
          trainings htarget.mem htarget.schedulable htask haccepts rfl htarget.nonempty
          failure.2 failure.1
        exact ⟨rfl, hkept, trainingsFrom_restored hins failure.2 failure.1⟩

end Launch

/-! ## Picking -/

/-- Only targets that cannot be scheduled are read before `t`. -/
def ReadFirst (rows : List ExternalSyncTrainingTarget) (t : ExternalSyncTrainingTarget) : Prop :=
  ∃ before after, rows = before ++ t :: after ∧ ∀ u ∈ before, isSchedulable u = false

section Pick

variable {call : Call} {configId : String} {t : ExternalSyncTrainingTarget} {db db' : Database}
  {id : String → Int}

theorem nextTarget_eq_some {rows : List ExternalSyncTrainingTarget} :
    nextTarget rows = some t ↔
      (∀ u ∈ rows, u.status.isBusy = false) ∧ isSchedulable t = true ∧ ReadFirst rows t := by
  unfold nextTarget ReadFirst
  cases hbusy : rows.any fun t => t.status.isBusy with
  | true =>
    obtain ⟨u, hu, hub⟩ := List.any_eq_true.mp hbusy
    simp only [if_true, reduceCtorEq, false_iff]
    rintro ⟨hfree, -⟩
    rw [hfree u hu] at hub
    cases hub
  | false =>
    have hfree : ∀ u ∈ rows, u.status.isBusy = false := by simpa using hbusy
    simp only [Bool.false_eq_true, if_false, List.find?_eq_some_iff_append, Bool.not_eq_true']
    exact ⟨fun h => ⟨hfree, h⟩, fun h => h.2⟩

theorem nextTarget_eq_none {rows : List ExternalSyncTrainingTarget} :
    nextTarget rows = none ↔
      (∃ u ∈ rows, u.status.isBusy = true) ∨ ∀ u ∈ rows, isSchedulable u = false := by
  unfold nextTarget
  split
  · rename_i hbusy
    exact ⟨fun _ => Or.inl (List.any_eq_true.mp hbusy), fun _ => rfl⟩
  · rename_i hbusy
    rw [List.any_eq_true] at hbusy
    simp [List.find?_eq_none, hbusy]

theorem mem_listed {order : SortOrder} :
    t ∈ listTrainingTargetsRaw order configId db ↔ t ∈ activeTargets db configId :=
  (order.perm _).mem_iff

theorem tried_eq_some : (scheduleNextTraining call configId db).tried = some t ↔
    (∀ u ∈ activeTargets db configId, u.status.isBusy = false) ∧ isSchedulable t = true ∧
      ReadFirst (listTrainingTargetsRaw call.order configId db) t := by
  have htried : (scheduleNextTraining call configId db).tried =
      nextTarget (listTrainingTargetsRaw call.order configId db) := by
    unfold scheduleNextTraining
    split <;> simp_all
  rw [htried, nextTarget_eq_some]
  simp only [mem_listed]

theorem tried_eq_none : (scheduleNextTraining call configId db).tried = none ↔
    (∃ u ∈ activeTargets db configId, u.status.isBusy = true) ∨
      ∀ u ∈ activeTargets db configId, isSchedulable u = false := by
  have htried : (scheduleNextTraining call configId db).tried =
      nextTarget (listTrainingTargetsRaw call.order configId db) := by
    unfold scheduleNextTraining
    split <;> simp_all
  rw [htried, nextTarget_eq_none]
  simp only [mem_listed]

theorem ReadFirst.mem {rows : List ExternalSyncTrainingTarget} (h : ReadFirst rows t) :
    t ∈ rows := by
  obtain ⟨before, after, rfl, -⟩ := h
  simp

theorem scheduleNextTraining_of_tried
    (h : (scheduleNextTraining call configId db).tried = some t) :
    (scheduleNextTraining call configId db).started = (launchFrom call configId t db).1 ∧
      (scheduleNextTraining call configId db).db = (launchFrom call configId t db).2 := by
  unfold scheduleNextTraining at h ⊢
  split at h
  · cases h
  · rename_i hnext
    obtain rfl := Option.some.inj h
    exact ⟨rfl, rfl⟩

theorem scheduleNextTraining_of_none
    (h : (scheduleNextTraining call configId db).tried = none) :
    (scheduleNextTraining call configId db).db = db := by
  unfold scheduleNextTraining at h ⊢
  split at h
  · rename_i hnext
    rfl
  · cases h

/-! ### The claim -/

instance : Std.Total (claimsBefore id) := ⟨fun t u => by unfold claimsBefore; omega⟩

instance : IsTrans ExternalSyncTrainingTarget (claimsBefore id) :=
  ⟨fun t u v => by unfold claimsBefore; omega⟩

structure LeastSchedulable (id : String → Int) (configId : String) (db : Database)
    (t : ExternalSyncTrainingTarget) : Prop where
  mem : t ∈ activeTargets db configId
  schedulable : isSchedulable t = true
  least : ∀ u ∈ activeTargets db configId, isSchedulable u = true → claimsBefore id t u

def claimedTargetId (id : String → Int) (configId : String) (db : Database) : Option String :=
  (claimTrainingTarget id configId none true db).1.map ExternalSyncTrainingTarget.targetId

theorem isCandidate_eq : isCandidate none true = isSchedulable := by
  funext t
  simp [isCandidate, isSchedulable]

theorem claimedTargetId_eq (h : (db.tasks.lookup configId).isSome = true)
    (hfree : ∀ u ∈ activeTargets db configId, u.status.isBusy = false) :
    claimedTargetId id configId db =
      (((activeTargets db configId).insertionSort (claimsBefore id)).find? isSchedulable).map
        ExternalSyncTrainingTarget.targetId := by
  obtain ⟨task, htask⟩ := Option.isSome_iff_exists.mp h
  have hany : ((activeTargets db configId).insertionSort (claimsBefore id)).any
      (fun t => t.status.isBusy) = false := by
    rw [List.any_eq_false]
    intro u hu
    simp [hfree u ((List.mem_insertionSort _).mp hu)]
  unfold claimedTargetId claimTrainingTarget
  simp only [htask, hany, Bool.false_eq_true, if_false, isCandidate_eq]
  rw [← List.head?_filter]
  cases ((activeTargets db configId).insertionSort (claimsBefore id)).filter isSchedulable <;> rfl

theorem exists_of_claimedTargetId_eq_some {x : String}
    (h : claimedTargetId id configId db = some x) :
    (db.tasks.lookup configId).isSome = true ∧
      ∃ t, LeastSchedulable id configId db t ∧ t.targetId = x := by
  cases htask : db.tasks.lookup configId with
  | none => simp [claimedTargetId, claimTrainingTarget, htask] at h
  | some task =>
    refine ⟨rfl, ?_⟩
    cases hany : (activeTargets db configId).any fun t => t.status.isBusy with
    | true =>
      have hsorted : ((activeTargets db configId).insertionSort (claimsBefore id)).any
          (fun t => t.status.isBusy) = true := by
        obtain ⟨u, hu, hub⟩ := List.any_eq_true.mp hany
        exact List.any_eq_true.mpr ⟨u, (List.mem_insertionSort _).mpr hu, hub⟩
      simp [claimedTargetId, claimTrainingTarget, htask, hsorted] at h
    | false =>
      rw [claimedTargetId_eq (by rw [htask]; rfl) (by simpa using hany)] at h
      obtain ⟨t, hfind, rfl⟩ := Option.map_eq_some_iff.mp h
      refine ⟨t, ⟨(List.mem_insertionSort _).mp (List.mem_of_find?_eq_some hfind),
        List.find?_some hfind, fun u hu hsched => ?_⟩, rfl⟩
      exact rel_of_find?_eq_some (List.pairwise_insertionSort (claimsBefore id) _) hfind u
        ((List.mem_insertionSort _).mpr hu) hsched

theorem LeastSchedulable.unique (hid : Function.Injective id) {u : ExternalSyncTrainingTarget}
    (h : LeastSchedulable id configId db t) (h' : LeastSchedulable id configId db u) : t = u := by
  have htu := h.least u h'.mem h'.schedulable
  have hut := h'.least t h.mem h.schedulable
  have hkey : id t.targetId = id u.targetId := by
    unfold claimsBefore at htu hut
    omega
  exact Table.eq_of_key (mem_activeTargets.mp h.mem).1 (mem_activeTargets.mp h'.mem).1 (hid hkey)

theorem LeastSchedulable.claimed (hid : Function.Injective id)
    (h : LeastSchedulable id configId db t) (htask : (db.tasks.lookup configId).isSome = true)
    (hfree : ∀ u ∈ activeTargets db configId, u.status.isBusy = false) :
    claimedTargetId id configId db = some t.targetId := by
  cases hclaimed : claimedTargetId id configId db with
  | none =>
    rw [claimedTargetId_eq htask hfree, Option.map_eq_none_iff, List.find?_eq_none] at hclaimed
    exact absurd h.schedulable (hclaimed t ((List.mem_insertionSort _).mpr h.mem))
  | some x =>
    obtain ⟨-, u, hu, rfl⟩ := exists_of_claimedTargetId_eq_some hclaimed
    rw [h.unique hid hu]

theorem claimedTargetId_eq_none (h : (∃ u ∈ activeTargets db configId, u.status.isBusy = true) ∨
    ∀ u ∈ activeTargets db configId, isSchedulable u = false) :
    claimedTargetId id configId db = none := by
  cases hclaimed : claimedTargetId id configId db with
  | none => rfl
  | some x =>
    obtain ⟨-, t, ht, -⟩ := exists_of_claimedTargetId_eq_some hclaimed
    rcases h with ⟨u, hu, hbusy⟩ | hnone
    · have hsorted : ((activeTargets db configId).insertionSort (claimsBefore id)).any
          (fun t => t.status.isBusy) = true :=
        List.any_eq_true.mpr ⟨u, (List.mem_insertionSort _).mpr hu, hbusy⟩
      have hnone : claimedTargetId id configId db = none := by
        unfold claimedTargetId claimTrainingTarget
        split <;> simp [hsorted]
      rw [hnone] at hclaimed
      cases hclaimed
    · have := ht.schedulable
      rw [hnone t ht.mem] at this
      cases this

theorem Kept.activeTargets (h : Kept configId db db') :
    activeTargets db' configId = activeTargets db configId := by
  unfold Sync.activeTargets
  rw [h.targets]

theorem Kept.least (h : Kept configId db db') :
    LeastSchedulable id configId db' t ↔ LeastSchedulable id configId db t := by
  have hactive := h.activeTargets
  constructor
  · rintro ⟨hmem, hsched, hleast⟩
    rw [hactive] at hmem hleast
    exact ⟨hmem, hsched, hleast⟩
  · rintro ⟨hmem, hsched, hleast⟩
    rw [← hactive] at hmem hleast
    exact ⟨hmem, hsched, hleast⟩

theorem Kept.isSome (h : Kept configId db db') :
    (db'.tasks.lookup configId).isSome = (db.tasks.lookup configId).isSome := by
  simpa using congrArg Option.isSome h.accepts

end Pick

/-! ## Runs -/

section Run

variable {db : Database} {keys : TargetKeys db} {calls : Calls db} {configId : String}
  {task : ExternalSyncTask} {t : ExternalSyncTrainingTarget}

abbrev Calls.before (calls : Calls db) (configId : String) (n : Nat) : Database :=
  afterCalls calls.call configId db n

abbrev Calls.at (calls : Calls db) (configId : String) (n : Nat) : Scheduled :=
  scheduledAt calls.call configId db n

/-- What holds before call `n` while no launch of `t` has gone through. -/
structure Quiet (calls : Calls db) (configId : String) (n : Nat) : Prop where
  kept : Kept configId db (calls.before configId n)
  trainings : ∀ row ∈ (calls.before configId n).trainings,
    (∃ row₀ ∈ db.trainings, row.trainingTaskId = row₀.trainingTaskId) ∨
      ∃ m < n, row.trainingTaskId = (calls.call m).trainingTaskId

theorem Quiet.fresh {n : Nat} (h : Quiet calls configId n) :
    ∀ row ∈ (calls.before configId n).trainings,
      row.trainingTaskId ≠ (calls.call n).trainingTaskId := by
  intro row hrow heq
  rcases h.trainings row hrow with ⟨row₀, hrow₀, hid⟩ | ⟨m, hm, hid⟩
  · exact calls.fresh n row₀ hrow₀ (hid.symm.trans heq)
  · exact absurd (calls.injective (hid.symm.trans heq)) hm.ne

theorem Quiet.launchable {n : Nat} (h : Quiet calls configId n) (keys : TargetKeys db)
    (htried : (calls.at configId n).tried = some t) :
    Launchable configId t (calls.before configId n) := by
  obtain ⟨hfree, hsched, hread⟩ := tried_eq_some.mp htried
  have hmem := mem_listed.mp hread.mem
  refine ⟨hmem, hfree, hsched, keys.nonempty t ?_⟩
  rw [h.kept.activeTargets] at hmem
  exact (mem_activeTargets.mp hmem).1

theorem Quiet.succeeds {n : Nat} (h : Quiet calls configId n)
    (htask : db.tasks.lookup configId = some task) :
    ∃ task', (calls.before configId n).tasks.lookup configId = some task' ∧
      (calls.call n).succeeds task' t = (calls.call n).succeeds task t := by
  have haccepts := h.kept.accepts
  rw [htask, Option.map_some] at haccepts
  obtain ⟨task', htask', heq⟩ := Option.map_eq_some_iff.mp haccepts
  exact ⟨task', htask', by simp only [Call.succeeds, heq]⟩

theorem Quiet.succ {n : Nat} (h : Quiet calls configId n) (keys : TargetKeys db)
    (htask : db.tasks.lookup configId = some task)
    (htried : (calls.at configId n).tried = some t)
    (hfails : (calls.call n).succeeds task t = false) :
    (calls.at configId n).started = false ∧ Quiet calls configId (n + 1) := by
  obtain ⟨task', htask', hsame⟩ := h.succeeds (t := t) htask
  obtain ⟨hstarted, hkept, htrainings⟩ := launchFrom_fails (h.launchable keys htried) htask' h.fresh
    (hsame.trans hfails)
  obtain ⟨heq, hdb⟩ := scheduleNextTraining_of_tried htried
  rw [← hdb] at hkept htrainings
  refine ⟨heq.trans hstarted, h.kept.trans hkept, fun row hrow => ?_⟩
  rcases htrainings row hrow with ⟨row₁, hrow₁, hid₁⟩ | hid
  · rcases h.trainings row₁ hrow₁ with ⟨row₀, hrow₀, hid₀⟩ | ⟨m, hm, hid₀⟩
    · exact Or.inl ⟨row₀, hrow₀, hid₁.trans hid₀⟩
    · exact Or.inr ⟨m, hm.trans n.lt_succ_self, hid₁.trans hid₀⟩
  · exact Or.inr ⟨n, n.lt_succ_self, hid⟩

theorem Quiet.busy {n : Nat} (h : Quiet calls configId n) (keys : TargetKeys db)
    (htask : db.tasks.lookup configId = some task)
    (htried : (calls.at configId n).tried = some t)
    (hsucceeds : (calls.call n).succeeds task t = true) :
    (calls.at configId n).started = true ∧
      ∃ u ∈ activeTargets (calls.before configId (n + 1)) configId, u.status.isBusy = true := by
  obtain ⟨task', htask', hsame⟩ := h.succeeds (t := t) htask
  obtain ⟨hstarted, hbusy⟩ := launchFrom_succeeds (h.launchable keys htried) htask' h.fresh
    (hsame.trans hsucceeds)
  obtain ⟨heq, hdb⟩ := scheduleNextTraining_of_tried htried
  rw [← hdb] at hbusy
  exact ⟨heq.trans hstarted, hbusy⟩

theorem quiet_zero (calls : Calls db) (configId : String) : Quiet calls configId 0 :=
  ⟨Kept.refl configId db, fun row hrow => Or.inl ⟨row, hrow, rfl⟩⟩

theorem quiet_of_fails (keys : TargetKeys db) (htask : db.tasks.lookup configId = some task)
    (htried : ∀ n, (∀ m < n, (calls.call m).succeeds task t = false) → Quiet calls configId n →
      (calls.at configId n).tried = some t) (n : Nat)
    (hfails : ∀ m < n, (calls.call m).succeeds task t = false) : Quiet calls configId n := by
  induction n with
  | zero => exact quiet_zero calls configId
  | succ n ih =>
    have hbefore : ∀ m < n, (calls.call m).succeeds task t = false :=
      fun m hm => hfails m (hm.trans n.lt_succ_self)
    have hquiet := ih hbefore
    exact (hquiet.succ keys htask (htried n hbefore hquiet) (hfails n n.lt_succ_self)).2

theorem busy_stays {m n : Nat} (hmn : m ≤ n)
    (hbusy : ∃ u ∈ activeTargets (calls.before configId m) configId, u.status.isBusy = true) :
    ∃ u ∈ activeTargets (calls.before configId n) configId, u.status.isBusy = true := by
  induction n, hmn using Nat.le_induction with
  | base => exact hbusy
  | succ n hn ih =>
    have hnone : (calls.at configId n).tried = none := tried_eq_none.mpr (Or.inl ih)
    have hsame : calls.before configId (n + 1) = calls.before configId n :=
      scheduleNextTraining_of_none hnone
    rw [hsame]
    exact ih

theorem quiet_or_busy (keys : TargetKeys db) (htask : db.tasks.lookup configId = some task)
    (htried : ∀ n, (∀ m < n, (calls.call m).succeeds task t = false) → Quiet calls configId n →
      (calls.at configId n).tried = some t) (n : Nat) :
    (∀ m < n, (calls.call m).succeeds task t = false) ∧ Quiet calls configId n ∨
      ((∃ m, (calls.at configId m).started = true) ∧
        ∃ u ∈ activeTargets (calls.before configId n) configId, u.status.isBusy = true) := by
  by_cases hfails : ∀ m < n, (calls.call m).succeeds task t = false
  · exact Or.inl ⟨hfails, quiet_of_fails keys htask htried n hfails⟩
  · -- the first launch that nothing stops
    have hsome : ∃ m, m < n ∧ (calls.call m).succeeds task t = true := by
      push Not at hfails
      simpa using hfails
    classical
    obtain ⟨hlt, hsucceeds⟩ := Nat.find_spec hsome
    have hbefore : ∀ m < Nat.find hsome, (calls.call m).succeeds task t = false := by
      intro m hm
      have hnot := Nat.find_min hsome hm
      simpa [hm.trans hlt] using hnot
    have hquiet := quiet_of_fails keys htask htried _ hbefore
    obtain ⟨hstarted, hbusy⟩ := hquiet.busy keys htask (htried _ hbefore hquiet) hsucceeds
    exact Or.inr ⟨⟨_, hstarted⟩, busy_stays hlt hbusy⟩

end Run

/-! ## The order of the scheduler and the order of the claim -/

/-- Each call launches the target that `claim_training_target` would claim, and none exactly if a
target is busy or none can be scheduled; and if no launch goes through, each target that can be
scheduled is tried by some call. -/
structure HonoursClaimOrder {db : Database} (keys : TargetKeys db) (calls : Calls db)
    (configId : String) : Prop where
  agrees : ∀ n, (calls.at configId n).tried.map ExternalSyncTrainingTarget.targetId =
    claimedTargetId keys.id configId (calls.before configId n)
  none_iff : ∀ n, (calls.at configId n).tried = none ↔
    (∃ u ∈ activeTargets (calls.before configId n) configId, u.status.isBusy = true) ∨
      ∀ u ∈ activeTargets (calls.before configId n) configId, isSchedulable u = false
  fair : (∀ n, (calls.at configId n).started = false) →
    (∀ u ∈ activeTargets db configId, u.status.isBusy = false) →
    ∀ u ∈ activeTargets db configId, isSchedulable u = true →
      ∃ n, (calls.at configId n).tried = some u

/-- A target that comes first in both orders, and is the only one that can be scheduled or is
launched in the end. -/
structure FirstInBoth {db : Database} (keys : TargetKeys db) (calls : Calls db) (configId : String)
    (task : ExternalSyncTask) (t : ExternalSyncTrainingTarget) : Prop where
  least : LeastSchedulable keys.id configId db t
  first : ∀ n, (∀ m < n, (calls.call m).succeeds task t = false) →
    ReadFirst ((calls.call n).order.list (activeTargets db configId)) t
  only : (∀ u ∈ activeTargets db configId, isSchedulable u = true → u = t) ∨
    ∃ n, (calls.call n).succeeds task t = true

section Main

variable {db : Database} {keys : TargetKeys db} {calls : Calls db} {configId : String}
  {task : ExternalSyncTask} {t : ExternalSyncTrainingTarget}

theorem FirstInBoth.tried (h : FirstInBoth keys calls configId task t)
    (hfree : ∀ u ∈ activeTargets db configId, u.status.isBusy = false) (n : Nat)
    (hfails : ∀ m < n, (calls.call m).succeeds task t = false) (hquiet : Quiet calls configId n) :
    (calls.at configId n).tried = some t := by
  refine tried_eq_some.mpr ⟨?_, h.least.schedulable, ?_⟩
  · rw [hquiet.kept.activeTargets]
    exact hfree
  · unfold listTrainingTargetsRaw
    rw [hquiet.kept.activeTargets]
    exact h.first n hfails

theorem agrees_of_none {n : Nat}
    (h : (∃ u ∈ activeTargets (calls.before configId n) configId, u.status.isBusy = true) ∨
      ∀ u ∈ activeTargets (calls.before configId n) configId, isSchedulable u = false) :
    (calls.at configId n).tried.map ExternalSyncTrainingTarget.targetId =
      claimedTargetId keys.id configId (calls.before configId n) := by
  have hnone : (calls.at configId n).tried = none := tried_eq_none.mpr h
  rw [hnone, claimedTargetId_eq_none h]
  rfl

theorem FirstInBoth.honours (h : FirstInBoth keys calls configId task t)
    (htask : db.tasks.lookup configId = some task)
    (hfree : ∀ u ∈ activeTargets db configId, u.status.isBusy = false) :
    HonoursClaimOrder keys calls configId := by
  have htried := h.tried hfree
  refine ⟨fun n => ?_, fun n => tried_eq_none, fun hnever _ u hu hsched => ?_⟩
  · rcases quiet_or_busy keys htask htried n with ⟨hfails, hquiet⟩ | ⟨-, hbusy⟩
    · have hsome : ((calls.before configId n).tasks.lookup configId).isSome = true := by
        rw [hquiet.kept.isSome, htask]
        rfl
      have hfree' : ∀ u ∈ activeTargets (calls.before configId n) configId,
          u.status.isBusy = false := by
        rw [hquiet.kept.activeTargets]
        exact hfree
      rw [htried n hfails hquiet,
        (hquiet.kept.least.mpr h.least).claimed keys.injective hsome hfree']
      rfl
    · exact agrees_of_none (Or.inl hbusy)
  · rcases h.only with honly | ⟨m, hsucceeds⟩
    · obtain rfl := honly u hu hsched
      exact ⟨0, htried 0 (fun m hm => absurd hm m.not_lt_zero) (quiet_zero calls configId)⟩
    · rcases quiet_or_busy keys htask htried (m + 1) with ⟨hfails, -⟩ | ⟨⟨k, hstarted⟩, -⟩
      · rw [hfails m m.lt_succ_self] at hsucceeds
        cases hsucceeds
      · rw [hnever k] at hstarted
        cases hstarted

/-- Where the promise holds of a task with a target that can be scheduled, one target comes first in
both orders. -/
theorem HonoursClaimOrder.firstInBoth (h : HonoursClaimOrder keys calls configId)
    (hfree : ∀ u ∈ activeTargets db configId, u.status.isBusy = false)
    {u₀ : ExternalSyncTrainingTarget} (hu₀ : u₀ ∈ activeTargets db configId)
    (hsched₀ : isSchedulable u₀ = true) :
    ∃ task t, db.tasks.lookup configId = some task ∧ FirstInBoth keys calls configId task t := by
  obtain ⟨t, ht⟩ : ∃ t, (calls.at configId 0).tried = some t := by
    cases htried : (calls.at configId 0).tried with
    | none =>
      rcases tried_eq_none.mp htried with ⟨u, hu, hbusy⟩ | hnone
      · have hu : u ∈ activeTargets db configId := hu
        rw [hfree u hu] at hbusy
        cases hbusy
      · have hnot := hnone u₀ hu₀
        rw [hsched₀] at hnot
        cases hnot
    | some t => exact ⟨t, rfl⟩
  have hclaimed := h.agrees 0
  rw [ht, Option.map_some] at hclaimed
  obtain ⟨hsome, t', hleast, hid⟩ := exists_of_claimedTargetId_eq_some hclaimed.symm
  obtain ⟨task, htask⟩ := Option.isSome_iff_exists.mp hsome
  have htask : db.tasks.lookup configId = some task := htask
  have hleast : LeastSchedulable keys.id configId db t' := hleast
  -- what a call tries is what the claim would take, and that is `t'` as long as the run is quiet
  have htried : ∀ n, (∀ m < n, (calls.call m).succeeds task t' = false) →
      Quiet calls configId n → (calls.at configId n).tried = some t' := by
    intro n _ hquiet
    have hsome' : ((calls.before configId n).tasks.lookup configId).isSome = true := by
      rw [hquiet.kept.isSome, htask]
      rfl
    have hfree' : ∀ u ∈ activeTargets (calls.before configId n) configId,
        u.status.isBusy = false := by
      rw [hquiet.kept.activeTargets]
      exact hfree
    have hagrees := h.agrees n
    rw [(hquiet.kept.least.mpr hleast).claimed keys.injective hsome' hfree'] at hagrees
    obtain ⟨s, hs, hsid⟩ := Option.map_eq_some_iff.mp hagrees
    have hmem : s ∈ activeTargets db configId := by
      rw [← hquiet.kept.activeTargets]
      exact mem_listed.mp (tried_eq_some.mp hs).2.2.mem
    have hst : s = t' := Table.eq_of_key (R := ExternalSyncTrainingTarget)
      (mem_activeTargets.mp hmem).1 (mem_activeTargets.mp hleast.mem).1 hsid
    rw [hs, hst]
  refine ⟨task, t', htask, hleast, fun n hfails => ?_, ?_⟩
  · have hquiet := quiet_of_fails keys htask htried n hfails
    have hread := (tried_eq_some.mp (htried n hfails hquiet)).2.2
    unfold listTrainingTargetsRaw at hread
    rwa [hquiet.kept.activeTargets] at hread
  · by_contra hnot
    push Not at hnot
    obtain ⟨⟨u, hu, hsched, hne⟩, hfails⟩ := hnot
    have hfails : ∀ m, (calls.call m).succeeds task t' = false := by simpa using hfails
    have hquiet : ∀ n, Quiet calls configId n := fun n =>
      quiet_of_fails keys htask htried n fun m _ => hfails m
    have hnever : ∀ n, (calls.at configId n).started = false := fun n =>
      ((hquiet n).succ keys htask (htried n (fun m _ => hfails m) (hquiet n)) (hfails n)).1
    obtain ⟨n, hn⟩ := h.fair hnever hfree u hu hsched
    rw [htried n (fun m _ => hfails m) (hquiet n)] at hn
    exact hne (Option.some.inj hn).symm

/-- The scheduler honours the claim order exactly if there is nothing to launch, or one target comes
first in both orders and is the only one that can be scheduled or is launched in the end. -/
theorem honoursClaimOrder_iff (db : Database) (keys : TargetKeys db) (calls : Calls db)
    (configId : String) :
    HonoursClaimOrder keys calls configId ↔
      (∃ u ∈ activeTargets db configId, u.status.isBusy = true) ∨
      (∀ u ∈ activeTargets db configId, isSchedulable u = false) ∨
      ∃ task t, db.tasks.lookup configId = some task ∧ FirstInBoth keys calls configId task t := by
  by_cases hbusy : ∃ u ∈ activeTargets db configId, u.status.isBusy = true
  · have hbusy' : ∀ n, ∃ u ∈ activeTargets (calls.before configId n) configId,
        u.status.isBusy = true := fun n => busy_stays n.zero_le hbusy
    refine ⟨fun _ => Or.inl hbusy, fun _ => ⟨fun n => agrees_of_none (Or.inl (hbusy' n)),
      fun n => tried_eq_none, fun _ hfree => ?_⟩⟩
    obtain ⟨u, hu, hub⟩ := hbusy
    rw [hfree u hu] at hub
    cases hub
  have hfree : ∀ u ∈ activeTargets db configId, u.status.isBusy = false := by
    push Not at hbusy
    simpa using hbusy
  by_cases hnone : ∀ u ∈ activeTargets db configId, isSchedulable u = false
  · have hsame : ∀ n, calls.before configId n = db := by
      intro n
      induction n with
      | zero => rfl
      | succ n ih =>
        have htried : (calls.at configId n).tried = none := by
          refine tried_eq_none.mpr (Or.inr ?_)
          show ∀ u ∈ activeTargets (calls.before configId n) configId, isSchedulable u = false
          rw [ih]
          exact hnone
        exact (scheduleNextTraining_of_none htried).trans ih
    refine ⟨fun _ => Or.inr (Or.inl hnone), fun _ => ⟨fun n => agrees_of_none (Or.inr ?_),
      fun n => tried_eq_none, fun _ _ u hu hsched => ?_⟩⟩
    · rw [hsame n]
      exact hnone
    · rw [hnone u hu] at hsched
      cases hsched
  · have hsome : ∃ u ∈ activeTargets db configId, isSchedulable u = true := by
      push Not at hnone
      simpa using hnone
    obtain ⟨u, hu, hsched⟩ := hsome
    constructor
    · intro h
      exact Or.inr (Or.inr (h.firstInBoth hfree hu hsched))
    · rintro (h | h | ⟨task, t, htask, hfirst⟩)
      · exact absurd h hbusy
      · exact absurd h hnone
      · exact hfirst.honours htask hfree

end Main

/-! ### Two targets -/

/-- A target with five samples, of a threshold of five. -/
def readyTarget (targetId : String) (priority sortOrder : Int) : ExternalSyncTrainingTarget where
  targetId := targetId
  taskId := "task"
  targetName := targetId
  trainingThreshold := 5
  pendingTrainingSamples := 5
  priority := priority
  sortOrder := sortOrder
  status := .ready

def twoTargets (priorityA priorityB : Int) : Database where
  tasks := ⟨[{ taskId := "task", userId := "user" }], List.nodup_singleton _⟩
  batches := Table.empty
  generations := Table.empty
  trainings := Table.empty
  targets := ⟨[readyTarget "a" priorityA 0, readyTarget "b" priorityB 1], by
    simp [readyTarget]⟩
  uuids := []

def numberOf (targetId : String) : Int := Encodable.encode (targetId.toList.map Char.toNat)

theorem numberOf_injective : Function.Injective numberOf := by
  intro s t h
  have hcodes : s.toList.map Char.toNat = t.toList.map Char.toNat :=
    Encodable.encode_injective (Int.ofNat.inj h)
  have htoNat : Function.Injective Char.toNat := fun _ _ => Char.toNat_inj.mp
  exact String.toList_injective (List.map_injective_iff.mpr htoNat hcodes)

def twoKeys (priorityA priorityB : Int) : TargetKeys (twoTargets priorityA priorityB) where
  id := numberOf
  injective := numberOf_injective
  nonempty := by
    intro t ht
    rcases List.mem_cons.mp ht with rfl | ht
    · simp [readyTarget]
    · obtain rfl := List.mem_singleton.mp ht
      simp [readyTarget]

def sortsBefore (t u : ExternalSyncTrainingTarget) : Prop := t.sortOrder ≤ u.sortOrder

instance : DecidableRel sortsBefore := fun t u =>
  inferInstanceAs (Decidable (t.sortOrder ≤ u.sortOrder))

instance : Std.Total sortsBefore := ⟨fun t u => le_total t.sortOrder u.sortOrder⟩

instance : IsTrans ExternalSyncTrainingTarget sortsBefore := ⟨fun _ _ _ => le_trans⟩

def stableOrder : SortOrder where
  list rows := rows.insertionSort sortsBefore
  perm rows := List.perm_insertionSort sortsBefore rows
  sorted rows := List.pairwise_insertionSort sortsBefore rows

def withoutDatasets (priorityA priorityB : Int) : Calls (twoTargets priorityA priorityB) where
  call n :=
    { order := stableOrder
      trainingTaskId := String.ofList (List.replicate n 'a')
      now := 0
      prepare := fun _ => none
      failure := fun _ => none }
  injective := by
    intro m n h
    simpa using congrArg String.length h
  fresh := by
    intro n t ht
    exact absurd ht (Table.not_mem_empty t)

/-- A target that sorts first but has a worse priority is launched before the one that is claimed
first; and a target that has no dataset keeps the one behind it waiting. -/
theorem not_honoursClaimOrder_two :
    ¬ HonoursClaimOrder (twoKeys 2 1) (withoutDatasets 2 1) "task" ∧
      ¬ HonoursClaimOrder (twoKeys 0 0) (withoutDatasets 0 0) "task" := by
  constructor
  · intro h
    have hagrees := h.agrees 0
    have htried : ((withoutDatasets 2 1).at "task" 0).tried.map
        ExternalSyncTrainingTarget.targetId = some "a" := by
      decide
    have hclaimed : claimedTargetId (twoKeys 2 1).id "task"
        ((withoutDatasets 2 1).before "task" 0) = some "b" := by
      decide
    rw [htried, hclaimed] at hagrees
    revert hagrees
    decide
  · intro h
    have hactive : activeTargets (twoTargets 0 0) "task" =
        [readyTarget "a" 0 0, readyTarget "b" 0 1] := by
      simp [activeTargets, Table.select, twoTargets, readyTarget]
    have hfree : ∀ u ∈ activeTargets (twoTargets 0 0) "task", u.status.isBusy = false := by
      rw [hactive]
      simp [readyTarget, TrainingTargetStatus.isBusy]
    have hready : readyTarget "a" 0 0 ∈ activeTargets (twoTargets 0 0) "task" := by
      rw [hactive]
      simp
    obtain ⟨task, t, -, hfirst⟩ := h.firstInBoth hfree hready (by decide)
    rcases hfirst.only with honly | ⟨n, hsucceeds⟩
    · have ha := honly (readyTarget "a" 0 0) (by rw [hactive]; simp) (by decide)
      have hb := honly (readyTarget "b" 0 1) (by rw [hactive]; simp) (by decide)
      have hab : readyTarget "a" 0 0 = readyTarget "b" 0 1 := ha.trans hb.symm
      simp [readyTarget] at hab
    · simp [Call.succeeds, withoutDatasets] at hsucceeds

end SyncTraining
