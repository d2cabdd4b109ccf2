import TrainFactory.Sync.Proofs.PendingRecordsProofs

/-!
# Proofs: disabling and enabling a generation

Disabling gives the batches of a completed generation back and takes its samples off the counters,
but not below zero; enabling takes back the batches that wait and adds the samples. The pair is the
identity exactly if nothing was cut off on the way down and no other input was waiting.
-/

namespace Sync

open Lib

variable {db db' : Database} {g : ExternalSyncGeneration}

/-! ## What the pair has to restore -/

def ExternalSyncTask.counters (t : ExternalSyncTask) : Int × Int × Int :=
  (t.pendingRecordCount, t.pendingTrainingSamples, t.totalTrainingSamples)

def ExternalSyncTrainingTarget.counters (t : ExternalSyncTrainingTarget) : Int × Int :=
  (t.pendingTrainingSamples, t.totalTrainingSamples)

def ExternalSyncBatch.ownership (b : ExternalSyncBatch) : BatchStatus × Option String :=
  (b.status, b.generationTaskId)

/-- The counters of all tasks and targets, and the status and owner of all batches, are the same. -/
structure SameCounters (db db' : Database) : Prop where
  tasks : ∀ id, (db'.tasks.lookup id).map ExternalSyncTask.counters =
    (db.tasks.lookup id).map ExternalSyncTask.counters
  targets : ∀ id, (db'.targets.lookup id).map ExternalSyncTrainingTarget.counters =
    (db.targets.lookup id).map ExternalSyncTrainingTarget.counters
  batches : ∀ id, (db'.batches.lookup id).map ExternalSyncBatch.ownership =
    (db.batches.lookup id).map ExternalSyncBatch.ownership

theorem SameCounters.refl (db : Database) : SameCounters db db :=
  ⟨fun _ => rfl, fun _ => rfl, fun _ => rfl⟩

def RefusesReset (settings : Settings) (db : Database) (g : ExternalSyncGeneration) : Prop :=
  g.inputBatchIds ≠ [] ∧
    assertPendingBatchCapacity settings db g.taskId (db.batches.select (isResettable g)).length
      ((db.batches.select (isResettable g)).map fun b => max b.recordCount 0).sum ≠ .ok ()

/-- The counters that a generation shifts are at least its samples, so that none of them stops at
zero, and none of its inputs waits without an owner. -/
structure IsReversible (db : Database) (g : ExternalSyncGeneration) : Prop where
  noneWaits : ∀ b ∈ db.batches, isRetakable g b = false
  targets : ∀ t ∈ db.targets, t.taskId = g.taskId → t.isActive = true → 0 < g.countFor t →
    g.countFor t ≤ t.pendingTrainingSamples ∧ g.countFor t ≤ t.totalTrainingSamples
  task : db.targetsOf g.taskId = [] → 0 < g.finalCount → ∀ t ∈ db.tasks, t.taskId = g.taskId →
    g.finalCount ≤ t.pendingTrainingSamples ∧ g.finalCount ≤ t.totalTrainingSamples

/-! ## One toggle -/

theorem disabled_key (disabled : Bool) (g : ExternalSyncGeneration) :
    Keyed.key { g with disabled := disabled } = Keyed.key g := rfl

def toggledState (g : ExternalSyncGeneration) (disabled : Bool) (db : Database) : Database :=
  let flagged : Database := { db with
    generations := db.generations.update g.generationTaskId
      (fun g => { g with disabled := disabled }) (disabled_key disabled) }
  let moved := movedBatches g disabled flagged
  shiftCounters g disabled
    (if toggledBatches g disabled db ≠ [] then recountPending moved g.taskId else moved)

theorem moveToggledBatches_of_capacity {settings : Settings} {disabled : Bool}
    (hcompleted : g.status = .completed)
    (hcapacity : disabled = true → ¬ RefusesReset settings db g) :
    moveToggledBatches settings g disabled db =
      .ok (toggledBatches g disabled db, movedBatches g disabled db) := by
  rcases moveToggledBatches_cases db settings g disabled with ⟨e, he⟩ | hok
  · unfold moveToggledBatches at he
    by_cases hids : g.inputBatchIds = []
    · simp [hids] at he
    · cases disabled with
      | false => simp [hcompleted, hids] at he
      | true =>
        have hok : assertPendingBatchCapacity settings db g.taskId
            (db.batches.select (isResettable g)).length
            ((db.batches.select (isResettable g)).map fun b => max b.recordCount 0).sum =
              .ok () := by
          by_contra hrefused
          exact hcapacity rfl ⟨hids, hrefused⟩
        simp [hcompleted, hids, hok] at he
  · exact hok

theorem moveToggledBatches_of_refused {settings : Settings} (hcompleted : g.status = .completed)
    (hrefused : RefusesReset settings db g) :
    ∃ e, moveToggledBatches settings g true db = .error e := by
  obtain ⟨hids, hcapacity⟩ := hrefused
  unfold moveToggledBatches
  simp only [hcompleted, hids, ne_eq, not_false_eq_true, and_self, if_true]
  cases hassert : assertPendingBatchCapacity settings db g.taskId
      (db.batches.select (isResettable g)).length
      ((db.batches.select (isResettable g)).map fun b => max b.recordCount 0).sum with
  | error e => exact ⟨e, rfl⟩
  | ok u => exact absurd hassert hcapacity

theorem toggle_commit {settings : Settings} {disabled : Bool}
    (hg : db.generations.lookup g.generationTaskId = some g) (hcompleted : g.status = .completed)
    (hdisabled : g.disabled = !disabled)
    (hcapacity : disabled = true → ¬ RefusesReset settings db g) :
    (toggleGenerationDisabled settings g.generationTaskId disabled db).commit db =
      toggledState g disabled db := by
  have hne : g.disabled ≠ disabled := by
    rw [hdisabled]
    cases disabled <;> simp
  let flagged : Database := { db with
    generations := db.generations.update g.generationTaskId fun g =>
      { g with disabled := disabled } }
  have hmove : moveToggledBatches settings g disabled flagged =
      .ok (toggledBatches g disabled flagged, movedBatches g disabled flagged) :=
    moveToggledBatches_of_capacity hcompleted hcapacity
  unfold toggleGenerationDisabled
  simp only [hg, hne, if_false]
  rw [hmove]
  simp only [Outcome.commit_ok, hcompleted, if_true]
  rfl

section Toggled

variable {disabled : Bool}

theorem toggledState_generations : (toggledState g disabled db).generations =
    db.generations.update g.generationTaskId fun g => { g with disabled := disabled } := by
  unfold toggledState
  simp only [shiftCounters_generations]
  split
  · exact movedBatches_generations g disabled
  · exact movedBatches_generations g disabled

theorem toggledState_batches :
    (toggledState g disabled db).batches = (movedBatches g disabled db).batches := by
  unfold toggledState
  simp only [shiftCounters_batches]
  split
  · exact movedBatches_batches g disabled _
  · exact movedBatches_batches g disabled _

/-- What a toggle adds to a counter, for each sample of the generation. -/
def direction (disabled : Bool) : Int := if disabled then -1 else 1

def isShifted (g : ExternalSyncGeneration) (t : ExternalSyncTrainingTarget) : Bool :=
  t.taskId = g.taskId && t.isActive && g.countFor t > 0

theorem shiftCounters_lookup_targets (id : String) :
    (shiftCounters g disabled db).targets.lookup id = (db.targets.lookup id).map fun t =>
      if isShifted g t then t.shift (direction disabled * g.countFor t) else t := by
  unfold shiftCounters
  simp only []
  split
  · rw [Table.lookup_updateWhere]
    rfl
  · rename_i hnone
    have hself : db.targets.lookup id = (db.targets.lookup id).map fun t =>
        if isShifted g t then t.shift (direction disabled * g.countFor t) else t := by
      cases hl : db.targets.lookup id with
      | none => rfl
      | some t =>
        have hmem := (Table.lookup_eq_some.mp hl).1
        have hother := Table.select_eq_nil.mp (not_not.mp hnone) t hmem
        have hunshifted : isShifted g t = false := by
          simp only [isShifted, hother, Bool.false_and]
        simp [hunshifted]
    split
    · exact hself
    · exact hself

theorem toggledState_lookup_targets (id : String) :
    (toggledState g disabled db).targets.lookup id = (db.targets.lookup id).map fun t =>
      if isShifted g t then t.shift (direction disabled * g.countFor t) else t := by
  unfold toggledState
  simp only []
  rw [shiftCounters_lookup_targets]
  split
  · rw [show (recountPending (movedBatches g disabled _) g.taskId).targets = _ from
      movedBatches_targets g disabled _]
  · rw [movedBatches_targets]

def ExternalSyncTask.samples (t : ExternalSyncTask) : Int × Int :=
  (t.pendingTrainingSamples, t.totalTrainingSamples)

def shiftSamples (delta : Int) (samples : Int × Int) : Int × Int :=
  (max (samples.1 + delta) 0, max (samples.2 + delta) 0)

def toggledSamples (g : ExternalSyncGeneration) (disabled : Bool) (db : Database) (id : String)
    (samples : Int × Int) : Int × Int :=
  if id = g.taskId ∧ db.targetsOf g.taskId = [] ∧ 0 < g.finalCount then
    shiftSamples (direction disabled * g.finalCount) samples
  else samples

theorem recountPending_samples (taskId id : String) :
    ((recountPending db taskId).tasks.lookup id).map ExternalSyncTask.samples =
      (db.tasks.lookup id).map ExternalSyncTask.samples := by
  rw [recountPending, Table.lookup_update]
  by_cases hid : id = taskId
  · rw [if_pos hid, hid, Option.map_map]
    rfl
  · rw [if_neg hid]

theorem shiftCounters_samples (taskId : String) :
    ((shiftCounters g disabled db).tasks.lookup taskId).map ExternalSyncTask.samples =
      ((db.tasks.lookup taskId).map ExternalSyncTask.samples).map
        (toggledSamples g disabled db taskId) := by
  have hstays : ¬ (taskId = g.taskId ∧ db.targetsOf g.taskId = [] ∧ 0 < g.finalCount) →
      toggledSamples g disabled db taskId = id := by
    intro hother
    funext samples
    rw [toggledSamples, if_neg hother]
    rfl
  rw [shiftCounters_tasks]
  by_cases hshift : db.targetsOf g.taskId = [] ∧ g.finalCount > 0
  · rw [if_pos hshift, Table.lookup_update]
    by_cases hid : taskId = g.taskId
    · have htoggled : toggledSamples g disabled db taskId =
          shiftSamples (direction disabled * g.finalCount) := by
        funext samples
        rw [toggledSamples, if_pos ⟨hid, hshift.1, hshift.2⟩]
      rw [if_pos hid, htoggled, hid, Option.map_map, Option.map_map]
      rfl
    · rw [if_neg hid, hstays fun h => hid h.1, Option.map_id, id_eq]
  · rw [if_neg hshift, hstays fun h => hshift h.2, Option.map_id, id_eq]

theorem toggledState_samples (taskId : String) :
    ((toggledState g disabled db).tasks.lookup taskId).map ExternalSyncTask.samples =
      ((db.tasks.lookup taskId).map ExternalSyncTask.samples).map
        (toggledSamples g disabled db taskId) := by
  unfold toggledState
  simp only []
  generalize hflagged : ({ db with generations := _ } : Database) = flagged
  have htasks : (movedBatches g disabled flagged).tasks = db.tasks := by
    rw [movedBatches_tasks, ← hflagged]
  have htargets : (movedBatches g disabled flagged).targets = db.targets := by
    rw [movedBatches_targets, ← hflagged]
  have htoggled : ∀ db' : Database, db'.targets = db.targets →
      toggledSamples g disabled db' taskId = toggledSamples g disabled db taskId := by
    intro db' h
    have hof : db'.targetsOf g.taskId = db.targetsOf g.taskId := by
      rw [Database.targetsOf, h, Database.targetsOf]
    funext samples
    simp only [toggledSamples, hof]
  rw [shiftCounters_samples]
  split
  · rw [recountPending_samples, htasks]
    exact congrArg (Option.map · _) (htoggled (recountPending _ _) htargets)
  · rw [htasks, htoggled _ htargets]

end Toggled

/-! ## Down and up again -/

theorem max_sub_add_eq_iff {n p : Int} (hn : 0 < n) : max (max (p + -1 * n) 0 + 1 * n) 0 = p ↔
    n ≤ p := by
  omega

def ExternalSyncGeneration.disable (g : ExternalSyncGeneration) : ExternalSyncGeneration :=
  { g with disabled := true }

def pairState (g : ExternalSyncGeneration) (db : Database) : Database :=
  toggledState g.disable false (toggledState g true db)

theorem pairState_batches_eq (hcompleted : g.status = .completed) :
    (pairState g db).batches = (db.batches.updateWhere (isResettable g)
      (fun b => { b with status := .fetched, generationTaskId := none }) key_refetched).updateWhere
        (isRetakable g) (fun b => { b with status := .generationDone
                                           generationTaskId := some g.generationTaskId })
          g.key_retaken := by
  have hdown : (movedBatches g true db).batches = db.batches.updateWhere (isResettable g)
      (fun b => { b with status := .fetched, generationTaskId := none }) key_refetched := by
    simp [movedBatches, hcompleted]
  have hup : (movedBatches g.disable false (toggledState g true db)).batches =
      (toggledState g true db).batches.updateWhere (isRetakable g)
        (fun b => { b with status := .generationDone
                           generationTaskId := some g.generationTaskId }) g.key_retaken := by
    simp [movedBatches, ExternalSyncGeneration.disable, hcompleted]
    rfl
  rw [pairState, toggledState_batches, hup, toggledState_batches, hdown]

theorem isResettable_iff {b : ExternalSyncBatch} : isResettable g b = true ↔
    (b.batchId ∈ g.inputBatchIds ∧ b.generationTaskId = some g.generationTaskId) ∧
      b.status = .generationDone := by
  simp [isResettable]

theorem pairState_batches (id : String) (hcompleted : g.status = .completed) :
    ((pairState g db).batches.lookup id).map ExternalSyncBatch.ownership =
      (db.batches.lookup id).map fun b =>
        if isRetakable g b then (.generationDone, some g.generationTaskId) else b.ownership := by
  rw [pairState_batches_eq hcompleted, Table.lookup_updateWhere, Table.lookup_updateWhere,
    Option.map_map, Option.map_map]
  cases hl : db.batches.lookup id with
  | none => rfl
  | some b =>
    by_cases hreset : isResettable g b = true
    · obtain ⟨⟨hin, howner⟩, hdone⟩ := isResettable_iff.mp hreset
      simp [hreset, isRetakable, ExternalSyncBatch.ownership, hin, howner, hdone]
    · by_cases hretake : isRetakable g b = true
      · simp [hreset, hretake, ExternalSyncBatch.ownership]
      · simp [hreset, hretake]

theorem fetchedRecords_pairState (hcompleted : g.status = .completed)
    (hnone : ∀ b ∈ db.batches, isRetakable g b = false) (taskId : String) :
    (pairState g db).fetchedRecords taskId = db.fetchedRecords taskId := by
  rw [fetchedRecords_eq, fetchedRecords_eq, pairState_batches_eq hcompleted,
    Table.sumBy_updateWhere, Table.sumBy_updateWhere]
  apply Table.sumBy_congr
  intro b hb
  by_cases hreset : isResettable g b = true
  · obtain ⟨⟨hin, howner⟩, hdone⟩ := isResettable_iff.mp hreset
    simp [hreset, isRetakable, hin, fetchedCount, hdone]
  · simp [hreset, hnone b hb]

theorem pairState_targets (id : String) :
    (pairState g db).targets.lookup id = (db.targets.lookup id).map fun t =>
      if isShifted g t then (t.shift (-1 * g.countFor t)).shift (1 * g.countFor t) else t := by
  rw [pairState, toggledState_lookup_targets, toggledState_lookup_targets, Option.map_map]
  cases db.targets.lookup id with
  | none => rfl
  | some t =>
    by_cases hshift : isShifted g t = true
    · have hagain : isShifted g.disable (t.shift (direction true * g.countFor t)) = true := hshift
      simp only [Option.map_some, Function.comp, hshift, hagain, if_true]
      rfl
    · have hagain : ¬ isShifted g.disable t = true := hshift
      simp only [Option.map_some, Function.comp]
      rw [if_neg hshift, if_neg hagain, if_neg hshift]

theorem targetsOf_eq_nil {taskId : String} : db.targetsOf taskId = [] ↔
    ∀ id t, db.targets.lookup id = some t → t.taskId ≠ taskId := by
  rw [Database.targetsOf, Table.select_eq_nil]
  constructor
  · intro h id t hl
    simpa using h t (Table.lookup_eq_some.mp hl).1
  · intro h t ht
    simpa using h t.targetId t (Table.lookup_of_mem ht)

theorem toggledState_targetsOf :
    (toggledState g true db).targetsOf g.taskId = [] ↔ db.targetsOf g.taskId = [] := by
  have hkeeps : ∀ t : ExternalSyncTrainingTarget,
      (if isShifted g t then t.shift (direction true * g.countFor t) else t).taskId = t.taskId := by
    intro t
    split <;> rfl
  rw [targetsOf_eq_nil, targetsOf_eq_nil]
  constructor
  · intro h id t hl
    have hafter := @toggledState_lookup_targets db g true id
    rw [hl, Option.map_some] at hafter
    rw [← hkeeps t]
    exact h id _ hafter
  · intro h id t hl
    rw [toggledState_lookup_targets] at hl
    obtain ⟨t₀, hl₀, rfl⟩ := Option.map_eq_some_iff.mp hl
    rw [hkeeps t₀]
    exact h id t₀ hl₀

theorem pairState_samples (id : String) :
    ((pairState g db).tasks.lookup id).map ExternalSyncTask.samples =
      ((db.tasks.lookup id).map ExternalSyncTask.samples).map fun samples =>
        if id = g.taskId ∧ db.targetsOf g.taskId = [] ∧ 0 < g.finalCount then
          shiftSamples (1 * g.finalCount) (shiftSamples (-1 * g.finalCount) samples)
        else samples := by
  rw [pairState, toggledState_samples, toggledState_samples, Option.map_map]
  congr 1
  funext samples
  have hagain : (id = g.disable.taskId ∧ (toggledState g true db).targetsOf g.disable.taskId = [] ∧
      0 < g.disable.finalCount) ↔
        (id = g.taskId ∧ db.targetsOf g.taskId = [] ∧ 0 < g.finalCount) :=
    and_congr_right fun _ => and_congr_left fun _ => toggledState_targetsOf
  simp only [Function.comp, toggledSamples]
  by_cases hshift : id = g.taskId ∧ db.targetsOf g.taskId = [] ∧ 0 < g.finalCount
  · rw [if_pos hshift, if_pos (hagain.mpr hshift), if_pos hshift]
    rfl
  · rw [if_neg hshift, if_neg fun h => hshift (hagain.mp h), if_neg hshift]

/-! ## The pair in a run -/

/-- `toggle_generation_disabled(g, True)` and at once `toggle_generation_disabled(g, False)`. -/
def togglePair (generationTaskId : String) : List Op :=
  [.toggleGenerationDisabled generationTaskId true,
    .toggleGenerationDisabled generationTaskId false]

theorem run_togglePair_of_refused {env : Env}
    (hg : db.generations.lookup g.generationTaskId = some g) (hcompleted : g.status = .completed)
    (henabled : g.disabled = false) (hrefused : RefusesReset env.settings db g) :
    db.run env (togglePair g.generationTaskId) = db := by
  have hdown : (toggleGenerationDisabled env.settings g.generationTaskId true db).commit db =
      db := by
    have hmove : ∃ e, moveToggledBatches env.settings g true { db with
        generations := db.generations.update g.generationTaskId fun g =>
          { g with disabled := true } } = .error e :=
      moveToggledBatches_of_refused hcompleted hrefused
    unfold toggleGenerationDisabled
    simp only [hg, henabled, Bool.false_eq_true, if_false]
    obtain ⟨e, he⟩ := hmove
    rw [he]
    rfl
  have hup : (toggleGenerationDisabled env.settings g.generationTaskId false db).commit db =
      db := by
    unfold toggleGenerationDisabled
    simp [hg, henabled]
  simp only [togglePair, Database.run_cons, Database.run_nil, Op.apply]
  rw [hdown]
  exact hup

theorem run_togglePair {env : Env}
    (hg : db.generations.lookup g.generationTaskId = some g) (hcompleted : g.status = .completed)
    (henabled : g.disabled = false) (hcapacity : ¬ RefusesReset env.settings db g) :
    db.run env (togglePair g.generationTaskId) = pairState g db := by
  have hdown : (toggleGenerationDisabled env.settings g.generationTaskId true db).commit db =
      toggledState g true db :=
    toggle_commit hg hcompleted (by simp [henabled]) fun _ => hcapacity
  have hg' : (toggledState g true db).generations.lookup g.disable.generationTaskId =
      some g.disable := by
    rw [toggledState_generations, Table.lookup_update]
    simp [hg, ExternalSyncGeneration.disable]
  have hup : (toggleGenerationDisabled env.settings g.disable.generationTaskId false
      (toggledState g true db)).commit (toggledState g true db) = pairState g db :=
    toggle_commit hg' hcompleted rfl fun h => by cases h
  simp only [togglePair, Database.run_cons, Database.run_nil, Op.apply]
  rw [hdown]
  exact hup

theorem sameCounters_pairState_iff (hcompleted : g.status = .completed) (hI : Counted db)
    (hI' : Counted (pairState g db)) : SameCounters db (pairState g db) ↔ IsReversible db g := by
  constructor
  · intro hsame
    refine ⟨fun b hb => ?_, fun t ht htask hactive hcount => ?_,
      fun htargets hcount t ht htask => ?_⟩
    · have hl : db.batches.lookup b.batchId = some b := Table.lookup_of_mem hb
      have hbatch := hsame.batches b.batchId
      rw [pairState_batches _ hcompleted, hl] at hbatch
      by_contra hretake
      have hretake : isRetakable g b = true := by simpa using hretake
      have hfetched : b.status = .fetched := by
        simp only [isRetakable, Bool.and_eq_true, decide_eq_true_eq] at hretake
        exact hretake.2
      simp [hretake, ExternalSyncBatch.ownership, hfetched] at hbatch
    · have hl : db.targets.lookup t.targetId = some t := Table.lookup_of_mem ht
      have htarget := hsame.targets t.targetId
      have hshift : isShifted g t = true := by simp [isShifted, htask, hactive, hcount]
      rw [pairState_targets, hl] at htarget
      simp only [Option.map_some, if_pos hshift, Option.some.injEq] at htarget
      obtain ⟨hpending, htotal⟩ := Prod.mk.inj htarget
      exact ⟨(max_sub_add_eq_iff hcount).mp hpending, (max_sub_add_eq_iff hcount).mp htotal⟩
    · have hl : db.tasks.lookup t.taskId = some t := Table.lookup_of_mem ht
      have hsamples : ((pairState g db).tasks.lookup t.taskId).map ExternalSyncTask.samples =
          (db.tasks.lookup t.taskId).map ExternalSyncTask.samples := by
        have htasks := congrArg (Option.map Prod.snd) (hsame.tasks t.taskId)
        rw [Option.map_map, Option.map_map] at htasks
        exact htasks
      rw [pairState_samples, hl] at hsamples
      simp only [Option.map_some, if_pos (⟨htask, htargets, hcount⟩ :
        t.taskId = g.taskId ∧ db.targetsOf g.taskId = [] ∧ 0 < g.finalCount),
        Option.some.injEq] at hsamples
      obtain ⟨hpending, htotal⟩ := Prod.mk.inj hsamples
      exact ⟨(max_sub_add_eq_iff hcount).mp hpending, (max_sub_add_eq_iff hcount).mp htotal⟩
  · intro hreversible
    refine ⟨fun id => ?_, fun id => ?_, fun id => ?_⟩
    · have hsamples := @pairState_samples db g id
      cases hl : db.tasks.lookup id with
      | none =>
        rw [hl, Option.map_none, Option.map_none, Option.map_eq_none_iff] at hsamples
        rw [hsamples]
      | some t =>
        obtain ⟨ht, hid⟩ := Table.lookup_eq_some.mp hl
        have hid : t.taskId = id := hid
        have hkept : (if id = g.taskId ∧ db.targetsOf g.taskId = [] ∧ 0 < g.finalCount then
            shiftSamples (1 * g.finalCount) (shiftSamples (-1 * g.finalCount) t.samples)
            else t.samples) = t.samples := by
          split
          · rename_i hshift
            obtain ⟨htask, htargets, hcount⟩ := hshift
            obtain ⟨hpending, htotal⟩ :=
              hreversible.task htargets hcount t ht (hid.trans htask)
            exact Prod.ext ((max_sub_add_eq_iff hcount).mpr hpending)
              ((max_sub_add_eq_iff hcount).mpr htotal)
          · rfl
        rw [hl, Option.map_some, Option.map_some, hkept] at hsamples
        obtain ⟨t', hl', hsamples⟩ := Option.map_eq_some_iff.mp hsamples
        obtain ⟨ht', hid'⟩ := Table.lookup_eq_some.mp hl'
        have hid' : t'.taskId = id := hid'
        have hrecords : t'.pendingRecordCount = t.pendingRecordCount := by
          rw [hI' t' ht', hI t ht, hid, hid',
            fetchedRecords_pairState hcompleted hreversible.noneWaits]
        rw [hl', Option.map_some, Option.map_some]
        exact congrArg some (Prod.ext hrecords hsamples)
    · rw [pairState_targets, Option.map_map]
      cases hl : db.targets.lookup id with
      | none => rfl
      | some t =>
        by_cases hshift : isShifted g t = true
        · obtain ⟨⟨htask, hactive⟩, hcount⟩ : (t.taskId = g.taskId ∧ t.isActive = true) ∧
              0 < g.countFor t := by
            simpa [isShifted] using hshift
          obtain ⟨hpending, htotal⟩ :=
            hreversible.targets t (Table.lookup_eq_some.mp hl).1 htask hactive hcount
          simp only [Option.map_some, Function.comp, if_pos hshift]
          exact congrArg some (Prod.ext ((max_sub_add_eq_iff hcount).mpr hpending)
            ((max_sub_add_eq_iff hcount).mpr htotal))
        · simp only [Option.map_some, Function.comp, if_neg hshift]
    · rw [pairState_batches _ hcompleted]
      cases hl : db.batches.lookup id with
      | none => rfl
      | some b =>
        simp [hreversible.noneWaits b (Table.lookup_eq_some.mp hl).1]

/-- Disabling a completed generation and enabling it again restores the counters and the batches
exactly if the capacity check refuses the first call, or if no counter stops at zero and no input of
the generation waits without an owner. -/
theorem toggle_pair_restores_iff (env : Env) (db : Database) (hb : db.batches = Table.empty)
    (hg : db.generations = Table.empty) (hpending : ∀ t ∈ db.tasks, t.pendingRecordCount = 0)
    (ops : List Op) (hops : ∀ op ∈ ops, op.registers) (g : ExternalSyncGeneration)
    (hmem : g ∈ (db.run env ops).generations) (hcompleted : g.status = .completed)
    (henabled : g.disabled = false) :
    SameCounters (db.run env ops) ((db.run env ops).run env (togglePair g.generationTaskId)) ↔
      RefusesReset env.settings (db.run env ops) g ∨ IsReversible (db.run env ops) g := by
  have hI : PendingInv (db.run env ops) := (PendingInv.fresh hb hg hpending).run hops
  have hlookup : (db.run env ops).generations.lookup g.generationTaskId = some g :=
    Table.lookup_of_mem hmem
  generalize db.run env ops = db' at hI hlookup
  by_cases hrefused : RefusesReset env.settings db' g
  · rw [run_togglePair_of_refused hlookup hcompleted henabled hrefused]
    exact iff_of_true (SameCounters.refl db') (Or.inl hrefused)
  · have hpair : ∀ op ∈ togglePair g.generationTaskId, op.registers := by
      simp [togglePair, Op.registers]
    have hI' : PendingInv (db'.run env (togglePair g.generationTaskId)) := hI.run hpair
    rw [run_togglePair hlookup hcompleted henabled hrefused] at hI' ⊢
    rw [sameCounters_pairState_iff hcompleted hI.counted hI'.counted]
    exact ⟨Or.inr, fun h => h.resolve_left hrefused⟩

def firstGenerationRow : ExternalSyncGeneration where
  generationTaskId := "generation"
  taskId := "task"
  userId := "user"
  inputBatchIds := ["batch"]
  inputRecordCount := 3
  outputDatasetId := some "dataset"
  outputSampleCount := 5
  status := .completed
  createdAt := 2
  completedAt := some 3

/-- As long as its samples are pending, disabling and enabling the first generation restores all. -/
theorem toggle_pair_restores_first :
    SameCounters ((Database.ofTask generatingTask).run defaultEnv firstGeneration)
      (((Database.ofTask generatingTask).run defaultEnv firstGeneration).run defaultEnv
        (togglePair "generation")) := by
  have hops : ∀ op ∈ firstGeneration, op.registers := by
    simp [firstGeneration, Op.registers]
  refine (toggle_pair_restores_iff defaultEnv (Database.ofTask generatingTask) rfl rfl
    (by simp [Table.mem_def, Database.ofTask, generatingTask]) firstGeneration hops
    firstGenerationRow (List.mem_singleton.mpr rfl) rfl rfl).mpr (Or.inr ⟨?_, ?_, ?_⟩)
  · intro b hb
    obtain rfl := List.mem_singleton.mp hb
    rfl
  · intro t ht
    cases ht
  · intro _ _ t ht _
    obtain rfl := List.mem_singleton.mp ht
    exact ⟨by decide, by decide⟩

def claimedFirst : List Op :=
  firstGeneration ++
    [.createTrainingWithClaim
      { now := 4, taskId := "task", trainingTaskId := "training", userId := "user"
        inputDatasetIds := ["dataset"] }]

/-- The pair credits the claimed samples again. -/
theorem claimedFirst_not_restored :
    ¬ SameCounters ((Database.ofTask generatingTask).run defaultEnv claimedFirst)
      (((Database.ofTask generatingTask).run defaultEnv claimedFirst).run defaultEnv
        (togglePair "generation")) := by
  intro hsame
  have htask := hsame.tasks "task"
  revert htask
  decide

end Sync
