import TrainFactory.Lib.Rotation
import TrainFactory.Sync.RegisteredRecovery

/-!
# No registered batch is starved

The cycles rotate through the registered batches: a promoted batch leaves the queue, a failed one
stays, and each batch is tried within a bounded number of cycles.
-/

namespace Sync

open Lib

variable {config : ExternalSyncTask} {db : Database}

theorem select_update_off {R K : Type} [Keyed R K] [DecidableEq K] {t : Table R} {p : R → Bool}
    {k : K} {f : R → R} (hf : ∀ r, Keyed.key (f r) = Keyed.key r)
    (hoff : ∀ r ∈ t, Keyed.key r = k → p (f r) = false) :
    (t.update k f hf).select p = (t.select p).filter fun r => Keyed.key r ≠ k := by
  have hrows : ∀ rows : List R, (∀ r ∈ rows, Keyed.key r = k → p (f r) = false) →
      (rows.map fun r => if Keyed.key r = k then f r else r).filter p =
        (rows.filter p).filter fun r => Keyed.key r ≠ k := by
    intro rows hoff
    induction rows with
    | nil => rfl
    | cons r rows ih =>
      have hrest := ih fun r' hr' => hoff r' (List.mem_cons_of_mem _ hr')
      by_cases hk : Keyed.key r = k
      · have hp := hoff r (List.mem_cons_self ..) hk
        by_cases hp' : p r = true <;> simpa [hk, hp, hp'] using hrest
      · by_cases hp' : p r = true <;> simpa [hk, hp'] using hrest
  have := hrows t.rows hoff
  simpa [Table.update, Table.updateWhere, Table.select] using this

/-- The task exists, and its batches have its owner, as `create_batch` makes them. -/
structure OwnsBatches (config : ExternalSyncTask) (db : Database) : Prop where
  task : ∃ task, db.tasks.lookup config.taskId = some task ∧ task.userId = config.userId
  batches : ∀ b ∈ db.batches, b.taskId = config.taskId → b.userId = config.userId

theorem mem_registeredBatches {taskId : String} {b : ExternalSyncBatch} :
    b ∈ registeredBatches db taskId ↔ b ∈ db.batches ∧ b.taskId = taskId ∧ b.status = .registered := by
  rw [registeredBatches, Table.mem_select, Bool.and_eq_true, decide_eq_true_eq, decide_eq_true_eq]

/-! ## One attempt -/

/-- An attempt does not raise. It promotes the batch, or changes nothing. -/
theorem promoteRegistered_ok (howns : OwnsBatches config db) {batch : ExternalSyncBatch}
    (hbatch : batch ∈ registeredBatches db config.taskId) (ready : Bool) :
    promoteRegistered config ready batch db = .ok (false, db) ∨
    ∃ db', promoteRegistered config ready batch db = .ok (true, db') ∧ OwnsBatches config db' ∧
      registeredBatches db' config.taskId =
        (registeredBatches db config.taskId).filter fun b => b.batchId ≠ batch.batchId := by
  obtain ⟨hmem, htask, hstatus⟩ := mem_registeredBatches.mp hbatch
  obtain ⟨task, hlookup, huser⟩ := howns.task
  have htaskRow : ((db.tasks.lookup config.taskId).filter fun t => t.userId = config.userId) =
      some task := by
    rw [hlookup]
    simp [huser]
  have hbatchRow : ((db.batches.lookup batch.batchId).filter fun b =>
      b.taskId = config.taskId ∧ b.userId = config.userId) = some batch := by
    have hrow := Table.lookup_of_mem hmem
    rw [key_batch] at hrow
    rw [hrow]
    simp [htask, howns.batches batch hmem htask]
  unfold promoteRegistered
  rw [if_neg (not_not.mpr hstatus)]
  split
  · exact Or.inl rfl
  · split
    · exact Or.inl rfl
    · right
      unfold promoteBatchToFetched
      rw [htaskRow, hbatchRow]
      simp only [hstatus]
      refine ⟨_, rfl, ⟨?_, ?_⟩, ?_⟩
      · refine ⟨{ task with
          pendingRecordCount := task.pendingRecordCount + max batch.recordCount 0
          totalRecordCount := task.totalRecordCount + max batch.recordCount 0 }, ?_, huser⟩
        dsimp only
        rw [Table.lookup_update, if_pos rfl, hlookup]
        rfl
      · intro b hb
        dsimp only at hb
        rw [Table.mem_update] at hb
        obtain ⟨b₀, hb₀, rfl⟩ := hb
        split
        · exact howns.batches b₀ hb₀
        · exact howns.batches b₀ hb₀
      · exact select_update_off (t := db.batches) (k := batch.batchId)
          (f := fun b => { b with status := .fetched }) (fun _ => rfl) fun b _ _ => by simp

/-! ## A cycle -/

theorem promoteBatches_ok (ready : ExternalSyncBatch → Bool) {page : List ExternalSyncBatch}
    (hnodup : (page.map ExternalSyncBatch.batchId).Nodup) (howns : OwnsBatches config db)
    (hpage : ∀ b ∈ page, b ∈ registeredBatches db config.taskId) :
    let promotions := promoteBatches config ready page db
    promotions.attempted = page ∧ promotions.raised = none ∧ OwnsBatches config promotions.db ∧
      ∃ promoted : List String, (∀ id ∈ promoted, ∃ b ∈ page, b.batchId = id) ∧
        registeredBatches promotions.db config.taskId =
          (registeredBatches db config.taskId).filter fun b => b.batchId ∉ promoted := by
  induction page generalizing db with
  | nil => exact ⟨rfl, rfl, howns, [], by simp, by simp [promoteBatches]⟩
  | cons batch page ih =>
    rw [List.map_cons, List.nodup_cons] at hnodup
    have hbatch := hpage batch (List.mem_cons_self ..)
    simp only [promoteBatches]
    rcases promoteRegistered_ok howns hbatch (ready batch) with hfailed | ⟨db', hok, howns', hreg⟩
    · rw [hfailed]
      obtain ⟨hattempted, hraised, hafter, promoted, hids, hfilter⟩ :=
        ih hnodup.2 howns fun b hb => hpage b (List.mem_cons_of_mem _ hb)
      refine ⟨congrArg _ hattempted, hraised, hafter, promoted, fun id hid => ?_, hfilter⟩
      obtain ⟨b, hb, hbid⟩ := hids id hid
      exact ⟨b, List.mem_cons_of_mem _ hb, hbid⟩
    · rw [hok]
      have hrest : ∀ b ∈ page, b ∈ registeredBatches db' config.taskId := by
        intro b hb
        rw [hreg, List.mem_filter]
        refine ⟨hpage b (List.mem_cons_of_mem _ hb), decide_eq_true fun heq => hnodup.1 ?_⟩
        exact List.mem_map.mpr ⟨b, hb, heq⟩
      obtain ⟨hattempted, hraised, hafter, promoted, hids, hfilter⟩ := ih hnodup.2 howns' hrest
      refine ⟨congrArg _ hattempted, hraised, hafter, batch.batchId :: promoted,
        fun id hid => ?_, ?_⟩
      · rcases List.mem_cons.mp hid with rfl | hid
        · exact ⟨batch, List.mem_cons_self .., rfl⟩
        · obtain ⟨b, hb, hbid⟩ := hids id hid
          exact ⟨b, List.mem_cons_of_mem _ hb, hbid⟩
      · rw [hfilter, hreg, List.filter_filter]
        refine List.filter_congr fun b _ => ?_
        simp [Bool.and_comm]

def recoveryQueue (db : Database) (taskId : String) : List ExternalSyncBatch :=
  (registeredBatches db taskId).mergeSort fun b b' => b.fetchedAt ≤ b'.fetchedAt

def RecoveryState.offset (s : RecoveryState) (taskId : String) : Nat :=
  (s.offsets.lookup taskId).getD 0

theorem mem_recoveryQueue {taskId : String} {b : ExternalSyncBatch} :
    b ∈ recoveryQueue db taskId ↔ b ∈ registeredBatches db taskId :=
  (List.mergeSort_perm _ _).mem_iff

theorem length_recoveryQueue (db : Database) (taskId : String) :
    (recoveryQueue db taskId).length = (registeredBatches db taskId).length :=
  List.length_mergeSort _

theorem listBatches_registered (db : Database) (taskId : String) (offset : Nat) :
    listBatches db taskId (some .registered) maxBatchesPerCycle offset true =
      (((recoveryQueue db taskId).drop offset).take maxBatchesPerCycle,
        (recoveryQueue db taskId).length) := by
  rw [length_recoveryQueue]
  rfl

theorem registeredPage_eq (db : Database) (taskId : String) (offset : Nat)
    (hne : recoveryQueue db taskId ≠ []) :
    registeredPage db taskId offset =
      (pageStart (recoveryQueue db taskId) offset,
        rotationPage maxBatchesPerCycle (recoveryQueue db taskId) offset,
        (recoveryQueue db taskId).length) := by
  have hpos : 0 < (recoveryQueue db taskId).length := List.length_pos_iff.mpr hne
  simp only [registeredPage, listBatches_registered]
  have hempty : (((recoveryQueue db taskId).drop offset).take maxBatchesPerCycle).isEmpty = true ↔
      (recoveryQueue db taskId).length ≤ offset := by
    rw [List.isEmpty_iff, List.take_eq_nil_iff, List.drop_eq_nil_iff]
    simp [maxBatchesPerCycle]
  by_cases hend : (recoveryQueue db taskId).length ≤ offset
  · rw [if_pos ⟨hempty.mpr hend, hpos, by omega⟩]
    simp only [pageStart, rotationPage, if_pos hend]
  · rw [if_neg fun h => hend (hempty.mp h.1)]
    simp only [pageStart, rotationPage, if_neg hend]

theorem registeredPage_nil (db : Database) (taskId : String) (offset : Nat)
    (hnil : recoveryQueue db taskId = []) : registeredPage db taskId offset = (offset, [], 0) := by
  simp [registeredPage, listBatches_registered, hnil]

theorem recoveryQueue_nodup (db : Database) (taskId : String) :
    ((recoveryQueue db taskId).map ExternalSyncBatch.batchId).Nodup := by
  have hsub : ((registeredBatches db taskId).map ExternalSyncBatch.batchId).Nodup :=
    (List.filter_sublist.map _).nodup db.batches.nodup
  exact ((List.mergeSort_perm _ _).map _).nodup_iff.mpr hsub

theorem offset_storeOffset (offsets : Dict String Nat) (taskId : String) (total nextOffset : Nat) :
    ((storeOffset offsets taskId total nextOffset).lookup taskId).getD 0 =
      if total ≤ nextOffset then 0 else nextOffset := by
  unfold storeOffset
  by_cases hend : total ≤ nextOffset
  · rw [if_pos (Or.inr hend), if_pos hend, Dict.lookup_erase_eq, if_pos rfl, Option.getD_none]
  · have hpos : ¬ (total = 0 ∨ total ≤ nextOffset) := by omega
    rw [if_neg hpos, if_neg hend, Dict.lookup_insert_eq, if_pos rfl, Option.getD_some]

theorem promoteRegisteredBatches_turn {ready : ExternalSyncBatch → Bool} {s : RecoveryState}
    (howns : OwnsBatches config s.db) :
    let cycle := promoteRegisteredBatches config ready s
    cycle.1.attempted = rotationPage maxBatchesPerCycle (recoveryQueue s.db config.taskId)
        (s.offset config.taskId) ∧
      cycle.1.raised = none ∧ OwnsBatches config cycle.2.db ∧
      Turn maxBatchesPerCycle (recoveryQueue s.db config.taskId, s.offset config.taskId)
        (recoveryQueue cycle.2.db config.taskId, cycle.2.offset config.taskId) := by
  have hqueue : ∀ b, b ∈ rotationPage maxBatchesPerCycle (recoveryQueue s.db config.taskId)
      (s.offset config.taskId) → b ∈ registeredBatches s.db config.taskId := fun b hb =>
    mem_recoveryQueue.mp (List.mem_of_mem_drop (List.mem_of_mem_take hb))
  by_cases hempty : recoveryQueue s.db config.taskId = []
  · have hoffset : (s.offsets.lookup config.taskId).getD 0 = s.offset config.taskId := rfl
    have hpage : rotationPage maxBatchesPerCycle ([] : List ExternalSyncBatch)
        (s.offset config.taskId) = [] := by
      simp [rotationPage]
    have hcycle : promoteRegisteredBatches config ready s = ({ db := s.db },
        { db := s.db
          offsets := storeOffset s.offsets config.taskId 0 (s.offset config.taskId) }) := by
      simp [promoteRegisteredBatches, hoffset, registeredPage_nil _ _ _ hempty, promoteBatches]
    dsimp only
    rw [hcycle, hempty, hpage]
    refine ⟨rfl, rfl, howns, ?_, by simp, Or.inl rfl⟩
    have hnext : nextOffset maxBatchesPerCycle ([] : List ExternalSyncBatch)
        (s.offset config.taskId) = 0 := by
      simp [nextOffset]
    rw [hnext]
    exact (offset_storeOffset _ _ _ _).trans (if_pos (Nat.zero_le _))
  · have hpage := registeredPage_eq s.db config.taskId (s.offset config.taskId) hempty
    have hoffset : (s.offsets.lookup config.taskId).getD 0 = s.offset config.taskId := rfl
    simp only [promoteRegisteredBatches, hoffset, hpage]
    have hnodup : ((rotationPage maxBatchesPerCycle (recoveryQueue s.db config.taskId)
        (s.offset config.taskId)).map ExternalSyncBatch.batchId).Nodup := by
      refine List.Sublist.nodup ?_ (recoveryQueue_nodup s.db config.taskId)
      exact ((List.take_sublist _ _).trans (List.drop_sublist _ _)).map _
    obtain ⟨hattempted, hraised, hafter, promoted, hids, hfilter⟩ :=
      promoteBatches_ok ready hnodup howns hqueue
    refine ⟨hattempted, hraised, hafter, offset_storeOffset _ _ _ _, fun b hb hmiss => ?_, ?_⟩
    · rw [mem_recoveryQueue] at hb ⊢
      rw [hfilter, List.mem_filter]
      refine ⟨hb, decide_eq_true fun hid => ?_⟩
      obtain ⟨b', hb', heq⟩ := hids b.batchId hid
      have hsame : b' = b := Table.eq_of_key (mem_registeredBatches.mp (hqueue b' hb')).1
        (mem_registeredBatches.mp hb).1 heq
      exact hmiss (hsame ▸ hb')
    · cases promoted with
      | nil =>
        refine Or.inl ?_
        have hsame : registeredBatches (promoteBatches config ready
            (rotationPage maxBatchesPerCycle (recoveryQueue s.db config.taskId)
              (s.offset config.taskId)) s.db).db config.taskId =
            registeredBatches s.db config.taskId := by
          rw [hfilter]
          simp
        rw [recoveryQueue, hsame]
        rfl
      | cons id promoted =>
        obtain ⟨b, hb, hid⟩ := hids id (List.mem_cons_self ..)
        refine Or.inr ?_
        rw [length_recoveryQueue, length_recoveryQueue, hfilter]
        refine List.length_filter_lt_length_iff_exists.mpr ⟨b, hqueue b hb, ?_⟩
        simp [hid]

/-- Every registered batch is tried within `(n + 1)²` cycles, `n` the number of registered batches,
whatever the attempts before it come to. -/
theorem recovery_attempts_all {s : RecoveryState} (howns : OwnsBatches config s.db)
    (ready : Nat → ExternalSyncBatch → Bool) :
    ∀ b ∈ registeredBatches s.db config.taskId,
      ∃ t < ((registeredBatches s.db config.taskId).length + 1) *
          ((registeredBatches s.db config.taskId).length + 1),
        b ∈ attemptedIn config ready s t := by
  intro b hb
  have hrun : ∀ t, OwnsBatches config (recoveryAfter config ready s t).db := by
    intro t
    induction t with
    | zero => exact howns
    | succ t ih => exact (promoteRegisteredBatches_turn ih).2.2.1
  have hturn : ∀ t, Turn maxBatchesPerCycle
      (recoveryQueue (recoveryAfter config ready s t).db config.taskId,
        (recoveryAfter config ready s t).offset config.taskId)
      (recoveryQueue (recoveryAfter config ready s (t + 1)).db config.taskId,
        (recoveryAfter config ready s (t + 1)).offset config.taskId) :=
    fun t => (promoteRegisteredBatches_turn (hrun t)).2.2.2
  obtain ⟨t, ht, hserved⟩ := served (by decide) hturn (mem_recoveryQueue.mpr hb)
  refine ⟨t, ?_, ?_⟩
  · rwa [length_recoveryQueue] at ht
  · rw [attemptedIn, (promoteRegisteredBatches_turn (hrun t)).1]
    exact hserved

def registeredBatch (i : Nat) : ExternalSyncBatch :=
  { batchId := "b" ++ toString i, taskId := "t1", userId := "u1", storagePath := "p", fetchedAt := i
    status := .registered }

theorem registeredBatch_nodup :
    (((List.range 51).map registeredBatch).map Keyed.key).Nodup := by decide +kernel

/-- A task with one registered batch more than a page holds, and an offset behind them. -/
def pageAndOne : RecoveryState where
  db :=
    { tasks := ⟨[{ taskId := "t1", userId := "u1" }], List.nodup_singleton _⟩
      batches := ⟨(List.range 51).map registeredBatch, registeredBatch_nodup⟩
      generations := Table.empty
      trainings := Table.empty
      targets := Table.empty
      uuids := [] }
  offsets := (∅ : Dict String Nat).insert "t1" 70

theorem pageAndOne_owns : OwnsBatches { taskId := "t1", userId := "u1" } pageAndOne.db where
  task := ⟨{ taskId := "t1", userId := "u1" }, rfl, rfl⟩
  batches := by
    intro b hb _
    obtain ⟨i, -, rfl⟩ := List.mem_map.mp hb
    rfl

/-- The newest batch is tried, though no attempt of the first three cycles promotes a batch and the
oldest batch always fails. -/
theorem recovery_attempts_pageAndOne :
    ∃ t < 52 * 52, registeredBatch 50 ∈ attemptedIn { taskId := "t1", userId := "u1" }
      (fun t b => 2 < t && b.batchId ≠ "b0") pageAndOne t := by
  have hlength : (registeredBatches pageAndOne.db "t1").length = 51 := by decide +kernel
  obtain ⟨t, ht, hattempted⟩ := recovery_attempts_all pageAndOne_owns
    (fun t b => 2 < t && b.batchId ≠ "b0") (registeredBatch 50)
    (mem_registeredBatches.mpr
      ⟨List.mem_map.mpr ⟨50, List.mem_range.mpr (by decide), rfl⟩, rfl, rfl⟩)
  rw [hlength] at ht
  exact ⟨t, ht, hattempted⟩

end Sync
