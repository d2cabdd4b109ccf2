import TrainFactory.Generation.Deletion
import TrainFactory.Generation.Proofs.PublicationProofs
import TrainFactory.Sync.Proofs.BatchClaimsProofs

/-!
# Proofs: no sync batch is stranded by a deletion

A sync generation claims its batches before its generation task exists, so a deletion that has found
no pending tracking of its task never deletes the row that a queued batch depends on. Without that
check it does.
-/

namespace Generation

open Lib
open Sync (ClaimInv ExternalSyncBatch ExternalSyncGeneration CreateGeneration)

/-! ## Pending generations -/

/-- Every pending generation has an id and inputs, each once. -/
def InputsDistinct (db : Sync.Database) : Prop :=
  ∀ g ∈ db.generations, g.status = .pending →
    g.generationTaskId ≠ "" ∧ g.inputBatchIds ≠ [] ∧ g.inputBatchIds.Nodup

def ClaimedBy (op : Sync.Op) (g : ExternalSyncGeneration) : Prop :=
  ∃ args n, op = .createGenerationAndClaimBatches args ∧ g = args.row n ∧
    args.inputBatchIds ≠ [] ∧ args.inputBatchIds.Nodup

theorem mem_of_pending_update {generations : Table ExternalSyncGeneration} {id : String}
    {f : ExternalSyncGeneration → ExternalSyncGeneration} {hf : ∀ g, Keyed.key (f g) = Keyed.key g}
    (hsettles : ∀ g, (f g).status ≠ .pending) {g : ExternalSyncGeneration}
    (hg : g ∈ generations.update id f hf) (hpending : g.status = .pending) : g ∈ generations := by
  obtain ⟨g₀, hg₀, rfl⟩ := Table.mem_update.mp hg
  by_cases hid : Keyed.key g₀ = id
  · rw [if_pos hid] at hpending
    exact absurd hpending (hsettles g₀)
  · rw [if_neg hid]
    exact hg₀

theorem pending_apply {env : Sync.Env} {db : Sync.Database} {op : Sync.Op}
    (hop : isBatchTransaction op = true) {g : ExternalSyncGeneration}
    (hg : g ∈ (op.apply env db).generations) (hpending : g.status = .pending) :
    g ∈ db.generations ∨ ClaimedBy op g := by
  cases op with
  | createBatch fileSha256 args =>
    simp only [Sync.Op.apply] at hg
    split at hg
    · exact Or.inl hg
    · rcases Sync.createBatch_commit db env.settings fileSha256 args with
        h | ⟨task, batches, -, -, -, -, h⟩ <;> rw [h] at hg <;> exact Or.inl hg
  | promoteBatchToFetched taskId batchId userId =>
    simp only [Sync.Op.apply] at hg
    rcases Sync.promoteBatchToFetched_commit db taskId batchId userId with
      h | ⟨task, batch, -, -, -, -, h⟩ <;> rw [h] at hg <;> exact Or.inl hg
  | createGenerationAndClaimBatches args =>
    simp only [Sync.Op.apply] at hg
    rcases Sync.createGenerationAndClaimBatches_commit db args with
      h | ⟨task, n, generations, -, -, hne, hnodup, -, -, hins, h⟩ <;> rw [h] at hg
    · exact Or.inl hg
    · have hg : g ∈ generations := hg
      rcases (Table.mem_insert hins).mp hg with hg | rfl
      · exact Or.inl hg
      · exact Or.inr ⟨args, n, rfl, rfl, hne, hnodup⟩
  | completeGenerationAndConsumeBatches now gid outputDatasetId outputSampleCount =>
    simp only [Sync.Op.apply] at hg
    rcases Sync.completeGeneration_cases db now gid outputDatasetId outputSampleCount with
      ⟨r, h, -⟩ | ⟨r, g₀, h, -⟩ <;> rw [h, Sync.Outcome.commit_ok] at hg
    · exact Or.inl hg
    · rw [Sync.consumeBatches_generations] at hg
      exact Or.inl (mem_of_pending_update (by simp) hg hpending)
  | failGenerationAndRestoreBatches now gid reason =>
    simp only [Sync.Op.apply] at hg
    rcases Sync.failGeneration_cases db now gid reason with ⟨r, h, -⟩ | ⟨r, g₀, reason', h, -⟩ <;>
      rw [h, Sync.Outcome.commit_ok] at hg
    · exact Or.inl hg
    · rw [Sync.restoreBatches_generations] at hg
      exact Or.inl (mem_of_pending_update (by simp) hg hpending)
  | _ => cases hop

theorem resetsPosition_of_isBatchTransaction {op : Sync.Op} (hop : isBatchTransaction op = true) :
    op.resetsPosition = false := by
  cases op <;> first | rfl | cases hop

theorem claimInv_delete {db : Sync.Database} (hI : ClaimInv db) {p : ExternalSyncGeneration → Bool}
    (hsettled : ∀ g ∈ db.generations, p g = true → g.status ≠ .pending) :
    ClaimInv { db with generations := db.generations.deleteWhere p } where
  onePending := fun g hg g' hg' hp hp' htask =>
    hI.onePending g (Table.mem_deleteWhere.mp hg).1 g' (Table.mem_deleteWhere.mp hg').1 hp hp' htask
  queuedOwned := by
    intro b hb hqueued
    obtain ⟨g, hg, hpending, hrest⟩ := hI.queuedOwned b hb hqueued
    have hkept : p g = false := by
      by_contra hdeleted
      exact hsettled g hg (Bool.not_eq_false _ ▸ hdeleted) hpending
    exact ⟨g, Table.mem_deleteWhere.mpr ⟨hg, hkept⟩, hpending, hrest⟩
  inputsQueued := fun g hg => hI.inputsQueued g (Table.mem_deleteWhere.mp hg).1

/-! ## The invariant -/

/-- A deletion is guarded: it has its intent and has then found no pending tracking. A sync
generation claims its batches under a fresh id, before the task with that id is created. -/
def Guarded (s : Lifecycle) : Action → Prop
  | .sync op => isBatchTransaction op = true ∧ ∀ args,
      op = .createGenerationAndClaimBatches args →
        args.generationTaskId ≠ "" ∧ args.generationTaskId ∉ s.created
  | .deleteTask taskId _ _ | .deleteTaskWithDatasets taskId _ _ _ => taskId ∈ s.cleared
  | _ => True

/-- Queued batches are tracked, and a deletion that has passed the check deletes no pending row. -/
structure TrackingInv (s : Lifecycle) : Prop where
  claims : ClaimInv s.system.sync
  inputs : InputsDistinct s.system.sync
  cleared : ∀ g ∈ s.system.sync.generations, g.generationTaskId ∈ s.cleared → g.status ≠ .pending
  clearedIntended : ∀ id ∈ s.cleared, id ∈ s.intended
  intendedCreated : ∀ id ∈ s.intended, id ∈ s.created
  tasksCreated : ∀ t ∈ s.system.generation.tasks, t.taskId ∈ s.created

namespace TrackingInv

variable {env : Sync.Env} {host : Host} {s : Lifecycle}

/-- Steps that keep the sync tables and the notes of the deletions, and create no task, keep the
invariant. -/
theorem of_tasks (h : TrackingInv s) (system : System)
    (hsync : system.sync = s.system.sync)
    (htasks : ∀ t ∈ system.generation.tasks, ∃ t₀ ∈ s.system.generation.tasks,
      t₀.taskId = t.taskId) : TrackingInv { s with system := system } := by
  refine ⟨?_, ?_, ?_, h.clearedIntended, h.intendedCreated, fun t ht => ?_⟩
  · exact hsync ▸ h.claims
  · exact hsync ▸ h.inputs
  · exact hsync ▸ h.cleared
  · obtain ⟨t₀, ht₀, hid⟩ := htasks t ht
    exact hid ▸ h.tasksCreated t₀ ht₀

theorem batchTransaction (h : TrackingInv s) {op : Sync.Op}
    (hop : isBatchTransaction op = true) (hfresh : ∀ args,
      op = .createGenerationAndClaimBatches args →
        args.generationTaskId ≠ "" ∧ args.generationTaskId ∉ s.created) :
    TrackingInv { s with system := { s.system with sync := op.apply env s.system.sync } } := by
  refine ⟨h.claims.move (Sync.apply_batchMove (resetsPosition_of_isBatchTransaction hop)),
    fun g hg hpending => ?_, fun g hg hcleared hpending => ?_, h.clearedIntended,
    h.intendedCreated, h.tasksCreated⟩
  · rcases pending_apply hop hg hpending with hg | ⟨args, n, hclaim, rfl, hne, hnodup⟩
    · exact h.inputs g hg hpending
    · exact ⟨(hfresh args hclaim).1, hne, hnodup⟩
  · rcases pending_apply hop hg hpending with hg | ⟨args, n, hclaim, rfl, -⟩
    · exact h.cleared g hg hcleared hpending
    · exact (hfresh args hclaim).2 (h.intendedCreated _ (h.clearedIntended _ hcleared))

theorem removeTask (h : TrackingInv s) {taskId : String} (hcleared : taskId ∈ s.cleared)
    {generation : Database} (htasks : ∀ t ∈ generation.tasks, ∃ t₀ ∈ s.system.generation.tasks,
      t₀.taskId = t.taskId) :
    TrackingInv { s with system := System.removeTask ⟨s.system.sync, generation⟩ taskId } := by
  refine ⟨?_, fun g hg => h.inputs g (Table.mem_deleteWhere.mp hg).1,
    fun g hg => h.cleared g (Table.mem_deleteWhere.mp hg).1, h.clearedIntended, h.intendedCreated,
    fun t ht => ?_⟩
  · refine claimInv_delete h.claims fun g hg hid => h.cleared g hg ?_
    rw [of_decide_eq_true hid]
    exact hcleared
  · obtain ⟨t₀, ht₀, hid⟩ := htasks t (Table.mem_deleteWhere.mp ht).1
    exact hid ▸ h.tasksCreated t₀ ht₀

theorem mem_updateTask {tasks : Tasks} {taskId : String} {values : GenerationTask → GenerationTask}
    {t : GenerationTask} (ht : t ∈ tasks.update taskId (keepId values) (key_keepId values)) :
    ∃ t₀ ∈ tasks, t₀.taskId = t.taskId := by
  obtain ⟨t₀, ht₀, rfl⟩ := Table.mem_update.mp ht
  refine ⟨t₀, ht₀, ?_⟩
  split <;> rfl

theorem mem_beginTaskDeletion {db : Database} {taskId : String} {cascade : Bool}
    {userId : Option String} {t : GenerationTask}
    (ht : t ∈ ((beginTaskDeletion taskId cascade userId db).commit db).tasks) :
    ∃ t₀ ∈ db.tasks, t₀.taskId = t.taskId := by
  unfold beginTaskDeletion at ht
  split at ht
  · exact ⟨t, ht, rfl⟩
  · split_ifs at ht <;> first | exact ⟨t, ht, rfl⟩ | exact mem_updateTask ht

theorem mem_cancelTaskDeletion {db : Database} {taskId : String} {cascade : Bool}
    {previousStatus : GenerationStatus} {userId : Option String} {t : GenerationTask}
    (ht : t ∈ ((cancelTaskDeletion taskId cascade previousStatus userId db).commit db).tasks) :
    ∃ t₀ ∈ db.tasks, t₀.taskId = t.taskId := by
  unfold cancelTaskDeletion at ht
  split at ht
  · exact ⟨t, ht, rfl⟩
  split at ht
  · exact ⟨t, ht, rfl⟩
  · split_ifs at ht <;> first | exact ⟨t, ht, rfl⟩ | exact mem_updateTask ht

theorem mem_createTask {db : Database} {args : CreateTask} {t : GenerationTask}
    (ht : t ∈ ((createTask host args db).commit db).tasks) :
    t ∈ db.tasks ∨ t.taskId = args.taskId := by
  unfold createTask at ht
  split at ht
  · exact Or.inl ht
  split at ht
  · exact Or.inl ht
  split at ht
  · exact Or.inl ht
  split at ht
  · exact Or.inl ht
  · next tasks hins =>
    have ht : t ∈ tasks := ht
    rcases (Table.mem_insert hins).mp ht with ht | rfl
    · exact Or.inl ht
    · exact Or.inr rfl

theorem mem_of_returnsIntent {system : System} {taskId : String} {cascade : Bool}
    {userId : Option String}
    (h : system.returnsIntent (.beginTaskDeletion taskId cascade userId) = true) :
    ∃ t ∈ system.generation.tasks, t.taskId = taskId := by
  simp only [System.returnsIntent, beginTaskDeletion] at h
  cases hl : system.generation.tasks.lookup taskId with
  | none => simp [hl] at h
  | some t =>
    obtain ⟨hmem, hid⟩ := Table.lookup_eq_some.mp hl
    exact ⟨t, hmem, hid⟩

theorem not_pending_of_check {system : System} {taskId : String}
    (h : (rejectPendingSyncTracking taskId system).toBool = true) {g : ExternalSyncGeneration}
    (hg : g ∈ system.sync.generations) (hid : g.generationTaskId = taskId) :
    g.status ≠ .pending := by
  intro hpending
  have hl : system.sync.generations.lookup taskId = some g := Table.lookup_eq_some.mpr ⟨hg, hid⟩
  simp [rejectPendingSyncTracking, hl, hpending, Except.toBool] at h

theorem step (h : TrackingInv s) {action : Action} (hguard : Guarded s action) :
    TrackingInv (s.step env host action) := by
  cases action with
  | sync op => exact h.batchTransaction hguard.1 hguard.2
  | generation op =>
    refine h.of_tasks _ rfl fun t ht => ?_
    obtain ⟨t₀, hl, -⟩ := lookup_apply (Table.lookup_of_mem ht)
    exact ⟨t₀, (Table.lookup_eq_some.mp hl).1, (Table.lookup_eq_some.mp hl).2⟩
  | createTask args =>
    refine ⟨h.claims, h.inputs, h.cleared, h.clearedIntended,
      fun id hid => List.mem_cons_of_mem _ (h.intendedCreated id hid), fun t ht => ?_⟩
    rcases mem_createTask ht with ht | hid
    · exact List.mem_cons_of_mem _ (h.tasksCreated t ht)
    · exact hid ▸ List.mem_cons_self ..
  | beginTaskDeletion taskId cascade userId =>
    have hsystem := h.of_tasks (s.system.apply env host (.beginTaskDeletion taskId cascade userId))
      rfl fun t ht => mem_beginTaskDeletion ht
    simp only [Lifecycle.step]
    split
    · next hintent =>
      obtain ⟨t, ht, hid⟩ := mem_of_returnsIntent hintent
      refine ⟨hsystem.claims, hsystem.inputs, hsystem.cleared,
        fun id hid => List.mem_cons_of_mem _ (hsystem.clearedIntended id hid), fun id hmem => ?_,
        hsystem.tasksCreated⟩
      rcases List.mem_cons.mp hmem with rfl | hmem
      · exact hid ▸ h.tasksCreated t ht
      · exact hsystem.intendedCreated id hmem
    · exact hsystem
  | cancelTaskDeletion taskId cascade previousStatus userId =>
    exact h.of_tasks _ rfl fun t ht => mem_cancelTaskDeletion ht
  | rejectPendingSyncTracking taskId =>
    simp only [Lifecycle.step, System.apply]
    split
    · next hcheck =>
      refine ⟨h.claims, h.inputs, fun g hg hmem => ?_, fun id hmem => ?_, h.intendedCreated,
        h.tasksCreated⟩
      · rcases List.mem_cons.mp hmem with hid | hmem
        · exact not_pending_of_check hcheck.2 hg hid
        · exact h.cleared g hg hmem
      · rcases List.mem_cons.mp hmem with rfl | hmem
        · exact hcheck.1
        · exact h.clearedIntended id hmem
    · exact h
  | deleteTask taskId expectedStatus userId =>
    simp only [Lifecycle.step, System.apply, deleteTask]
    split
    · exact h
    · split_ifs <;> first
        | exact h
        | exact h.removeTask hguard fun t ht => ⟨t, ht, rfl⟩
  | deleteTaskWithDatasets taskId datasetIds deletionOwner userId =>
    simp only [Lifecycle.step, System.apply, deleteTaskWithDatasets]
    split
    · exact h
    split
    · exact h
    split
    · exact h
    split
    · exact h
    split
    · exact h
    · exact h.removeTask hguard fun t ht => ⟨t, ht, rfl⟩

end TrackingInv

/-! ## The restore pass -/

theorem fail_restores {db : Sync.Database} (hI : ClaimInv db) {g : ExternalSyncGeneration}
    (hg : g ∈ db.generations) (hpending : g.status = .pending) (hne : g.inputBatchIds ≠ [])
    (hnodup : g.inputBatchIds.Nodup) (now : Sync.DateTime) (reason : String) :
    ∃ r reason', Sync.failGenerationAndRestoreBatches now g.generationTaskId reason db =
      .ok (r, Sync.restoreBatches now g reason' db) := by
  have hl : db.generations.lookup g.generationTaskId = some g := Table.lookup_of_mem hg
  have hfound : Sync.foundAll (Sync.inputBatches db g) g.inputBatchIds = true := by
    refine Sync.foundAll_iff.mpr fun id hid => ?_
    obtain ⟨b, hb, rfl, htask, -⟩ := hI.inputsQueued g hg hpending id hid
    exact ⟨b, Sync.mem_inputBatches.mpr ⟨hb, htask, hid⟩, rfl⟩
  have hrestorable : (Sync.inputBatches db g).all (Sync.isRestorable g) = true := by
    refine List.all_eq_true.mpr fun b hb => ?_
    obtain ⟨hb, -, hin⟩ := Sync.mem_inputBatches.mp hb
    obtain ⟨-, huser, hqueued, howner⟩ := hI.queued_of_mem hg hpending hb hin
    simp [Sync.isRestorable, huser, hqueued, howner]
  unfold Sync.failGenerationAndRestoreBatches
  rw [hl]
  dsimp only
  rw [if_neg (not_or.mpr ⟨hne, not_not.mpr hnodup⟩), if_neg (by rw [hpending]; decide),
    if_neg (not_not.mpr hpending),
    if_neg (not_or.mpr ⟨not_not.mpr hfound, not_not.mpr hrestorable⟩)]
  exact ⟨_, _, rfl⟩

def Ended (s : System) (generationTaskId : String) : Prop :=
  ∀ t, s.generation.tasks.lookup generationTaskId = some t →
    t.status = .failed ∨ t.status = .stopped

theorem restoreGeneration_sync {s : System} {generationTaskId : String}
    (hended : Ended s generationTaskId)
    (finalize : GenerationTask → Sync.Database → Sync.Database) (now : Sync.DateTime) :
    ∃ reason, (restoreGeneration finalize now s generationTaskId).sync =
      (Sync.failGenerationAndRestoreBatches now generationTaskId reason s.sync).commit s.sync := by
  unfold restoreGeneration
  cases hl : s.generation.tasks.lookup generationTaskId with
  | none => exact ⟨_, rfl⟩
  | some t =>
    have hstatus := hended t hl
    have hne : t.status ≠ .completed := by
      rcases hstatus with h | h <;> rw [h] <;> decide
    dsimp only
    rw [if_neg hne, if_pos hstatus]
    exact ⟨_, rfl⟩

theorem eq_singleton {α : Type} {l : List α} {a : α} (hmem : a ∈ l) (hall : ∀ b ∈ l, b = a)
    (hnodup : l.Nodup) : l = [a] := by
  have hreplicate := List.eq_replicate_of_mem hall
  rw [hreplicate, List.nodup_replicate] at hnodup
  have hpos : 0 < l.length := List.length_pos_of_mem hmem
  rw [hreplicate, show l.length = 1 by omega]
  rfl

theorem pendingGenerationIds_eq {db : Sync.Database} (hI : ClaimInv db) {g : ExternalSyncGeneration}
    (hg : g ∈ db.generations) (hpending : g.status = .pending) (hid : g.generationTaskId ≠ "") :
    pendingGenerationIds db g.taskId = [g.generationTaskId] := by
  let pending := db.generations.select fun g' => g'.taskId = g.taskId && g'.status = .pending
  have hmem : g ∈ pending := Table.mem_select.mpr ⟨hg, by simp [hpending]⟩
  have hall : ∀ g' ∈ pending, g' = g := by
    intro g' hg'
    obtain ⟨hg', hcond⟩ := Table.mem_select.mp hg'
    simp only [Bool.and_eq_true, decide_eq_true_eq] at hcond
    exact hI.onePending g' hg' g hg hcond.2 hpending hcond.1
  have hnodup : pending.Nodup := (List.Nodup.of_map _ db.generations.nodup).filter _
  have hsingle : pending = [g] := eq_singleton hmem hall hnodup
  show (pending.map _).filter _ = _
  rw [hsingle]
  simp [hid]

/-- No sync batch is stranded by the deletion of a generation task: in every run whose deletions are
guarded, a queued batch names a pending generation that tracks it, and the restore pass gives it
back once the task of that generation failed, was stopped or is gone. -/
theorem queued_batches_tracked (env : Sync.Env) (host : Host) (s : System)
    (hbatches : s.sync.batches = Table.empty) (hgenerations : s.sync.generations = Table.empty)
    (actions : List Action)
    (hguarded : Admits (Lifecycle.step env host) Guarded
      ⟨s, s.generation.tasks.rows.map GenerationTask.taskId, [], []⟩ actions) :
    let s' := (exec (Lifecycle.step env host)
      ⟨s, s.generation.tasks.rows.map GenerationTask.taskId, [], []⟩ actions).system
    ∀ b ∈ s'.sync.batches, b.status = .generationQueued →
      ∃ g ∈ s'.sync.generations, g.status = .pending ∧ g.taskId = b.taskId ∧
        b.generationTaskId = some g.generationTaskId ∧
        ∀ finalize now, Ended s' g.generationTaskId →
          ∃ b' ∈ (restoreStoppedQueuedBatches finalize now b.taskId s').sync.batches,
            b'.batchId = b.batchId ∧ b'.recordCount = b.recordCount ∧ b'.status = .fetched ∧
              b'.generationTaskId = none := by
  have hinit : TrackingInv ⟨s, s.generation.tasks.rows.map GenerationTask.taskId, [], []⟩ := by
    refine ⟨ClaimInv.empty hbatches hgenerations, fun g hg => ?_, fun g hg => ?_, by simp, by simp,
      fun t ht => List.mem_map.mpr ⟨t, ht, rfl⟩⟩
    · rw [hgenerations] at hg
      exact absurd hg (Table.not_mem_empty g)
    · rw [hgenerations] at hg
      exact absurd hg (Table.not_mem_empty g)
  have hrun : TrackingInv (exec (Lifecycle.step env host)
      ⟨s, s.generation.tasks.rows.map GenerationTask.taskId, [], []⟩ actions) :=
    exec_invariant (fun s action hs hguard => hs.step hguard) hinit hguarded
  intro s' b hb hqueued
  obtain ⟨g, hg, hpending, htask, hin, howner⟩ := hrun.claims.queuedOwned b hb hqueued
  obtain ⟨hid, hne, hnodup⟩ := hrun.inputs g hg hpending
  refine ⟨g, hg, hpending, htask, howner, fun finalize now hended => ?_⟩
  obtain ⟨reason, hrestore⟩ := restoreGeneration_sync hended finalize now
  obtain ⟨r, reason', hfail⟩ := fail_restores hrun.claims hg hpending hne hnodup now reason
  have hsync : (restoreStoppedQueuedBatches finalize now b.taskId s').sync =
      Sync.restoreBatches now g reason' s'.sync := by
    unfold restoreStoppedQueuedBatches
    rw [← htask, pendingGenerationIds_eq hrun.claims hg hpending hid, List.foldl_cons,
      List.foldl_nil, hrestore, hfail, Sync.Outcome.commit_ok]
  rw [hsync, Sync.restoreBatches_batches]
  refine ⟨_, Table.mem_updateWhere.mpr ⟨b, hb, rfl⟩, ?_⟩
  rw [if_pos (by simp [hin, htask])]
  exact ⟨rfl, rfl, rfl, rfl⟩

/-- A host whose digests and collation weights are the texts themselves. -/
def plainHost : Host where
  collation := ⟨id⟩
  dirs := { cwd := "/", home := fun _ => none }
  sha256 := id
  rejectsNetloc := fun _ => false
  lineageEdgeKey := fun source target relation => source.getD "" ++ target ++ relation

def generatingSystem : System where
  sync := Sync.Database.ofTask Sync.generatingTask
  generation :=
    { tasks := Table.empty, datasets := Table.empty, assets := [], edges := Table.empty
      collections := Table.empty, links := Table.empty }

def failedGeneration : List Action :=
  [.sync (.createBatch (fun _ => none)
      { uuid := "batch", now := 1, taskId := "task", userId := "user", recordCount := 3
        storagePath := "batch.jsonl", sinceTime := none }),
    .sync (.createGenerationAndClaimBatches
      { now := 2, taskId := "task", generationTaskId := "generation", userId := "user"
        inputBatchIds := ["batch"], inputRecordCount := 3 }),
    .createTask
      { taskId := "generation", userId := some "user", generationMode := "doc_to_training"
        outputPath := none, sourceDatasetId := none, milvusCollection := none
        requireSourceDataset := false, runToken := "token", available := true },
    .generation (.updateStatus
      { taskId := "generation", status := .failed, newRunToken := "", now := 3 })]

def otherTask : Sync.ExternalSyncTask := { Sync.generatingTask with taskId := "other" }

theorem twoTasks_nodup : ([Sync.generatingTask, otherTask].map Keyed.key).Nodup := by decide

def twoTasksSystem : System :=
  { generatingSystem with
    sync := { generatingSystem.sync with
      tasks := ⟨[Sync.generatingTask, otherTask], twoTasks_nodup⟩ } }

/-- The batch of the failed generation is taken back, the other task has a batch claimed, and then
the task of the failed generation is deleted. -/
def deletionBesideQueued : List Action :=
  failedGeneration ++
    [.sync (.failGenerationAndRestoreBatches 4 "generation" "failed"),
      .sync (.createBatch (fun _ => none)
        { uuid := "other-batch", now := 5, taskId := "other", userId := "user", recordCount := 2
          storagePath := "other.jsonl", sinceTime := none }),
      .sync (.createGenerationAndClaimBatches
        { now := 6, taskId := "other", generationTaskId := "second", userId := "user"
          inputBatchIds := ["other-batch"], inputRecordCount := 2 }),
      .beginTaskDeletion "generation" false (some "user"),
      .rejectPendingSyncTracking "generation",
      .deleteTask "generation" (some .deleting) (some "user")]

/-- Beside the deletion, the batch of the second generation stays tracked. -/
theorem queued_batches_tracked_beside_deletion :
    let s' := (exec (Lifecycle.step Sync.defaultEnv plainHost) ⟨twoTasksSystem, [], [], []⟩
      deletionBesideQueued).system
    s'.sync.generations.rows.map ExternalSyncGeneration.generationTaskId = ["second"] ∧
    ∃ b ∈ s'.sync.batches, b.status = .generationQueued ∧
      ∃ g ∈ s'.sync.generations, g.status = .pending ∧ g.taskId = b.taskId ∧
        b.generationTaskId = some g.generationTaskId ∧
        ∀ finalize now, Ended s' g.generationTaskId →
          ∃ b' ∈ (restoreStoppedQueuedBatches finalize now b.taskId s').sync.batches,
            b'.batchId = b.batchId ∧ b'.recordCount = b.recordCount ∧ b'.status = .fetched ∧
              b'.generationTaskId = none := by
  have hguarded : Admits (Lifecycle.step Sync.defaultEnv plainHost) Guarded
      ⟨twoTasksSystem, [], [], []⟩ deletionBesideQueued := by
    refine ⟨⟨rfl, fun args h => by cases h⟩, ⟨rfl, fun args h => ?_⟩, trivial, trivial,
      ⟨rfl, fun args h => by cases h⟩, ⟨rfl, fun args h => by cases h⟩, ⟨rfl, fun args h => ?_⟩,
      trivial, trivial, ?_, trivial⟩
    · cases h
      exact ⟨by decide, by decide⟩
    · cases h
      exact ⟨by decide, by decide +kernel⟩
    · show "generation" ∈ _
      decide +kernel
  have htracked := queued_batches_tracked Sync.defaultEnv plainHost twoTasksSystem rfl rfl
    deletionBesideQueued hguarded
  have hqueued : ((exec (Lifecycle.step Sync.defaultEnv plainHost)
      ⟨twoTasksSystem, [], [], []⟩ deletionBesideQueued).system.sync.batches.rows.any
        fun b => b.status = .generationQueued) = true := by decide +kernel
  obtain ⟨b, hb, hstatus⟩ := List.any_eq_true.mp hqueued
  rw [decide_eq_true_eq] at hstatus
  exact ⟨by decide +kernel, b, hb, hstatus, htracked b hb hstatus⟩

/-- A deletion transaction without the check deletes the tracking of a failed generation before its
batches are taken back: the batch stays queued, and no restore pass finds it. -/
theorem unchecked_deletion_strands_batch :
    let s' := (exec (Lifecycle.step Sync.defaultEnv plainHost) ⟨generatingSystem, [], [], []⟩
      (failedGeneration ++ [.beginTaskDeletion "generation" false (some "user"),
        .deleteTask "generation" (some .deleting) (some "user")])).system
    s'.sync.batches.rows.map (fun b => (b.status, b.generationTaskId)) =
        [(.generationQueued, some "generation")] ∧
      s'.sync.generations.rows.length = 0 ∧ pendingGenerationIds s'.sync "task" = [] := by
  decide +kernel

end Generation
