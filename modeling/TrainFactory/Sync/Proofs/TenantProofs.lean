import TrainFactory.Sync.Proofs.HistoryProofs

/-!
# Proofs: the rows of one owner

Every batch, generation and training belongs to the user of its task, and a generation holds batches
of its own task only, whatever the callers ask for.
-/

namespace Sync

open Lib

/-- A task with this id belongs to this user. -/
def OwnedBy (tasks : Table ExternalSyncTask) (taskId userId : String) : Prop :=
  ∃ task ∈ tasks, task.taskId = taskId ∧ task.userId = userId

/-- The rows of a database belong together: each to the user of its task, the batches that a
generation names to its task and its user, and a batch that is held to a generation that names it.
-/
structure TenantInv (db : Database) : Prop where
  batches : ∀ b ∈ db.batches, OwnedBy db.tasks b.taskId b.userId
  generations : ∀ g ∈ db.generations, OwnedBy db.tasks g.taskId g.userId
  trainings : ∀ t ∈ db.trainings, OwnedBy db.tasks t.taskId t.userId
  issued : ∀ b ∈ db.batches, b.batchId ∈ db.uuids
  named : ∀ g ∈ db.generations, ∀ id ∈ g.inputBatchIds, id ∈ db.uuids
  inputs : ∀ g ∈ db.generations, ∀ b ∈ db.batches, b.batchId ∈ g.inputBatchIds →
    b.taskId = g.taskId ∧ b.userId = g.userId
  held : ∀ b ∈ db.batches, ∀ id, b.generationTaskId = some id →
    ∃ g ∈ db.generations, g.generationTaskId = id ∧ b.batchId ∈ g.inputBatchIds

/-! ## What one operation does -/

/-- A batch after an operation: it is held by none, by its holder or by a generation that names it.
-/
structure ExternalSyncBatch.LivesAs (generations : Table ExternalSyncGeneration)
    (b b' : ExternalSyncBatch) : Prop where
  columns : b'.batchId = b.batchId ∧ b'.taskId = b.taskId ∧ b'.userId = b.userId
  held : b'.generationTaskId = none ∨ b'.generationTaskId = b.generationTaskId ∨
    ∃ g ∈ generations, b'.generationTaskId = some g.generationTaskId ∧ b'.batchId ∈ g.inputBatchIds

/-- The batches after an operation are those before it, but for those that it creates. -/
def BatchesFrom (db db' : Database) : Prop :=
  ∀ b' ∈ db'.batches, (∃ b ∈ db.batches, b.LivesAs db'.generations b') ∨
    (b'.batchId ∉ db.uuids ∧ b'.batchId ∈ db'.uuids ∧ b'.generationTaskId = none ∧
      OwnedBy db.tasks b'.taskId b'.userId)

section Step

variable {env : Env} {db : Database}

theorem ExternalSyncBatch.LivesAs.refl (generations : Table ExternalSyncGeneration)
    (b : ExternalSyncBatch) : b.LivesAs generations b :=
  ⟨⟨rfl, rfl, rfl⟩, Or.inr (Or.inl rfl)⟩

theorem BatchesFrom.of_eq {db' : Database} (h : db'.batches = db.batches) : BatchesFrom db db' :=
  fun b' hb' => Or.inl ⟨b', h ▸ hb', .refl db'.generations b'⟩

theorem BatchesFrom.of_updateWhere {db' : Database} {p : ExternalSyncBatch → Bool}
    {f : ExternalSyncBatch → ExternalSyncBatch} (hf : ∀ b, Keyed.key (f b) = Keyed.key b)
    (h : db'.batches = db.batches.updateWhere p f hf)
    (hlife : ∀ b ∈ db.batches, p b = true → b.LivesAs db'.generations (f b)) :
    BatchesFrom db db' := by
  intro b' hb'
  rw [h] at hb'
  obtain ⟨b, hb, rfl⟩ := Table.mem_updateWhere.mp hb'
  refine Or.inl ⟨b, hb, ?_⟩
  split
  · next hp => exact hlife b hb hp
  · exact .refl db'.generations b

/-- Who creates a batch, a generation or a training is the user of the task that it is for. -/
theorem owner_checked (env : Env) (db : Database) {op : Op} {taskId userId : String}
    (hop : (∃ fileSha256 args, op = .createBatch fileSha256 args ∧ args.taskId = taskId ∧
        args.userId = userId) ∨
      ∃ args, op = .createTrainingWithClaim args ∧ args.taskId = taskId ∧ args.userId = userId) :
    op.apply env db = db ∨ OwnedBy db.tasks taskId userId := by
  rcases hop with ⟨fileSha256, args, rfl, rfl, rfl⟩ | ⟨args, rfl, rfl, rfl⟩
  · simp only [Op.apply, createBatch]
    split
    · exact Or.inl rfl
    cases htask : db.tasks.lookup args.taskId with
    | none => exact Or.inl rfl
    | some task =>
      by_cases huser : task.userId = args.userId
      · obtain ⟨hmem, hid⟩ := Table.lookup_eq_some.mp htask
        exact Or.inr ⟨task, hmem, hid, huser⟩
      · simp only [ne_eq, huser, not_false_eq_true, ↓reduceIte, Outcome.commit_error]
        exact Or.inl trivial
  · simp only [Op.apply, createTrainingWithClaim]
    split
    · exact Or.inl rfl
    cases htask : db.tasks.lookup args.taskId with
    | none => exact Or.inl rfl
    | some task =>
      by_cases huser : task.userId = args.userId
      · obtain ⟨hmem, hid⟩ := Table.lookup_eq_some.mp htask
        exact Or.inr ⟨task, hmem, hid, huser⟩
      · simp only [ne_eq, huser, not_false_eq_true, ↓reduceIte, Outcome.commit_error]
        exact Or.inl trivial

theorem writeTask_batches_subset {legacyTrainingTargetId : String → String} {p : TaskPatch}
    {final : Option (List TargetValues)} {task : ExternalSyncTask}
    {targets : List ExternalSyncTrainingTarget} {b : ExternalSyncBatch}
    (h : b ∈ (writeTask legacyTrainingTargetId p final task targets db).2.batches) :
    b ∈ db.batches := by
  unfold writeTask at h
  dsimp only at h
  split at h
  · exact ((invalidateFetchedBatches_batches task.taskId b).mp h).1
  · exact h

theorem movedBatches_from (g : ExternalSyncGeneration) (disabled : Bool) {db' : Database}
    (hbatches : db'.batches = (movedBatches g disabled db).batches)
    (hg : ∃ g' ∈ db'.generations, g'.generationTaskId = g.generationTaskId ∧
      g'.inputBatchIds = g.inputBatchIds) : BatchesFrom db db' := by
  obtain ⟨g', hg', hid, hinputs⟩ := hg
  unfold movedBatches at hbatches
  split at hbatches
  · split at hbatches
    · exact .of_updateWhere (by intro _; rfl) hbatches fun b _ _ => ⟨⟨rfl, rfl, rfl⟩, Or.inl rfl⟩
    · refine .of_updateWhere (by intro _; rfl) hbatches fun b _ hsel => ?_
      simp only [isRetakable, Bool.and_eq_true, decide_eq_true_eq] at hsel
      exact ⟨⟨rfl, rfl, rfl⟩, Or.inr (Or.inr ⟨g', hg', congrArg some hid.symm,
        hinputs ▸ hsel.1.1⟩)⟩
  · exact .of_eq hbatches

theorem apply_batchesFrom (env : Env) (db : Database) (op : Op) :
    BatchesFrom db (op.apply env db) := by
  by_cases hsame : op.apply env db = db
  · exact .of_eq (congrArg Database.batches hsame)
  have howner : ∀ fileSha256 args, op = .createBatch fileSha256 args →
      OwnedBy db.tasks args.taskId args.userId := fun fileSha256 args hop =>
    (owner_checked env db (Or.inl ⟨fileSha256, args, hop, rfl, rfl⟩)).resolve_left hsame
  clear hsame
  have heffect := op.effect env db
  generalize op.apply env db = db' at heffect ⊢
  cases heffect with
  | create fileSha256 args task batches huuid htask hguard hstatus hins =>
    intro b' hb'
    rcases (Table.mem_insert hins).mp hb' with hold | rfl
    · exact Or.inl ⟨b', hold, .refl _ b'⟩
    · exact Or.inr ⟨huuid, List.mem_cons_self .., rfl, howner fileSha256 args rfl⟩
  | promote batch userId hbatch hstatus =>
    exact .of_updateWhere (by intro _; rfl) rfl fun b _ _ => ⟨⟨rfl, rfl, rfl⟩, Or.inr (Or.inl rfl)⟩
  | reset taskId =>
    exact .of_updateWhere (by intro _; rfl) rfl fun b _ _ => ⟨⟨rfl, rfl, rfl⟩, Or.inl rfl⟩
  | claim args task n generations htask hgen hne hpending hfetched hins =>
    refine .of_updateWhere (by intro _; rfl) (claimBatches_batches args generations)
      fun b _ hsel => ?_
    simp only [Bool.and_eq_true, decide_eq_true_eq] at hsel
    exact ⟨⟨rfl, rfl, rfl⟩, Or.inr (Or.inr
      ⟨args.row n, (Table.mem_insert hins).mpr (Or.inr rfl), rfl, hsel.2⟩)⟩
  | complete now g outputDatasetId outputSampleCount hg hpending howns =>
    exact .of_updateWhere (by intro _; rfl) (consumeBatches_batches now g outputDatasetId _)
      fun b _ _ => ⟨⟨rfl, rfl, rfl⟩, Or.inr (Or.inl rfl)⟩
  | fail now g reason reason' hg hpending =>
    exact .of_updateWhere (by intro _; rfl) (restoreBatches_batches now g reason')
      fun b _ _ => ⟨⟨rfl, rfl, rfl⟩, Or.inl rfl⟩
  | toggle g disabled hg hdisabled =>
    have hflag : ∃ g' ∈ (toggled g disabled db).generations,
        g'.generationTaskId = g.generationTaskId ∧ g'.inputBatchIds = g.inputBatchIds := by
      refine ⟨{ g with disabled := disabled }, ?_, rfl, rfl⟩
      have hmem : { g with disabled := disabled } ∈ db.generations.update g.generationTaskId
          (fun g => { g with disabled := disabled }) (key_disabled disabled) :=
        Table.mem_update.mpr ⟨g, hg, by simp⟩
      simp only [toggled]
      split <;> split <;> simpa using hmem
    refine movedBatches_from g disabled ?_ hflag
    rw [← movedBatches_batches g disabled (db.generations.update g.generationTaskId
      (fun g => { g with disabled := disabled }) (key_disabled disabled))]
    simp only [toggled]
    split <;> split <;> simp
  | recordQa =>
    refine .of_eq ?_
    simp only [recordQaOutput]
    split <;> rfl
  | updateTask verdict args task final written htask hguard hfinal hwritten =>
    exact fun b' hb' => Or.inl ⟨b', writeTask_batches_subset hb', .refl _ b'⟩
  | _ => exact .of_eq rfl

theorem apply_uuids (env : Env) (op : Op) {uuid : String} (h : uuid ∈ db.uuids) :
    uuid ∈ (op.apply env db).uuids := by
  have heffect := op.effect env db
  generalize op.apply env db = db' at heffect ⊢
  cases heffect with
  | create => exact List.mem_cons_of_mem _ h
  | complete => simpa [consumeBatches_uuids] using h
  | toggle =>
    simp only [toggled]
    split <;> split <;> simpa using h
  | recordQa =>
    simp only [recordQaOutput]
    split <;> exact h
  | updateTask => simpa using h
  | _ => exact h

theorem OwnedBy.apply (env : Env) (op : Op) {taskId userId : String}
    (h : OwnedBy db.tasks taskId userId) : OwnedBy (op.apply env db).tasks taskId userId := by
  obtain ⟨task, htask, hid, huser⟩ := h
  obtain ⟨task', htask', hkey, hlife⟩ := (@apply_tasksStep False env db op).lives task htask
  exact ⟨task', htask', hkey.trans hid, hlife.owner.trans huser⟩

theorem mem_apply_generations (env : Env) (op : Op) {g' : ExternalSyncGeneration}
    (hg' : g' ∈ (op.apply env db).generations) :
    ∃ g, ((g ∈ db.generations) ∨ g.inputBatchIds ≠ [] ∧ g.NamesOwn db) ∧
      g'.inputBatchIds = g.inputBatchIds ∧ g'.taskId = g.taskId ∧ g'.userId = g.userId := by
  obtain ⟨g, hg, -, hlife⟩ := (apply_generations_evolve env db op).comes g' hg'
  refine ⟨g, hg.imp_right fun hnew => ⟨hnew.1.inputs, hnew.2⟩, ?_⟩
  rw [← hlife.inputs]
  exact ⟨rfl, rfl, rfl⟩

theorem TenantInv.apply (env : Env) (op : Op) (h : TenantInv db) : TenantInv (op.apply env db) := by
  by_cases hsame : op.apply env db = db
  · rw [hsame]
    exact h
  have hbatch := apply_batchesFrom env db op
  have hnamed : ∀ g ∈ (op.apply env db).generations, ∀ id ∈ g.inputBatchIds, id ∈ db.uuids := by
    intro g' hg' id hid
    obtain ⟨g, hg | ⟨-, hown⟩, hinputs, -, -⟩ := mem_apply_generations env op hg'
    · exact h.named g hg id (hinputs ▸ hid)
    · obtain ⟨b, hb, rfl, -, -⟩ := hown id (hinputs ▸ hid)
      exact h.issued b hb
  refine ⟨?_, ?_, ?_, ?_, fun g hg id hid => apply_uuids env op (hnamed g hg id hid), ?_, ?_⟩
  · intro b' hb'
    rcases hbatch b' hb' with ⟨b, hb, hlife⟩ | ⟨-, -, -, howned⟩
    · rw [hlife.columns.2.1, hlife.columns.2.2]
      exact (h.batches b hb).apply env op
    · exact howned.apply env op
  · intro g' hg'
    obtain ⟨g, hg, -, htask, huser⟩ := mem_apply_generations env op hg'
    rw [htask, huser]
    rcases hg with hg | ⟨hne, hown⟩
    · exact (h.generations g hg).apply env op
    · obtain ⟨id, hid⟩ := List.exists_mem_of_ne_nil g.inputBatchIds hne
      obtain ⟨b, hb, -, hbtask, hbuser⟩ := hown id hid
      exact hbtask ▸ hbuser ▸ (h.batches b hb).apply env op
  · intro t' ht'
    obtain ⟨t, ht, -, hlife⟩ := (apply_trainings_evolve env db op).comes t' ht'
    have howner : t'.taskId = t.taskId ∧ t'.userId = t.userId := by
      rw [← hlife.claim]
      exact ⟨rfl, rfl⟩
    rw [howner.1, howner.2]
    rcases ht with ht | ⟨-, args, hop, htask, huser⟩
    · exact (h.trainings t ht).apply env op
    · have hchecked := owner_checked env db (Or.inr ⟨args, hop, htask, huser⟩)
      exact (hchecked.resolve_left hsame).apply env op
  · intro b' hb'
    rcases hbatch b' hb' with ⟨b, hb, hlife⟩ | ⟨-, hissued, -, -⟩
    · rw [hlife.columns.1]
      exact apply_uuids env op (h.issued b hb)
    · exact hissued
  · intro g' hg' b' hb' hin
    rcases hbatch b' hb' with ⟨b, hb, hlife⟩ | ⟨hfresh, -, -, -⟩
    · obtain ⟨g, hg, hinputs, htask, huser⟩ := mem_apply_generations env op hg'
      rw [hinputs, hlife.columns.1] at hin
      rw [htask, huser, hlife.columns.2.1, hlife.columns.2.2]
      rcases hg with hg | ⟨-, hown⟩
      · exact h.inputs g hg b hb hin
      · obtain ⟨b₀, hb₀, hid, howner⟩ := hown b.batchId hin
        rwa [Table.eq_of_key hb₀ hb hid] at howner
    · exact absurd (hnamed g' hg' b'.batchId hin) hfresh
  · intro b' hb' id hid
    rcases hbatch b' hb' with ⟨b, hb, hlife⟩ | ⟨-, -, hnone, -⟩
    · rcases hlife.held with hnone | hkept | ⟨g, hg, hholder, hin⟩
      · rw [hnone] at hid
        cases hid
      · obtain ⟨g, hg, rfl, hin⟩ := h.held b hb id (hkept.symm.trans hid)
        obtain ⟨g', hg', hkey, hglife⟩ := (apply_generations_evolve env db op).lives g hg
        rw [← hglife.inputs] at hin
        exact ⟨g', hg', hkey, hlife.columns.1 ▸ hin⟩
      · exact ⟨g, hg, Option.some.inj (hholder.symm.trans hid), hin⟩
    · rw [hnone] at hid
      cases hid

end Step

/-- In every run every batch, generation and training belongs to the user of its task, the batches
that a generation names are of its own task and user, and no generation holds a batch that it does
not name: no operation, whoever calls it and with what arguments, gives one user the data of
another. -/
theorem rows_of_one_owner (env : Env) {db : Database} (h : TenantInv db) (ops : List Op) :
    TenantInv (db.run env ops) :=
  exec_invariant (fun _ op hinv _ => hinv.apply env op) h (Admits.of_forall fun _ _ => trivial)

theorem tenantInv_ofTask (task : ExternalSyncTask) : TenantInv (Database.ofTask task) := by
  constructor <;> intro r hr <;> exact absurd hr (Table.not_mem_empty r)

theorem rows_of_one_owner_first :
    TenantInv ((Database.ofTask generatingTask).run defaultEnv firstGeneration) :=
  rows_of_one_owner defaultEnv (tenantInv_ofTask generatingTask) firstGeneration

end Sync
